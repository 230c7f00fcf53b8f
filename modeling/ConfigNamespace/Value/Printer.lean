import ConfigNamespace.Number.Shortest
import ConfigNamespace.Text.Quoted
import ConfigNamespace.Value.Basic

/-!
# Shown values

A value is shown in two ways: spelled out, with texts between quotation marks, as it stands within
messages and collections; and plainly, where a text is shown as it is. A collection that holds
something that cannot be shown cannot be shown either.
-/

namespace ConfigNamespace

/-- A date spelled out. -/
def Date.spelled (d : Date) : Text :=
  text "datetime.date(" ++ Text.ofNat d.year ++ text ", " ++ Text.ofNat d.month ++ text ", " ++
  Text.ofNat d.day ++ text ")"

/-- An offset spelled out. -/
def Offset.spelled : Offset → Text
  | .utc => text "datetime.timezone.utc"
  | .fixed microseconds =>
    text "datetime.timezone(" ++ durationText microseconds ++ text ")"

/-- A date with a time of day spelled out: seconds and microseconds where there are any. -/
def DateTime.spelled (t : DateTime) : Text :=
  let numbers := [t.date.year, t.date.month, t.date.day, t.time.hour, t.time.minute] ++
    (if t.time.microsecond ≠ 0 then [t.time.second, t.time.microsecond]
    else if t.time.second ≠ 0 then [t.time.second] else [])
  text "datetime.datetime(" ++ List.intercalate (text ", ") (numbers.map Text.ofNat) ++
  (match t.offset with
  | some offset => text ", tzinfo=" ++ offset.spelled
  | none => []) ++ text ")"

/-- A protocol spelled out. -/
def Protocol.spelled (p : Protocol) : Text :=
  text "<ResourceProtocol." ++ text p.name ++ text ": " ++ (text p.scheme).quoted ++ text ">"

/-- A kind of location spelled out. -/
def Location.spelled (l : Location) : Text :=
  text "<Location." ++ text l.name ++ text ": " ++ (text l.word).quoted ++ text ">"

/-- A handle spelled out. -/
def ResourceHandle.spelled (h : ResourceHandle) : Text :=
  text "ResourceHandle(protocol=" ++ h.protocol.spelled ++ text ", location=" ++
  Text.quoted h.location ++ text ")"

/-- A composite spelled out. -/
def Composite.spelled {α : Type} (c : Composite α) : Text :=
  text "<CompositeResource name=" ++ Text.quoted c.name ++ text " identity=" ++
  Text.quoted c.identity ++ text ">"

/-- Shown parts with commas between them. -/
def commaSeparated (parts : List Text) : Text := Text.joinWith (text ", ") parts

/-- A row of fixed length; a single part is followed by a comma. -/
def roundBrackets : List Text → Text
  | [part] => text "(" ++ part ++ text ",)"
  | parts => text "(" ++ commaSeparated parts ++ text ")"

/-- Curly brackets around a text. -/
def curlyBrackets (s : Text) : Text := CodePoint.ofNat 0x7B :: s ++ [CodePoint.ofNat 0x7D]

namespace Value

mutual

/-- A value spelled out, if it can be shown; `views` shows the namespaces of the family. -/
def spelled? (views : Nat → Text) : Value → Option Text
  | .none => some (text "None")
  | .bool b => some (text (if b then "True" else "False"))
  | .str s => some s.quoted
  | .int i => some (Text.ofInt i)
  | .double d => some d.render
  | .decimal d => some (text "Decimal(" ++ Text.quoted d.render ++ text ")")
  | .date d => some d.spelled
  | .dateTime t => some t.spelled
  | .path p => some (text "PosixPath(" ++ Text.quoted p.render ++ text ")")
  | .bytes bs => some (quotedBytes bs)
  | .list vs => (spelledAll? views vs).map fun parts => text "[" ++ commaSeparated parts ++ text "]"
  | .tuple vs => (spelledAll? views vs).map roundBrackets
  | .dict entries => (spelledEntries? views entries).map fun parts =>
      curlyBrackets (commaSeparated parts)
  | .handle h => some h.spelled
  | .protocol p => some p.spelled
  | .location l => some l.spelled
  | .composite c => some c.spelled
  | .view number => some (views number)
  | .unprintable => Option.none

/-- All values of a list spelled out, if all can be shown. -/
def spelledAll? (views : Nat → Text) : List Value → Option (List Text)
  | [] => some []
  | v :: vs =>
    match spelled? views v, spelledAll? views vs with
    | some part, some parts => some (part :: parts)
    | _, _ => Option.none

/-- Keys and values spelled out, if all can be shown. -/
def spelledEntries? (views : Nat → Text) : List (Value × Value) → Option (List Text)
  | [] => some []
  | (k, v) :: entries =>
    match spelled? views k, spelled? views v, spelledEntries? views entries with
    | some key, some value, some parts => some ((key ++ text ": " ++ value) :: parts)
    | _, _, _ => Option.none

end

/-- What is shown in place of something that cannot be shown. -/
def unshown : Text := text "<unreprable>"

/-- A value spelled out. -/
def spelled (views : Nat → Text) (v : Value) : Text := (v.spelled? views).getD unshown

/-- A value shown plainly. -/
def plain (views : Nat → Text) : Value → Text
  | .str s => s
  | .decimal d => d.render
  | .date d => d.render
  | .dateTime t => t.render ' '
  | .path p => p.render
  | .handle h => h.render
  | .protocol p => text "ResourceProtocol." ++ text p.name
  | .location l => text "Location." ++ text l.name
  | .composite c => c.identity
  | v => v.spelled views

end Value

end ConfigNamespace
