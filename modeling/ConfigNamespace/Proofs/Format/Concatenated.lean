import ConfigNamespace.Format.Parser
import ConfigNamespace.Proofs.Document.Extended
import ConfigNamespace.Proofs.Text.Lines
import ConfigNamespace.Proofs.Text.Utf8

/-!
# Documents after one another

A document that ends with a line feed can be followed by another one. What both declare together is
what the first declares and then what the second does, as long as nothing of the first goes on into the
second: no line of a flat document, and no section unless the second begins with one of its own. If a
declaration of the second fails, then it fails with the number of its line in the whole.
-/

namespace ConfigNamespace

/-- A failure whose line, if it has one, stands further down in a document. -/
def Failure.movedDown (offset : Nat) : Failure → Failure
  | .line number fault => .line (number + offset) fault
  | failure => failure

namespace Properties

/-- A line with the number that it has further down in a document. -/
def NumberedLine.movedDown (offset : Nat) (line : NumberedLine) : NumberedLine :=
  (line.1 + offset, line.2)

/-- What a line of a document does: the logical lines that it ends, and what goes on after it. -/
def readLine (number : Nat) (pending : Option NumberedLine) (raw : Text) :
    List NumberedLine × Option NumberedLine :=
  match pending with
  | none =>
    if isPassedOver raw.trim then ([], none)
    else if isContinued raw.trim then ([], logicalLines.continued number raw.trim.dropLast)
    else ([(number, raw.trim)], none)
  | some (start, before) =>
    if isContinued raw.trim then ([], logicalLines.continued start (before ++ raw.trim.dropLast))
    else ([(start, before ++ raw.trim)], none)

/-- What goes on after lines of a document. -/
def pendingAfter : (number : Nat) → (pending : Option NumberedLine) → List Text →
    Option NumberedLine
  | _, pending, [] => pending
  | number, pending, raw :: rest => pendingAfter (number + 1) (readLine number pending raw).2 rest

section Lines

variable {number : Nat} {pending : Option NumberedLine} {lines : List Text}

/-- Lines are joined one at a time. -/
theorem logicalLines_cons (number : Nat) (pending : Option NumberedLine) (raw : Text)
    (rest : List Text) :
    logicalLines number pending (raw :: rest) =
      (readLine number pending raw).1 ++
        logicalLines (number + 1) (readLine number pending raw).2 rest := by
  cases pending with
  | none =>
    rw [logicalLines, readLine]
    repeat' split
    all_goals rfl
  | some pending =>
    rw [logicalLines, readLine]
    change (if isContinued raw.trim then _ else _) = _
    split
    all_goals rfl

/-- Where no line goes on, the logical lines of what follows come after those before. -/
theorem logicalLines_append (h : pendingAfter number pending lines = none) (more : List Text) :
    logicalLines number pending (lines ++ more) =
      logicalLines number pending lines ++ logicalLines (number + lines.length) none more := by
  induction lines generalizing number pending with
  | nil =>
    obtain rfl : pending = none := h
    rfl
  | cons raw lines ih =>
    rw [List.cons_append, logicalLines_cons, ih h, logicalLines_cons, List.append_assoc,
      List.length_cons, Nat.add_right_comm, Nat.add_assoc]

/-- What a line does, it does further down as well. -/
theorem readLine_movedDown (offset number : Nat) (pending : Option NumberedLine) (raw : Text) :
    readLine (number + offset) (pending.map (NumberedLine.movedDown offset)) raw =
      ((readLine number pending raw).1.map (NumberedLine.movedDown offset),
        (readLine number pending raw).2.map (NumberedLine.movedDown offset)) := by
  have hcontinued (start : Nat) (before : Text) :
      logicalLines.continued (start + offset) before =
        (logicalLines.continued start before).map (NumberedLine.movedDown offset) := by
    unfold logicalLines.continued
    split <;> rfl
  cases pending with
  | none =>
    rw [Option.map_none, readLine, readLine, hcontinued]
    repeat' split
    all_goals rfl
  | some pending =>
    rw [Option.map_some, readLine, readLine, NumberedLine.movedDown]
    dsimp only
    rw [hcontinued]
    split <;> rfl

/-- The logical lines further down are the same ones with other numbers. -/
theorem logicalLines_movedDown (offset number : Nat) (pending : Option NumberedLine)
    (lines : List Text) :
    logicalLines (number + offset) (pending.map (NumberedLine.movedDown offset)) lines =
      (logicalLines number pending lines).map (NumberedLine.movedDown offset) := by
  induction lines generalizing number pending with
  | nil => cases pending <;> rfl
  | cons raw lines ih =>
    rw [logicalLines_cons, logicalLines_cons, readLine_movedDown, Nat.add_right_comm, ih,
      List.map_append]

end Lines

section Declarations

/-- Lines that follow others declare what they do after what those declare. -/
theorem declarationsOf_append (lines more : List NumberedLine) :
    declarationsOf (lines ++ more) =
      (declarationsOf lines).bind fun declared => (declarationsOf more).map (declared ++ ·) := by
  induction lines with
  | nil => cases hmore : declarationsOf more <;> simp [declarationsOf, hmore, Except.bind, Except.map]
  | cons line lines ih =>
    rw [List.cons_append, declarationsOf, declarationsOf, ih]
    cases declaration line with
    | error failure => rfl
    | ok first =>
      cases declarationsOf lines with
      | error failure => rfl
      | ok declared => cases declarationsOf more <;> rfl

/-- A line declares the same further down, or fails there. -/
theorem declaration_movedDown (offset : Nat) (line : NumberedLine) :
    declaration (line.movedDown offset) =
      (declaration line).mapError (Failure.movedDown offset) := by
  unfold declaration
  dsimp only [NumberedLine.movedDown]
  by_cases hkey : (splitLine line.2).1 = []
  · rw [if_pos hkey, if_pos hkey]
    rfl
  · rw [if_neg hkey, if_neg hkey]
    cases unescape? (splitLine line.2).1 with
    | none => rfl
    | some key => cases unescape? (splitLine line.2).2 <;> rfl

/-- Lines further down declare the same, and their faults are further down. -/
theorem declarationsOf_movedDown (offset : Nat) (lines : List NumberedLine) :
    declarationsOf (lines.map (NumberedLine.movedDown offset)) =
      (declarationsOf lines).mapError (Failure.movedDown offset) := by
  induction lines with
  | nil => rfl
  | cons line lines ih =>
    rw [List.map_cons, declarationsOf, declarationsOf, declaration_movedDown, ih]
    cases declaration line with
    | error failure => rfl
    | ok first => cases declarationsOf lines <;> rfl

/-- A flat document of which nothing goes on is followed by the declarations of the next one. -/
theorem declarations_append {first second : Text}
    (hend : ∀ c ∈ first.getLast?, c = CodePoint.ofChar '\n')
    (hpending : pendingAfter 1 none first.lines = none) :
    declarations (first ++ second) =
      (declarations first).bind fun declared =>
        ((declarations second).mapError (Failure.movedDown first.lines.length)).map
          (declared ++ ·) := by
  have hmoved : logicalLines (1 + first.lines.length) none second.lines =
      (logicalLines 1 none second.lines).map (NumberedLine.movedDown first.lines.length) :=
    logicalLines_movedDown _ _ none _
  rw [declarations, Text.lines_append_of_getLast? hend, logicalLines_append hpending,
    declarationsOf_append, hmoved, declarationsOf_movedDown]
  rfl

end Declarations

end Properties

namespace Sections

/-- The section that lines of a document end in. -/
def sectionAfter (name : Text) : List Text → Text
  | [] => name
  | raw :: rest =>
    match readLine raw.trim with
    | .header name' => sectionAfter name' rest
    | _ => sectionAfter name rest

/-- Whether lines have no header of a section. -/
def HasNoHeader (lines : List Text) : Prop :=
  ∀ line ∈ lines, ∀ name, readLine line.trim ≠ .header name

/-- Whether the first of the lines that is neither empty nor a comment is the header of a section. -/
def BeginsSection (lines : List Text) : Prop :=
  ∀ line ∈ lines.find? fun line => readLine line.trim ≠ .passedOver,
    line.trim.head? = some (CodePoint.ofChar '[')

instance (lines : List Text) : Decidable (BeginsSection lines) :=
  inferInstanceAs (Decidable (∀ line ∈ lines.find? fun line => readLine line.trim ≠ .passedOver,
    line.trim.head? = some (CodePoint.ofChar '[')))

section Lines

variable {delimiter name : Text} {number : Nat} {lines : List Text}

/-- Lines that follow others declare what they do in the section that those end in. -/
theorem declarationsFrom_append (delimiter : Text) (number : Nat) (name : Text)
    (lines more : List Text) :
    declarationsFrom delimiter number name (lines ++ more) =
      (declarationsFrom delimiter number name lines).bind fun declared =>
        (declarationsFrom delimiter (number + lines.length) (sectionAfter name lines) more).map
          (declared ++ ·) := by
  induction lines generalizing number name with
  | nil =>
    change declarationsFrom delimiter number name more =
      Except.map id (declarationsFrom delimiter number name more)
    cases declarationsFrom delimiter number name more <;> rfl
  | cons raw lines ih =>
    have hnumber : number + (raw :: lines).length = number + 1 + lines.length := by
      rw [List.length_cons]
      omega
    rw [List.cons_append, declarationsFrom, declarationsFrom, sectionAfter, hnumber]
    cases readLine raw.trim with
    | passedOver => exact ih (number + 1) name
    | header name' => exact ih (number + 1) name'
    | faulty fault => rfl
    | entry key value =>
      dsimp only
      rw [ih (number + 1) name]
      cases declarationsFrom delimiter (number + 1) name lines with
      | error failure => rfl
      | ok declared =>
        simp only [Except.bind]
        cases declarationsFrom delimiter (number + 1 + lines.length) (sectionAfter name lines)
          more <;> rfl

/-- Without headers, lines end in the section that they begin in. -/
theorem HasNoHeader.sectionAfter_eq (h : HasNoHeader lines) (name : Text) :
    sectionAfter name lines = name := by
  induction lines with
  | nil => rfl
  | cons raw lines ih =>
    have hrest : sectionAfter name lines = name := ih fun line hline =>
      h line (List.mem_cons_of_mem _ hline)
    rw [sectionAfter]
    split
    · next name' hname => exact absurd hname (h raw List.mem_cons_self name')
    · exact hrest

/-- The section before a header makes no difference. -/
theorem BeginsSection.declarationsFrom_eq (h : BeginsSection lines) (delimiter : Text) (number : Nat)
    (name name' : Text) :
    declarationsFrom delimiter number name lines = declarationsFrom delimiter number name' lines := by
  induction lines generalizing number with
  | nil => rfl
  | cons raw lines ih =>
    rw [declarationsFrom, declarationsFrom]
    by_cases hpassed : readLine raw.trim = .passedOver
    · have hrest : BeginsSection lines := by
        simpa [BeginsSection, hpassed] using h
      simp only [hpassed]
      exact ih hrest (number + 1)
    · have hhead : raw.trim.head? = some (CodePoint.ofChar '[') := by
        simpa [BeginsSection, hpassed] using h
      cases htrim : raw.trim with
      | nil => simp [htrim] at hhead
      | cons c s =>
        obtain rfl : c = CodePoint.ofChar '[' := by simpa [htrim] using hhead
        have hline : (∃ name, readLine (CodePoint.ofChar '[' :: s) = .header name) ∨
            ∃ fault, readLine (CodePoint.ofChar '[' :: s) = .faulty fault := by
          rw [readLine, if_neg (by decide), if_pos rfl]
          cases headerName? s with
          | some name => exact .inl ⟨name, rfl⟩
          | none => exact .inr ⟨_, rfl⟩
        rcases hline with ⟨header, hheader⟩ | ⟨fault, hfault⟩
        · simp only [hheader]
        · simp only [hfault]

/-- Within sections, too, lines further down declare the same, and their faults are further down. -/
theorem declarationsFrom_movedDown (delimiter : Text) (offset number : Nat) (name : Text)
    (lines : List Text) :
    declarationsFrom delimiter (number + offset) name lines =
      (declarationsFrom delimiter number name lines).mapError (Failure.movedDown offset) := by
  induction lines generalizing number name with
  | nil => rfl
  | cons raw lines ih =>
    rw [declarationsFrom, declarationsFrom, Nat.add_right_comm]
    cases readLine raw.trim with
    | passedOver => exact ih (number + 1) name
    | header name' => exact ih (number + 1) name'
    | faulty fault => rfl
    | entry key value =>
      dsimp only
      rw [ih (number + 1) name]
      cases declarationsFrom delimiter (number + 1) name lines <;> rfl

/-- A document with sections of which no section goes on is followed by the declarations of the next
one. -/
theorem declarations_append {first second : Text}
    (hend : ∀ c ∈ first.getLast?, c = CodePoint.ofChar '\n')
    (hsection : HasNoHeader first.lines ∨ BeginsSection second.lines) (delimiter : Text) :
    declarations delimiter (first ++ second) =
      (declarations delimiter first).bind fun declared =>
        ((declarations delimiter second).mapError (Failure.movedDown first.lines.length)).map
          (declared ++ ·) := by
  have hname (number : Nat) :
      declarationsFrom delimiter number (sectionAfter [] first.lines) second.lines =
        declarationsFrom delimiter number [] second.lines := by
    rcases hsection with hfirst | hsecond
    · rw [hfirst.sectionAfter_eq]
    · exact hsecond.declarationsFrom_eq delimiter number _ _
  rw [declarations, Text.lines_append_of_getLast? hend, declarationsFrom_append, hname,
    declarationsFrom_movedDown]
  rfl

end Lines

end Sections

namespace Parser

/-- Where the declarations of a whole are those of its parts, its mapping is that of the first part
extended by that of the second. -/
theorem grouped_bind {first second : Except Failure (List (Text × Text))}
    (moved : Failure → Failure) (mapping : RawMapping) :
    grouped (first.bind fun declared => (second.mapError moved).map (declared ++ ·)) = .ok mapping ↔
      ∃ one other, grouped first = .ok one ∧ grouped second = .ok other ∧
        mapping = one.extendedBy other := by
  cases first with
  | error failure => simp [grouped, Except.bind, Except.map]
  | ok declared =>
    cases second with
    | error failure => simp [grouped, Except.bind, Except.map, Except.mapError]
    | ok more =>
      simp only [grouped, Except.bind, Except.map, Except.mapError, Except.ok.injEq,
        ofGrouped_append]
      constructor
      · intro hmapping
        exact ⟨_, _, rfl, rfl, hmapping.symm⟩
      · rintro ⟨_, _, rfl, rfl, rfl⟩
        rfl

/-- Parsing is compositional. Where a document is empty or ends with a line feed and no line of it goes
on, a flat document follows it as if it stood alone: the whole can be read if and only if both parts
can, and its mapping is then that of the first extended by that of the second. So it is with sections,
where lines do not go on, if the first document has no header or the second begins with one. -/
theorem parse_append {first second : Text} (hend : ∀ c ∈ first.getLast?, c = CodePoint.ofChar '\n')
    (delimiter : Text) {encoding : Encoding} {whole one other : List UInt8}
    (hwhole : encoding.decode whole = .ok (first ++ second)) (hone : encoding.decode one = .ok first)
    (hother : encoding.decode other = .ok second) :
    (Properties.pendingAfter 1 none first.lines = none → ∀ mapping,
        ((properties encoding).parse delimiter whole = .ok mapping ↔
          ∃ before after, (properties encoding).parse delimiter one = .ok before ∧
            (properties encoding).parse delimiter other = .ok after ∧
            mapping = before.extendedBy after)) ∧
      (Sections.HasNoHeader first.lines ∨ Sections.BeginsSection second.lines → ∀ mapping,
        ((sections encoding).parse delimiter whole = .ok mapping ↔
          ∃ before after, (sections encoding).parse delimiter one = .ok before ∧
            (sections encoding).parse delimiter other = .ok after ∧
            mapping = before.extendedBy after)) := by
  constructor
  · intro hpending mapping
    rw [parse_properties hwhole, parse_properties hone, parse_properties hother,
      Properties.declarations_append hend hpending]
    exact grouped_bind _ mapping
  · intro hsection mapping
    rw [parse_sections hwhole, parse_sections hone, parse_sections hother,
      Sections.declarations_append hend hsection]
    exact grouped_bind _ mapping

/-- A key of both documents, whose lines are joined in the first unless they stand in sections. -/
theorem parse_append_joined :
    (properties .utf8).parse (text ".") (text "a=1\\\nb=2\n" ++ text "#\n[s]\na:3").utf8 =
      .ok [(text "a", .ofTexts [text "1b=2", text "3"]), (text "[s]", .str [])] ∧
    (sections .utf8).parse (text ".") (text "a=1\\\nb=2\n" ++ text "#\n[s]\na:3").utf8 =
      .ok [(text "a", .str (text "1\\")), (text "b", .str (text "2")),
        (text "s.a", .str (text "3"))] := by
  have hflat : Properties.declarations (text "a=1\\\nb=2\n") = .ok [(text "a", text "1b=2")] ∧
      Properties.declarations (text "#\n[s]\na:3") =
        .ok [(text "[s]", []), (text "a", text "3")] :=
    ⟨eq_ok_of_toOption (by decide +kernel), eq_ok_of_toOption (by decide +kernel)⟩
  have hsections : Sections.declarations (text ".") (text "a=1\\\nb=2\n") =
        .ok [(text "a", text "1\\"), (text "b", text "2")] ∧
      Sections.declarations (text ".") (text "#\n[s]\na:3") = .ok [(text "s.a", text "3")] :=
    ⟨eq_ok_of_toOption (by decide +kernel), eq_ok_of_toOption (by decide +kernel)⟩
  have hpending : Properties.pendingAfter 1 none (text "a=1\\\nb=2\n").lines = none := by
    decide +kernel
  have hbegins : Sections.BeginsSection (text "#\n[s]\na:3").lines := by decide +kernel
  have hwhole : Encoding.utf8.decode (text "a=1\\\nb=2\n" ++ text "#\n[s]\na:3").utf8 =
      .ok (text "a=1\\\nb=2\n" ++ text "#\n[s]\na:3") := decodeUtf8From_utf8 (by decide) 0
  have hone : Encoding.utf8.decode (text "a=1\\\nb=2\n").utf8 = .ok (text "a=1\\\nb=2\n") :=
    decodeUtf8From_utf8 (by decide) 0
  have hother : Encoding.utf8.decode (text "#\n[s]\na:3").utf8 = .ok (text "#\n[s]\na:3") :=
    decodeUtf8From_utf8 (by decide) 0
  have hread := parse_append (by decide) (text ".") hwhole hone hother
  rw [parse_properties hone, parse_properties hother, parse_sections hone, parse_sections hother,
    hflat.1, hflat.2, hsections.1, hsections.2] at hread
  exact ⟨(hread.1 hpending _).mpr ⟨_, _, rfl, rfl, rfl⟩,
    (hread.2 (.inr hbegins) _).mpr ⟨_, _, rfl, rfl, rfl⟩⟩

end Parser

end ConfigNamespace
