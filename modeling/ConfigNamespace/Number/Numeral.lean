import ConfigNamespace.Number.Power
import ConfigNamespace.Text.Digit

/-!
# Numerals

What the readers of numbers share: runs of digits of any script, underscores that group digits,
and the value of a run.
-/

namespace ConfigNamespace

/-- The value of digits in base ten, the most significant first. -/
def natOfDigits (digits : List Nat) : Nat := digits.foldl (fun n d => 10 * n + d) 0

namespace Text

/-- The digits at the start of a text, and what follows them. -/
def digitRun : Text → List Nat × Text
  | [] => ([], [])
  | c :: s =>
    match c.digit? with
    | some d => (d :: (digitRun s).1, (digitRun s).2)
    | none => ([], c :: s)

/-- The digits and underscores at the start of a text, and what follows them. -/
def groupedRun : Text → Text × Text
  | [] => ([], [])
  | c :: s =>
    if c = '_' ∨ c.digit?.isSome then (c :: (groupedRun s).1, (groupedRun s).2) else ([], c :: s)

/-- A text without its underscores, provided that each of them stands between two digits. The flag
tells whether a digit stands before the text. -/
def ungroupedFrom : (afterDigit : Bool) → Text → Option Text
  | _, [] => some []
  | afterDigit, c :: s =>
    if c = '_' then
      match s with
      | d :: _ => if afterDigit && d.digit?.isSome then ungroupedFrom false s else none
      | [] => none
    else (ungroupedFrom c.digit?.isSome s).map (c :: ·)

/-- A text without its underscores, provided that each of them stands between two digits. -/
def ungrouped? (s : Text) : Option Text := ungroupedFrom false s

/-- Takes a sign off the front of a text; the flag tells whether it was a minus. -/
def splitSign : Text → Bool × Text
  | [] => (false, [])
  | c :: s => if c = '-' then (true, s) else if c = '+' then (false, s) else (false, c :: s)

/-- An exponent at the end of a numeral: a letter `e`, a sign and digits, or nothing at all. -/
def exponent? : Text → Option Int
  | [] => some 0
  | c :: s =>
    if c = 'e' ∨ c = 'E' then
      match digitRun (splitSign s).2 with
      | ([], _) => none
      | (digits, []) =>
        some (if (splitSign s).1 then -(natOfDigits digits : Int) else natOfDigits digits)
      | _ => none
    else none

end Text

/-- An unsigned numeral with a fraction and an exponent: the value of its digits, how many they
are, and the power of ten that they are multiplied by. -/
structure Numeral where
  /-- The digits before and after the point. -/
  digits : List Nat
  /-- The power of ten of the last digit. -/
  exponent : Int
  deriving DecidableEq, Repr

/-- Reads a numeral: digits with at most one point and at least one digit, then an exponent. -/
def Numeral.read? (s : Text) : Option Numeral :=
  let whole := s.digitRun
  let fraction : List Nat × Text :=
    match whole.2 with
    | c :: rest => if c = '.' then Text.digitRun rest else ([], c :: rest)
    | [] => ([], [])
  if whole.1.isEmpty && fraction.1.isEmpty then none
  else
    match fraction.2.exponent? with
    | some e => some ⟨whole.1 ++ fraction.1, e - fraction.1.length⟩
    | none => none

end ConfigNamespace
