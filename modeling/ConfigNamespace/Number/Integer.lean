import ConfigNamespace.Number.Numeral
import ConfigNamespace.Text.Blank
import ConfigNamespace.Text.Quoted

/-!
# Integers

An integer is written as a sign and digits, with single underscores between digits if wanted and
blanks around it. Very long numerals are refused, because reading them takes too long.
-/

namespace ConfigNamespace

/-- Why a text is no integer. -/
inductive IntegerFault
  /-- The text, here without blanks around it, is no numeral. -/
  | malformed (literal : Text)
  /-- The numeral has more digits than are read. -/
  | tooLong (digits : Nat)
  deriving DecidableEq

/-- How many digits an integer may have. -/
def maxIntegerDigits : Nat := 4300

/-- The wording of a fault. A long literal is cut off. -/
def IntegerFault.message : IntegerFault → Text
  | .malformed literal =>
    text "invalid literal for int() with base 10: " ++ literal.quoted.take 200
  | .tooLong digits =>
    text "Exceeds the limit (" ++ Text.ofNat maxIntegerDigits ++
    text " digits) for integer string conversion: value has " ++ Text.ofNat digits ++
    text " digits; use sys.set_int_max_str_digits() to increase the limit"

/-- Reads an integer. The length is judged before what follows the digits. -/
def readInteger (s : Text) : Except IntegerFault Int :=
  let literal := s.trim
  let signed := literal.splitSign
  let run := signed.2.groupedRun
  match run.1.ungrouped? with
  | none => .error (.malformed literal)
  | some digits =>
    if maxIntegerDigits < digits.length then .error (.tooLong digits.length)
    else if digits.isEmpty || !run.2.isEmpty then .error (.malformed literal)
    else
      let n : Nat := natOfDigits digits.digitRun.1
      .ok (if signed.1 then -n else n)

end ConfigNamespace
