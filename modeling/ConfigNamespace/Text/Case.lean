import ConfigNamespace.Text.CodePoint
import ConfigNamespace.Text.CaseTable

/-!
# Lower and upper case

Names of parameters, types and extensions are compared without regard to case. A letter may have
several letters as its other case, and the Greek sigma has a lower-case form of its own at the
end of a word.
-/

namespace ConfigNamespace

/-- The row that a letter belongs to, and with it its other case. -/
def CaseRow.image? (row : CaseRow) (n : Nat) : Option Nat :=
  if row.first ≤ n ∧ n ≤ row.last ∧ (n - row.first) % row.step = 0 then
    some ((n : Int) + row.shift).toNat
  else none

/-- The other case of a letter by a table of rows and one of sequences. -/
def otherCase (rows : List CaseRow) (sequences : List (Nat × List Nat)) (c : CodePoint) : Text :=
  match sequences.lookup c.val with
  | some others => others.map CodePoint.ofNat
  | none =>
    match rows.findSome? (·.image? c.val) with
    | some other => [CodePoint.ofNat other]
    | none => [c]

/-- The lower case of a letter that does not depend on its neighbours. -/
def CodePoint.lower (c : CodePoint) : Text :=
  if c.val < 0x80 then
    [if 0x41 ≤ c.val ∧ c.val ≤ 0x5A then CodePoint.ofNat (c.val + 0x20) else c]
  else otherCase lowerRows lowerSequences c

/-- The upper case of a letter. -/
def CodePoint.upper (c : CodePoint) : Text :=
  if c.val < 0x80 then
    [if 0x61 ≤ c.val ∧ c.val ≤ 0x7A then CodePoint.ofNat (c.val - 0x20) else c]
  else otherCase upperRows upperSequences c

/-- Whether the nearest character that is not looked through has a case. -/
def nearestIsCased : Text → Bool
  | [] => false
  | c :: s =>
    if inRanges caseIgnorableRanges c.val then nearestIsCased s else inRanges casedRanges c.val

/-- The lower case of the rest of a text, given what stands before it in reverse. A capital sigma
becomes the final form where a letter stands before it and none after it. -/
def lowerAfter : (before : Text) → Text → Text
  | _, [] => []
  | before, c :: s =>
    (if c.val = 0x3A3 then
      [CodePoint.ofNat (if nearestIsCased before && !nearestIsCased s then 0x3C2 else 0x3C3)]
    else c.lower) ++ lowerAfter (c :: before) s

/-- The text in lower case. -/
def Text.toLower (s : Text) : Text := lowerAfter [] s

/-- The text in upper case. -/
def Text.toUpper (s : Text) : Text := s.flatMap CodePoint.upper

end ConfigNamespace
