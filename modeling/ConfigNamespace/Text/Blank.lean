import ConfigNamespace.Text.CodePoint

/-!
# Blanks and lines

Two sets of characters govern how documents are read: the blanks, which are trimmed away, and the
characters that end a line. A carriage return and a line feed after it end one line together.
-/

namespace ConfigNamespace

/-- The blank characters: spaces, tabs, line ends and the four information separators. -/
def CodePoint.isBlank (c : CodePoint) : Bool :=
  (0x09 ≤ c.val && c.val ≤ 0x0D) || (0x1C ≤ c.val && c.val ≤ 0x20) || c.val == 0x85 ||
  c.val == 0xA0 || c.val == 0x1680 || (0x2000 ≤ c.val && c.val ≤ 0x200A) ||
  c.val == 0x2028 || c.val == 0x2029 || c.val == 0x202F || c.val == 0x205F || c.val == 0x3000

/-- The characters that end a line. -/
def CodePoint.isLineEnd (c : CodePoint) : Bool :=
  (0x0A ≤ c.val && c.val ≤ 0x0D) || (0x1C ≤ c.val && c.val ≤ 0x1E) || c.val == 0x85 ||
  c.val == 0x2028 || c.val == 0x2029

/-- Every character that ends a line is blank. -/
theorem CodePoint.isBlank_of_isLineEnd {c : CodePoint} (h : c.isLineEnd = true) :
    c.isBlank = true := by
  simp only [isLineEnd, isBlank, Bool.or_eq_true, Bool.and_eq_true, decide_eq_true_eq,
    beq_iff_eq] at *
  omega

namespace Text

/-- The text without the blanks at its start. -/
def trimStart (s : Text) : Text := s.dropWhile CodePoint.isBlank

/-- The text without the blanks at its end. -/
def trimEnd (s : Text) : Text := (s.reverse.dropWhile CodePoint.isBlank).reverse

/-- The text without the blanks at both ends. -/
def trim (s : Text) : Text := trimEnd (trimStart s)

/-- Puts a character in front of the first of several lines. -/
def consLine (c : CodePoint) : List Text → List Text
  | [] => [[c]]
  | line :: lines => (c :: line) :: lines

/-- The lines of a text without their ends. A text that ends with a line end has no further empty
line after it. -/
def lines : Text → List Text
  | [] => []
  | c :: s =>
    if c.isLineEnd then
      match s with
      | d :: s' => if c.val = 0x0D ∧ d.val = 0x0A then [] :: lines s' else [] :: lines (d :: s')
      | [] => [[]]
    else consLine c (lines s)

end Text

end ConfigNamespace
