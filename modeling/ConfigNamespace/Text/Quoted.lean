import ConfigNamespace.Text.Printable

/-!
# Quoted texts

Messages show a text between quotation marks. Single marks are used unless the text holds a
single mark and no double one. The mark, the backslash, tabs and line ends are escaped by a
backslash, and a character that is not printable is written by its number.
-/

namespace ConfigNamespace

/-- The lower-case hexadecimal digits of a number, with zeros before them up to the width. -/
def Text.hex (width n : Nat) : Text :=
  let digits := (Nat.toDigits 16 n).map CodePoint.ofChar
  List.replicate (width - digits.length) (CodePoint.ofChar '0') ++ digits

/-- The bytes that pairs of hexadecimal digits stand for. -/
def Text.bytesOfHex : Text → List UInt8
  | a :: b :: rest =>
    UInt8.ofNat (16 * a.hexDigit?.getD 0 + b.hexDigit?.getD 0) :: Text.bytesOfHex rest
  | _ => []

/-- One character of a text between the given quotation marks. -/
def CodePoint.quoted (mark c : CodePoint) : Text :=
  if c = mark ∨ c = .backslash then [.backslash, c]
  else if c = '\t' then text "\\t"
  else if c = '\n' then text "\\n"
  else if c = '\r' then text "\\r"
  else if c.isPrintable then [c]
  else if c.val < 0x100 then text "\\x" ++ Text.hex 2 c.val
  else if c.val < 0x10000 then text "\\u" ++ Text.hex 4 c.val
  else text "\\U" ++ Text.hex 8 c.val

/-- The quotation mark of a text: a single one, unless only a double one needs no escape. -/
def Text.quoteMark (s : Text) : CodePoint :=
  if List.elem .singleQuote s ∧ ¬ List.elem .doubleQuote s then .doubleQuote else .singleQuote

/-- The text between quotation marks. -/
def Text.quoted (s : Text) : Text :=
  let mark := Text.quoteMark s
  mark :: (s.flatMap (CodePoint.quoted mark)) ++ [mark]

/-- A row of bytes between quotation marks, with a sign before them that tells bytes from text. -/
def quotedBytes (bytes : List UInt8) : Text :=
  let chars : Text := bytes.map fun b => CodePoint.ofNat b.toNat
  let mark := Text.quoteMark chars
  CodePoint.ofChar 'b' :: mark :: (chars.flatMap fun c =>
    if c.val < 0x7F then CodePoint.quoted mark c else text "\\x" ++ Text.hex 2 c.val) ++ [mark]

end ConfigNamespace
