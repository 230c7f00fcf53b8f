import ConfigNamespace.Markup.Codepage
import ConfigNamespace.Markup.Error
import ConfigNamespace.Text.Encoding
import ConfigNamespace.Text.Search

/-!
# The input of markup

The bytes of a document become symbols under an encoding. Which one is guessed from the first
bytes and may be made more precise by the declaration at the start of the document.
-/

namespace ConfigNamespace

/-- The encodings in which markup is read. -/
inductive MarkupEncoding
  /-- One to four bytes a character. -/
  | utf8
  /-- Units of two bytes. -/
  | utf16 (bigEndian : Bool)
  /-- One byte a character, up to 127. -/
  | ascii
  /-- One byte a character, the first 256 code points. -/
  | latin1
  /-- One byte a character: ASCII, then the given characters. -/
  | codepage (characters : List Nat)
  deriving DecidableEq

/-- How many bytes a character has that begins with the given byte. -/
def leadWidth (b : UInt8) : Nat :=
  if b.toNat < 0xC0 ∨ 0xF5 ≤ b.toNat then 1
  else if b.toNat < 0xE0 then 2
  else if b.toNat < 0xF0 then 3
  else 4

/-- The symbols of UTF-8 after `skip` bytes that belong to the character before. -/
def utf8Symbols : (skip : Nat) → List UInt8 → Symbols
  | _, [] => []
  | skip + 1, _ :: rest => utf8Symbols skip rest
  | 0, b :: rest =>
    if 2 ≤ leadWidth b ∧ (rest.drop (leadWidth b - 2)).isEmpty then [.cut]
    else
      match utf8Step b rest with
      | .character c width => Symbol.ofNat c.val :: utf8Symbols (width - 1) rest
      | .fault _ _ => .malformed :: utf8Symbols 0 rest

/-- The symbols of units of two bytes. The first half of a pair takes the next unit with it. A
single byte at the end gives no symbol. -/
def utf16Symbols (bigEndian : Bool) : List UInt8 → Symbols
  | a :: b :: rest =>
    let unit := unit16 bigEndian a b
    if 0xD800 ≤ unit ∧ unit < 0xDC00 then
      match rest with
      | c :: d :: rest' =>
        Symbol.ofNat (0x10000 + (unit - 0xD800) * 0x400 + unit16 bigEndian c d % 0x400) ::
          utf16Symbols bigEndian rest'
      | _ => [.cut]
    else Symbol.ofNat unit :: utf16Symbols bigEndian rest
  | _ => []

/-- The symbol of a byte in a code page. -/
def codepageSymbol (characters : List Nat) (b : UInt8) : Symbol :=
  if b.toNat < 0x80 then Symbol.ofNat b.toNat
  else
    match characters[b.toNat - 0x80]? with
    | some n => if n = 0xFFFD then .malformed else Symbol.ofNat n
    | none => .malformed

/-- The symbols of bytes. -/
def MarkupEncoding.symbols : MarkupEncoding → List UInt8 → Symbols
  | .utf8, bytes => utf8Symbols 0 bytes
  | .utf16 bigEndian, bytes => utf16Symbols bigEndian bytes
  | .ascii, bytes => bytes.map (codepageSymbol [])
  | .latin1, bytes => bytes.map fun b => Symbol.ofNat b.toNat
  | .codepage characters, bytes => bytes.map (codepageSymbol characters)

/-- How many bytes the smallest character has. -/
def MarkupEncoding.unit : MarkupEncoding → Nat
  | .utf16 _ => 2
  | _ => 1

/-- The encoding that the first bytes show, and how many of them are a mark of the byte order.
Nothing can be said of a single byte that may begin such a mark or a tag. -/
def MarkupEncoding.detect? : List UInt8 → Option (MarkupEncoding × Nat)
  | [] => some (.utf8, 0)
  | [b] => if b = 0xFE ∨ b = 0xFF ∨ b = 0xEF ∨ b = 0x00 ∨ b = 0x3C then none else some (.utf8, 0)
  | a :: b :: rest =>
    if a = 0xFE ∧ b = 0xFF then some (.utf16 true, 2)
    else if a = 0xFF ∧ b = 0xFE then some (.utf16 false, 2)
    else if a = 0xEF ∧ b = 0xBB then
      match rest with
      | [] => none
      | c :: _ => some (.utf8, if c = 0xBF then 3 else 0)
    else if a = 0x00 then some (.utf16 true, 0)
    else if b = 0x00 then some (.utf16 false, 0)
    else some (.utf8, 0)

/-- What the name of an encoding in a declaration leads to. -/
inductive DeclaredEncoding
  /-- The rest of the document is read in this encoding. -/
  | known (encoding : MarkupEncoding)
  /-- The document is refused at the place of the name. -/
  | refused (fault : MarkupFault)
  /-- The document is refused as a whole. -/
  | failed (error : MarkupError)
  deriving DecidableEq

/-- The name of a codec in lower case, with one underscore for each run of other signs within. -/
def codecName (name : Text) : Text :=
  let signs : Text := name.map fun c : CodePoint =>
    if c.isAsciiLetter || c.isAsciiDigit || c = '.' then
      if 0x41 ≤ c.val ∧ c.val ≤ 0x5A then CodePoint.ofNat (c.val + 0x20) else c
    else '_'
  let words := Text.pieces [CodePoint.ofChar '_'] signs
  Text.joinWith [CodePoint.ofChar '_'] (words.filter fun word => word ≠ [])

/-- Whether a codec has one of the given names. -/
def isCodec (names : List String) (codec : Text) : Bool :=
  let plain := Text.replaceChar '.' [CodePoint.ofChar '_'] codec
  names.any fun name => text name = codec || text name = plain

/-- The encoding of a name that markup itself does not know. -/
def foreignEncoding (name : Text) : DeclaredEncoding :=
  let codec := codecName name
  if isCodec asciiNames codec then .known .ascii
  else if isCodec latinNames codec then .known .latin1
  else if isCodec multiByteNames codec then .failed .multiByteEncoding
  else if isCodec binaryNames codec then .failed (.notTextEncoding name)
  else if isCodec foreignNames codec then .refused .unknownEncoding
  else if codec = text "punycode" then .failed .undecodableAscii
  else
    match failingCodecs.find? fun entry => text entry.1 = codec with
    | some entry => .failed (.failingCodec name entry.2)
    | none =>
      match codepages.find? fun page => isCodec page.names codec with
      | some page => .known (.codepage (page.characters.toList.map Char.toNat))
      | none => .failed (.unknownEncoding name)

/-- The encoding of a name that markup knows, in any case. -/
def MarkupEncoding.ofName? (current : MarkupEncoding) (name : Text) : Option MarkupEncoding :=
  let lower := name.map fun c =>
    if 0x41 ≤ c.val ∧ c.val ≤ 0x5A then CodePoint.ofNat (c.val + 0x20) else c
  if lower = text "iso-8859-1" then some .latin1
  else if lower = text "us-ascii" then some .ascii
  else if lower = text "utf-8" then some .utf8
  else if lower = text "utf-16" then some (if current.unit = 2 then current else .utf16 true)
  else if lower = text "utf-16be" then some (.utf16 true)
  else if lower = text "utf-16le" then some (.utf16 false)
  else none

/-- What a declared name leads to while the document is read in the current encoding. An encoding
with units of another size or order cannot be the right one. -/
def MarkupEncoding.redeclare (current : MarkupEncoding) (name : Text) : DeclaredEncoding :=
  match current.ofName? name with
  | some encoding =>
    if encoding.unit ≠ current.unit ∨ (encoding.unit = 2 ∧ encoding ≠ current) then
      .refused .incorrectEncoding
    else .known encoding
  | none => foreignEncoding name

end ConfigNamespace
