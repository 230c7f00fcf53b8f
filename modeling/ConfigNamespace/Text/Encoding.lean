import ConfigNamespace.Text.Quoted
import ConfigNamespace.Text.Utf8

/-!
# Encodings

A document is a row of bytes and is read in one of the encodings below. An error names the codec,
the bytes at fault and the fault.
-/

namespace ConfigNamespace

/-- The encodings in which flat and sectioned documents are read. -/
inductive Encoding
  /-- One to four bytes a character. -/
  | utf8
  /-- UTF-8 with a byte order mark that is dropped. -/
  | utf8Signed
  /-- One byte a character, up to 127. -/
  | ascii
  /-- One byte a character, the first 256 code points. -/
  | latin1
  /-- One byte a character, by code page 1252. -/
  | windows1252
  /-- Units of two bytes in the order that a byte order mark names, little end first without one. -/
  | utf16
  /-- Units of two bytes, little end first. -/
  | utf16LittleEndian
  deriving DecidableEq, Repr

/-- The name of an encoding, as messages give it. -/
def Encoding.name : Encoding → String
  | .utf8 => "utf-8"
  | .utf8Signed => "utf-8-sig"
  | .ascii => "ascii"
  | .latin1 => "latin-1"
  | .windows1252 => "cp1252"
  | .utf16 => "utf-16"
  | .utf16LittleEndian => "utf-16-le"

/-- The encoding of the given name. -/
def Encoding.ofName? (name : String) : Option Encoding :=
  [utf8, utf8Signed, ascii, latin1, windows1252, utf16, utf16LittleEndian].find? (·.name == name)

/-- Bytes that are no text: which codec refused them, where, and why. -/
structure DecodeError where
  /-- The codec that refused the bytes. -/
  codec : String
  /-- The position of the first byte at fault. -/
  position : Nat
  /-- The first byte at fault. -/
  byte : UInt8
  /-- How many bytes are at fault. -/
  count : Nat
  /-- What is wrong with them. -/
  fault : DecodeFault
  deriving DecidableEq, Repr

/-- The wording of a decoding error. -/
def DecodeError.message (e : DecodeError) : Text :=
  CodePoint.ofNat 0x27 :: text e.codec ++ CodePoint.ofNat 0x27 :: text " codec can't decode " ++
  (if e.count = 1 then
    text "byte 0x" ++
      (if e.byte.toNat < 16 then text "0" else []) ++
      (Nat.toDigits 16 e.byte.toNat).map CodePoint.ofChar ++
      text " in position " ++ Text.ofNat e.position
  else
    text "bytes in position " ++ Text.ofNat e.position ++ text "-" ++
      Text.ofNat (e.position + e.count - 1)) ++
  text ": " ++ text e.fault.message

/-- The wording of an encoding error, for a text with surrogates. It tells where the first of them
stand. -/
def Text.encodeFault (s : Text) : Text :=
  let before := s.takeWhile fun c => !c.isSurrogate
  let surrogates := (s.drop before.length).takeWhile CodePoint.isSurrogate
  text "'utf-8' codec can't encode " ++
  (match surrogates with
  | [c] =>
    text "character '\\u" ++ Text.hex 4 c.val ++ text "' in position " ++ Text.ofNat before.length
  | _ =>
    text "characters in position " ++ Text.ofNat before.length ++ text "-" ++
      Text.ofNat (before.length + surrogates.length - 1)) ++
  text ": surrogates not allowed"

/-- Reads UTF-8 from a position on; `skip` bytes belong to the character read before. -/
def decodeUtf8From : (position skip : Nat) → List UInt8 → Except DecodeError Text
  | _, _, [] => .ok []
  | position, skip + 1, _ :: rest => decodeUtf8From (position + 1) skip rest
  | position, 0, b :: rest =>
    match utf8Step b rest with
    | .character c width =>
      match decodeUtf8From (position + 1) (width - 1) rest with
      | .ok s => .ok (c :: s)
      | .error e => .error e
    | .fault fault width => .error ⟨"utf-8", position, b, width, fault⟩

/-- Reads one byte a character from a position on, by a table. -/
def decodeTableFrom (codec : String) (fault : DecodeFault) (table : UInt8 → Option CodePoint) :
    (position : Nat) → List UInt8 → Except DecodeError Text
  | _, [] => .ok []
  | position, b :: rest =>
    match table b with
    | none => .error ⟨codec, position, b, 1, fault⟩
    | some c =>
      match decodeTableFrom codec fault table (position + 1) rest with
      | .ok s => .ok (c :: s)
      | .error e => .error e

/-- The unit of two bytes in the given order. -/
def unit16 (bigEndian : Bool) (a b : UInt8) : Nat :=
  if bigEndian then a.toNat * 0x100 + b.toNat else b.toNat * 0x100 + a.toNat

/-- Reads units of two bytes from a position on. -/
def decodeUtf16From (bigEndian : Bool) : (position : Nat) → List UInt8 → Except DecodeError Text
  | _, [] => .ok []
  | position, [a] => .error ⟨codec, position, a, 1, .truncated⟩
  | position, a :: b :: rest =>
    let unit := unit16 bigEndian a b
    if unit < 0xD800 ∨ 0xE000 ≤ unit then
      match decodeUtf16From bigEndian (position + 2) rest with
      | .ok s => .ok (CodePoint.ofNat unit :: s)
      | .error e => .error e
    else if 0xDC00 ≤ unit then .error ⟨codec, position, a, 2, .illegalEncoding⟩
    else
      match rest with
      | c :: d :: rest' =>
        let low := unit16 bigEndian c d
        if 0xDC00 ≤ low ∧ low < 0xE000 then
          match decodeUtf16From bigEndian (position + 4) rest' with
          | .ok s => .ok (CodePoint.ofNat (0x10000 + (unit - 0xD800) * 0x400 + (low - 0xDC00)) :: s)
          | .error e => .error e
        else .error ⟨codec, position, a, 2, .illegalSurrogate⟩
      | _ => .error ⟨codec, position, a, 2 + rest.length, .unexpectedEnd⟩
where
  codec : String := if bigEndian then "utf-16-be" else "utf-16-le"

/-- Reads units of two bytes in the order that a byte order mark names. -/
def decodeUtf16 : List UInt8 → Except DecodeError Text
  | a :: b :: rest =>
    if a = 0xFF ∧ b = 0xFE then decodeUtf16From false 2 rest
    else if a = 0xFE ∧ b = 0xFF then decodeUtf16From true 2 rest
    else decodeUtf16From false 0 (a :: b :: rest)
  | bytes => decodeUtf16From false 0 bytes

/-- The characters of code page 1252 from 128 to 159; zero marks a byte without one. -/
def windows1252Row : List Nat := [
  0x20AC, 0, 0x201A, 0x0192, 0x201E, 0x2026, 0x2020, 0x2021, 0x02C6, 0x2030, 0x0160, 0x2039,
  0x0152, 0, 0x017D, 0, 0, 0x2018, 0x2019, 0x201C, 0x201D, 0x2022, 0x2013, 0x2014, 0x02DC,
  0x2122, 0x0161, 0x203A, 0x0153, 0, 0x017E, 0x0178]

/-- The character of a byte by code page 1252. -/
def windows1252Char (b : UInt8) : Option CodePoint :=
  if b.toNat < 0x80 ∨ 0xA0 ≤ b.toNat then some (CodePoint.ofNat b.toNat)
  else
    match windows1252Row[b.toNat - 0x80]? with
    | some 0 | none => none
    | some n => some (CodePoint.ofNat n)

/-- The text of a row of bytes. -/
def Encoding.decode : Encoding → List UInt8 → Except DecodeError Text
  | .utf8, bytes => decodeUtf8From 0 0 bytes
  | .utf8Signed, bytes =>
    match bytes with
    | 0xEF :: 0xBB :: 0xBF :: rest => decodeUtf8From 0 0 rest
    | _ => decodeUtf8From 0 0 bytes
  | .ascii, bytes =>
    decodeTableFrom "ascii" .outOfRange
      (fun b => if b.toNat < 0x80 then some (CodePoint.ofNat b.toNat) else none) 0 bytes
  | .latin1, bytes => .ok (bytes.map fun b => CodePoint.ofNat b.toNat)
  | .windows1252, bytes => decodeTableFrom "charmap" .undefinedByte windows1252Char 0 bytes
  | .utf16, bytes => decodeUtf16 bytes
  | .utf16LittleEndian, bytes => decodeUtf16From false 0 bytes

end ConfigNamespace
