import ConfigNamespace.Text.CodePoint

/-!
# UTF-8

The encoding of a code point takes one to four bytes. Reading refuses overlong forms, surrogates
and numbers beyond the code space, and says how many bytes the refused sequence has.
-/

namespace ConfigNamespace

/-- Why bytes are no text. -/
inductive DecodeFault
  /-- A byte that begins no character. -/
  | invalidStart
  /-- A byte that cannot go on with the character begun before it. -/
  | invalidContinuation
  /-- The bytes end within a character. -/
  | unexpectedEnd
  /-- A byte above 127 where only 128 characters exist. -/
  | outOfRange
  /-- A byte without a character. -/
  | undefinedByte
  /-- The bytes end within a unit of two bytes. -/
  | truncated
  /-- The second half of a pair without the first. -/
  | illegalEncoding
  /-- The first half of a pair that is not followed by the second. -/
  | illegalSurrogate
  deriving DecidableEq, Repr

/-- The wording of a fault. -/
def DecodeFault.message : DecodeFault → String
  | .invalidStart => "invalid start byte"
  | .invalidContinuation => "invalid continuation byte"
  | .unexpectedEnd => "unexpected end of data"
  | .outOfRange => "ordinal not in range(128)"
  | .undefinedByte => "character maps to <undefined>"
  | .truncated => "truncated data"
  | .illegalEncoding => "illegal encoding"
  | .illegalSurrogate => "illegal UTF-16 surrogate"

/-- What the first bytes of a row stand for: a character or a fault, with the bytes it takes. -/
inductive Utf8Step
  /-- A character of the given width. -/
  | character (c : CodePoint) (width : Nat)
  /-- A sequence of the given width that is no character. -/
  | fault (fault : DecodeFault) (width : Nat)
  deriving DecidableEq

/-- Whether a byte goes on with a character begun before it. -/
def isContinuation (b : UInt8) : Bool := 0x80 ≤ b.toNat && b.toNat < 0xC0

/-- The value of a continuation byte. -/
def continuationBits (b : UInt8) : Nat := b.toNat % 0x40

/-- Whether the second byte suits the first of a character of three or four bytes: overlong forms,
surrogates and numbers beyond the code space are refused here. -/
def secondSuits (first second : UInt8) : Bool :=
  isContinuation second &&
  (first.toNat != 0xE0 || 0xA0 ≤ second.toNat) && (first.toNat != 0xED || second.toNat < 0xA0) &&
  (first.toNat != 0xF0 || 0x90 ≤ second.toNat) && (first.toNat != 0xF4 || second.toNat < 0x90)

/-- The step that a first byte and the bytes after it make. -/
def utf8Step (b : UInt8) (rest : List UInt8) : Utf8Step :=
  if b.toNat < 0x80 then .character (CodePoint.ofNat b.toNat) 1
  else if b.toNat < 0xC2 then .fault .invalidStart 1
  else if b.toNat < 0xE0 then
    match rest with
    | [] => .fault .unexpectedEnd 1
    | b₂ :: _ =>
      if isContinuation b₂ then
        .character (CodePoint.ofNat (b.toNat % 0x20 * 0x40 + continuationBits b₂)) 2
      else .fault .invalidContinuation 1
  else if b.toNat < 0xF0 then
    match rest with
    | [] => .fault .unexpectedEnd 1
    | [b₂] => if secondSuits b b₂ then .fault .unexpectedEnd 2 else .fault .invalidContinuation 1
    | b₂ :: b₃ :: _ =>
      if !secondSuits b b₂ then .fault .invalidContinuation 1
      else if !isContinuation b₃ then .fault .invalidContinuation 2
      else .character (CodePoint.ofNat
        ((b.toNat % 0x10 * 0x40 + continuationBits b₂) * 0x40 + continuationBits b₃)) 3
  else if b.toNat < 0xF5 then
    match rest with
    | [] => .fault .unexpectedEnd 1
    | [b₂] => if secondSuits b b₂ then .fault .unexpectedEnd 2 else .fault .invalidContinuation 1
    | [b₂, b₃] =>
      if !secondSuits b b₂ then .fault .invalidContinuation 1
      else if !isContinuation b₃ then .fault .invalidContinuation 2
      else .fault .unexpectedEnd 3
    | b₂ :: b₃ :: b₄ :: _ =>
      if !secondSuits b b₂ then .fault .invalidContinuation 1
      else if !isContinuation b₃ then .fault .invalidContinuation 2
      else if !isContinuation b₄ then .fault .invalidContinuation 3
      else .character (CodePoint.ofNat
        (((b.toNat % 0x08 * 0x40 + continuationBits b₂) * 0x40 + continuationBits b₃) * 0x40 +
          continuationBits b₄)) 4
  else .fault .invalidStart 1

/-- The bytes of a code point. -/
def CodePoint.utf8 (c : CodePoint) : List UInt8 :=
  if c.val < 0x80 then [UInt8.ofNat c.val]
  else if c.val < 0x800 then
    [UInt8.ofNat (0xC0 + c.val / 0x40), UInt8.ofNat (0x80 + c.val % 0x40)]
  else if c.val < 0x10000 then
    [UInt8.ofNat (0xE0 + c.val / 0x1000), UInt8.ofNat (0x80 + c.val / 0x40 % 0x40),
      UInt8.ofNat (0x80 + c.val % 0x40)]
  else
    [UInt8.ofNat (0xF0 + c.val / 0x40000), UInt8.ofNat (0x80 + c.val / 0x1000 % 0x40),
      UInt8.ofNat (0x80 + c.val / 0x40 % 0x40), UInt8.ofNat (0x80 + c.val % 0x40)]

/-- The bytes of a text. -/
def Text.utf8 (s : Text) : List UInt8 := s.flatMap CodePoint.utf8

end ConfigNamespace
