import ConfigNamespace.Markup.Symbol

/-!
# Errors in markup

An error says what is wrong and where. Three kinds of documents are refused without a place: those
that name an encoding which is not known, which has several bytes a character, or which gives no
text at all.
-/

namespace ConfigNamespace

/-- What is wrong with a document in markup. -/
inductive MarkupFault
  /-- A token stands where it may not. -/
  | unexpectedToken
  /-- The document ends before its element does. -/
  | noElement
  /-- A symbol stands where it may not. -/
  | invalidToken
  /-- The document ends within a token. -/
  | unclosedToken
  /-- The document ends within a character. -/
  | partialCharacter
  /-- An end tag with another name than its start tag. -/
  | mismatchedTag
  /-- An attribute that a tag has twice. -/
  | duplicateAttribute
  /-- Something other than comments after the element. -/
  | junkAfterElement
  /-- A reference to a parameter entity within a declaration. -/
  | parameterReference
  /-- A reference to an entity that is not declared. -/
  | undefinedEntity
  /-- An entity that refers to itself. -/
  | recursiveEntity
  /-- An entity that does not hold whole elements. -/
  | asynchronousEntity
  /-- A number that is not that of a character. -/
  | invalidCharacterNumber
  /-- A reference to an entity that is not parsed. -/
  | binaryEntity
  /-- A reference to an external entity within an attribute. -/
  | externalEntityInAttribute
  /-- A declaration of the markup that is not at the start. -/
  | misplacedDeclaration
  /-- A name of an encoding that does not suit markup. -/
  | unknownEncoding
  /-- A name of an encoding other than the one in use. -/
  | incorrectEncoding
  /-- A section of character data without an end. -/
  | unclosedSection
  /-- A prefix that is not bound to a namespace. -/
  | unboundPrefix
  /-- A prefix bound to the empty namespace. -/
  | undeclaredPrefix
  /-- A malformed declaration of the markup. -/
  | malformedDeclaration
  /-- A character that a public identifier may not hold. -/
  | publicIdentifier
  /-- The reserved prefix bound to another namespace. -/
  | reservedPrefix
  /-- The prefix of declarations bound to a namespace. -/
  | reservedDeclarationPrefix
  /-- A prefix bound to a reserved namespace. -/
  | reservedNamespace
  /-- Entities that hold far more text than the document. -/
  | amplification
  /-- A reference to an entity whose declaration cannot be seen. -/
  | unseenEntity (name : Text)
  deriving DecidableEq

/-- The wording of a fault. -/
def MarkupFault.message : MarkupFault → Text
  | .unexpectedToken => text "syntax error"
  | .noElement => text "no element found"
  | .invalidToken => text "not well-formed (invalid token)"
  | .unclosedToken => text "unclosed token"
  | .partialCharacter => text "partial character"
  | .mismatchedTag => text "mismatched tag"
  | .duplicateAttribute => text "duplicate attribute"
  | .junkAfterElement => text "junk after document element"
  | .parameterReference => text "illegal parameter entity reference"
  | .undefinedEntity => text "undefined entity"
  | .recursiveEntity => text "recursive entity reference"
  | .asynchronousEntity => text "asynchronous entity"
  | .invalidCharacterNumber => text "reference to invalid character number"
  | .binaryEntity => text "reference to binary entity"
  | .externalEntityInAttribute => text "reference to external entity in attribute"
  | .misplacedDeclaration => text "XML or text declaration not at start of entity"
  | .unknownEncoding => text "unknown encoding"
  | .incorrectEncoding => text "encoding specified in XML declaration is incorrect"
  | .unclosedSection => text "unclosed CDATA section"
  | .unboundPrefix => text "unbound prefix"
  | .undeclaredPrefix => text "must not undeclare prefix"
  | .malformedDeclaration => text "XML declaration not well-formed"
  | .publicIdentifier => text "illegal character(s) in public id"
  | .reservedPrefix =>
    text "reserved prefix (xml) must not be undeclared or bound to another namespace name"
  | .reservedDeclarationPrefix =>
    text "reserved prefix (xmlns) must not be declared or undeclared"
  | .reservedNamespace =>
    text "prefix must not be bound to one of the reserved namespace names"
  | .amplification =>
    text "limit on input amplification factor (from DTD and entities) breached"
  | .unseenEntity name => text "undefined entity &" ++ name ++ text ";"

/-- Why a document in markup is refused. -/
inductive MarkupError
  /-- A fault at a place in the document. -/
  | fault (fault : MarkupFault) (position : TextPosition)
  /-- An encoding that is not known. -/
  | unknownEncoding (name : Text)
  /-- A codec that does not give a text. -/
  | notTextEncoding (name : Text)
  /-- An encoding with several bytes a character. -/
  | multiByteEncoding
  /-- A codec that fails whatever bytes it is tried with; the reason is given. -/
  | failingCodec (name : Text) (reason : String)
  /-- A codec that takes the bytes that it is tried with to be ASCII. -/
  | undecodableAscii
  deriving DecidableEq

/-- The wording of an error. -/
def MarkupError.message : MarkupError → Text
  | .fault reason position =>
    reason.message ++ text ": line " ++ Text.ofNat position.line ++ text ", column " ++
    Text.ofNat position.column
  | .unknownEncoding name => text "unknown encoding: " ++ name
  | .notTextEncoding name =>
    [.singleQuote] ++ name ++ [.singleQuote] ++
    text " is not a text encoding; use codecs.decode() to handle arbitrary codecs"
  | .multiByteEncoding => text "multi-byte encodings are not supported"
  | .failingCodec name reason =>
    text "decoding with '" ++ name ++ text "' codec failed (UnicodeError: " ++ text reason ++ text ")"
  | .undecodableAscii =>
    -- of the 256 bytes that it is tried with, it reads those after the last hyphen
    text "'ascii' codec can't decode byte 0x80 in position 82: ordinal not in range(128)"

end ConfigNamespace
