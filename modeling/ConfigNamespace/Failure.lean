import ConfigNamespace.Calendar.DateTime
import ConfigNamespace.Markup.Error
import ConfigNamespace.Number.Integer
import ConfigNamespace.Text.Encoding
import ConfigNamespace.Value.Printer

/-!
# Failures

A failure is known by its cause. The kind of a failure and its wording follow from the cause. Most
kinds belong to naming: they are what the operations of a namespace may answer. The others come
from arguments that no operation accepts, and from code that the caller supplies.
-/

namespace ConfigNamespace

/-- The kinds of failures. -/
inductive FailureKind
  /-- Nothing is found under a key. -/
  | notFound
  /-- A key is bound already. -/
  | alreadyBound
  /-- A value is not a namespace and has no entries to list. -/
  | notListable
  /-- A root has a scheme without a protocol. -/
  | unsupportedProtocol
  /-- A type has no converter. -/
  | unsupportedType
  /-- A document or a typed value is malformed. -/
  | parseFailure
  /-- A server takes too long. -/
  | resolutionTimeout
  /-- A key may not be written. -/
  | invalidName
  /-- A resource cannot be read. -/
  | resourceAccess
  /-- The namespace is closed. -/
  | namespaceClosed
  /-- Parameters of an environment are not acceptable. -/
  | environmentRejected
  /-- A parameter is registered already. -/
  | duplicateParameter
  /-- An argument has an impossible value. -/
  | invalidValue
  /-- An argument has an impossible type. -/
  | wrongType
  /-- An object lacks an attribute. -/
  | missingAttribute
  /-- A collection lacks a key. -/
  | missingKey
  /-- An operation is used out of turn, or supplied code fails. -/
  | runtime
  /-- A number is divided by zero. -/
  | zeroDivision
  /-- An operation is not provided. -/
  | notProvided
  /-- The operating system refuses an operation. -/
  | system
  /-- A name of an encoding is not known. -/
  | unknownEncoding
  /-- An encoding cannot be used for what it is to do. -/
  | unusableEncoding
  /-- Bytes are no text in an encoding. -/
  | undecodable
  /-- A text has no bytes in an encoding. -/
  | unencodable
  /-- Calls are nested as deep as the runtime lets them be. -/
  | recursion
  deriving DecidableEq, Repr

/-- Whether a kind of failure belongs to naming. -/
def FailureKind.isNaming : FailureKind → Bool
  | .notFound | .alreadyBound | .notListable | .unsupportedProtocol | .unsupportedType
  | .parseFailure | .resolutionTimeout | .invalidName | .resourceAccess | .namespaceClosed
  | .environmentRejected | .duplicateParameter => true
  | _ => false

/-- The kinds of failures by which a converter refuses a value. Those of encodings are among them. -/
def FailureKind.refusesValue : FailureKind → Bool
  | .invalidValue | .wrongType | .zeroDivision | .unusableEncoding | .undecodable
  | .unencodable => true
  | _ => false

/-- Why a line of a document cannot be read. -/
inductive LineFault
  /-- A line without a key. -/
  | missingKey (line : Text)
  /-- An escape by number without four digits, within a key or a value. -/
  | malformedEscape (part : Text)
  /-- A header of a section that is not closed or has no name. -/
  | malformedSection (line : Text)
  /-- A line without a separator or a key. -/
  | notAssignment (line : Text)
  deriving DecidableEq

/-- The wording of a fault in a line. -/
def LineFault.message : LineFault → Text
  | .missingKey line => text "missing key in " ++ line.quoted
  | .malformedEscape part => text "malformed \\u escape in " ++ part.quoted
  | .malformedSection line => text "malformed section header " ++ line.quoted
  | .notAssignment line => text "expected key=value, got " ++ line.quoted

/-- Why a text cannot be converted to a type. -/
inductive ConversionFault
  /-- The text is no integer. -/
  | integer (fault : IntegerFault)
  /-- The text is no number in double precision; it is given without blanks around it. -/
  | double (literal : Text)
  /-- The text is no truth value. -/
  | bool (raw : Text)
  /-- The text is no decimal number. -/
  | decimal (raw : Text)
  /-- The text is no date, or no time. -/
  | calendar (fault : CalendarFault)
  deriving DecidableEq

/-- The wording of a conversion fault. -/
def ConversionFault.message : ConversionFault → Text
  | .integer fault => fault.message
  | .double literal => text "could not convert string to float: " ++ literal.quoted
  | .bool raw => text "not a boolean: " ++ raw.quoted
  | .decimal raw => text "not a decimal: " ++ raw.quoted
  | .calendar fault => fault.message

/-- What went wrong. -/
inductive Failure
  /-- The delimiter is empty. -/
  | emptyDelimiter
  /-- A key without segments was looked up from the root. -/
  | noSegment (key : Text)
  /-- No document holds a key. -/
  | notConfigured (key : Text)
  /-- The document of a key does not hold it. -/
  | notInDocument (key location : Text)
  /-- A key that is to be renamed is not bound. -/
  | notBound (key : Text)
  /-- A key that is to be bound is bound already. -/
  | boundAlready (key : Text)
  /-- The new key of an entry is bound already. -/
  | newKeyBound (key : Text)
  /-- The value under a key has no entries. -/
  | notListable (key : Text)
  /-- The scheme of a root has no protocol. -/
  | unsupportedScheme (scheme root : Text)
  /-- A protocol has no locator. -/
  | unsupportedProtocol (name : Text)
  /-- A type has no converter. -/
  | unknownType (name : Text)
  /-- A document is not a text in its encoding. -/
  | undecodable (encoding : Encoding) (error : DecodeError)
  /-- A line of a document cannot be read. -/
  | line (number : Nat) (fault : LineFault)
  /-- A document in markup cannot be read. -/
  | markup (error : MarkupError)
  /-- The elements of a document in markup are nested too deep. -/
  | elementsTooDeep
  /-- A parser gave a value that is no text. -/
  | valueNotText (location key : Text) (typeName : String)
  /-- The type of a value is declared more than once. -/
  | repeatedType (location key : Text)
  /-- A text is not a value of a type. -/
  | conversion (fault : ConversionFault)
  /-- A converter refused a value; the reason is given. -/
  | refusedByConverter (raw : Value) (typeName reason : Text)
  /-- A request took longer than the timeout. -/
  | timeout (method : String) (url timeout : Text)
  /-- A server cannot be reached. -/
  | unreachable (url reason : Text)
  /-- A session does not ask for pages with the timeout; the reason is given. -/
  | unusableTimeout (reason : Text)
  /-- A name has no place in a URL: it holds half of a surrogate pair, which has no bytes. -/
  | unencodable (name : Text)
  /-- A resource cannot be opened. -/
  | cannotOpen (location : Text)
  /-- A resource is not on the search path. -/
  | notOnSearchPath (location : Text)
  /-- A server answers with a status that stands for an error. -/
  | refusedStatus (location : Text) (status : Nat)
  /-- A key to look up is not a text. -/
  | keyNotText (typeName : String)
  /-- A key to write is empty or not a text. -/
  | emptyName (action : String)
  /-- A reserved key is to be renamed, or another key to a reserved one. -/
  | reservedRename (old new : Text)
  /-- The namespace is closed. -/
  | closed
  /-- Parameters are rejected, each for a reason, perhaps with the key and value at fault. -/
  | rejected (errors : List (Text × Text)) (subject : Option (Text × Text))
  /-- A parameter is registered already. -/
  | duplicateParameter (errors : List (Text × Text))
  /-- A hook that cannot be called. -/
  | hookNotCallable
  /-- A converter that cannot be called. -/
  | converterNotCallable
  /-- A converter for a type without a name. -/
  | emptyTypeName
  /-- A type has a converter already. -/
  | converterExists (name : Text)
  /-- Something that is no parser, shown. -/
  | notParser (shown : Text)
  /-- Extensions without parsers. -/
  | unknownExtensions (extensions : List Text)
  /-- A mode of handling failures of hooks that does not exist. -/
  | unknownFailureMode
  /-- Bounds that are no pair. -/
  | malformedBounds
  /-- Bounds as well as a least length. -/
  | boundsAndLength
  /-- A read lock is released that nobody holds. -/
  | releaseReadUnheld
  /-- A write lock is released that nobody holds. -/
  | releaseWriteUnheld
  /-- A composite lacks an attribute. -/
  | noAttribute (identity name : Text)
  /-- An attribute with a hidden name is asked for. -/
  | hiddenAttribute (name : Text)
  /-- A collection lacks a key, which is shown. -/
  | missingKey (shown : Text)
  /-- A document is written to. -/
  | immutableDocument
  /-- An object of a type lacks a method. -/
  | noMethod (typeName method : String)
  /-- An object of a type is no collection. -/
  | notIterable (typeName : String)
  /-- A field that environments do not have. -/
  | unknownField (name : Text)
  /-- A value of a type stands where only a text makes sense. -/
  | notText (typeName : String)
  /-- A text is cut at an empty separator. -/
  | emptySeparator
  /-- Hooks tell hooks of changes without end. -/
  | nestedTooDeep
  /-- An object of a type cannot be a key. -/
  | unhashable (typeName : String)
  /-- Objects of two types have no order. -/
  | notOrdered (typeName other : String)
  /-- An operation that a base does not provide. -/
  | notProvided
  /-- A path holds a null character. -/
  | nullInPath
  /-- A path or a name within it is too long. -/
  | pathTooLong (path : Text)
  /-- Code that the caller supplied failed. -/
  | raised (kind : FailureKind) (message : Text)

/-- Reasons by name, as they are shown. -/
def shownErrors (errors : List (Text × Text)) : Text :=
  curlyBrackets (commaSeparated (errors.map fun error =>
    error.1.quoted ++ text ": " ++ error.2.quoted))

/-- The wording of a rejection, for reasons and a value that are shown. -/
def rejectionMessage (errors : Text) (subject : Option (Text × Text)) : Text :=
  text "Validation errors: " ++ errors ++
  (match subject with
  | some (key, value) => text " (key: " ++ key ++ text ", value: " ++ value ++ text ")"
  | none => [])

namespace Failure

/-- The kind of a failure. -/
def kind : Failure → FailureKind
  | emptyDelimiter => .invalidValue
  | noSegment _ | notConfigured _ | notInDocument _ _ | notBound _ => .notFound
  | boundAlready _ | newKeyBound _ => .alreadyBound
  | notListable _ => .notListable
  | unsupportedScheme _ _ | unsupportedProtocol _ => .unsupportedProtocol
  | unknownType _ => .unsupportedType
  | undecodable _ _ | line _ _ | valueNotText _ _ _ | repeatedType _ _
  | refusedByConverter _ _ _ => .parseFailure
  | markup (.fault _ _) => .parseFailure
  | markup (.unknownEncoding _) | markup (.notTextEncoding _) => .unknownEncoding
  | markup .multiByteEncoding => .invalidValue
  | markup (.failingCodec _ _) => .unusableEncoding
  | markup .undecodableAscii => .undecodable
  | conversion _ => .invalidValue
  | timeout _ _ _ => .resolutionTimeout
  | unreachable _ _ | cannotOpen _ | notOnSearchPath _ | refusedStatus _ _ => .resourceAccess
  | unusableTimeout _ => .invalidValue
  | unencodable _ => .unencodable
  | keyNotText _ | emptyName _ | reservedRename _ _ => .invalidName
  | closed => .namespaceClosed
  | rejected _ _ => .environmentRejected
  | duplicateParameter _ => .duplicateParameter
  | hookNotCallable | converterNotCallable | notParser _ => .wrongType
  | emptyTypeName | converterExists _ | unknownExtensions _ | unknownFailureMode => .invalidValue
  | malformedBounds | boundsAndLength => .invalidValue
  | releaseReadUnheld | releaseWriteUnheld => .runtime
  | noAttribute _ _ | hiddenAttribute _ | noMethod _ _ => .missingAttribute
  | missingKey _ => .missingKey
  | immutableDocument | notIterable _ | unhashable _ | notOrdered _ _ | unknownField _ | notText _ =>
    .wrongType
  | emptySeparator => .invalidValue
  | elementsTooDeep | nestedTooDeep => .recursion
  | notProvided => .notProvided
  | nullInPath => .invalidValue
  | pathTooLong _ => .system
  | raised kind _ => kind

/-- The wording of a failure. -/
def message : Failure → Text
  | emptyDelimiter => text "delimiter must be a non-empty string"
  | noSegment key => key.quoted ++ text " names no segment"
  | notConfigured key => text "Configuration for " ++ key.quoted ++ text " not found"
  | notInDocument key location => key.quoted ++ text " not found in " ++ location
  | notBound key => key.quoted ++ text " is not bound"
  | boundAlready key => key.quoted ++ text " is already bound. Use rebind to override"
  | newKeyBound key => key.quoted ++ text " is already bound"
  | notListable key => key.quoted ++ text " cannot be listed"
  | unsupportedScheme scheme root =>
    text "Unsupported protocol: " ++ scheme.quoted ++ text " in root " ++ root.quoted
  | unsupportedProtocol name => text "Unsupported protocol: " ++ name.quoted
  | unknownType name => text "No converter for type " ++ name.quoted
  | undecodable encoding error =>
    text "Document is not valid " ++ text encoding.name ++ text ": " ++ error.message
  | line number fault => text "Line " ++ Text.ofNat number ++ text ": " ++ fault.message
  | markup error =>
    match error with
    | .fault _ _ => text "Malformed markup: " ++ error.message
    | _ => error.message
  | elementsTooDeep => text "maximum recursion depth exceeded while calling a Python object"
  | valueNotText location key typeName =>
    location ++ text ": value for " ++ key.quoted ++ text " is " ++ text typeName ++
    text ", expected str"
  | repeatedType location key =>
    location ++ text ": " ++ key ++ text " is declared more than once"
  | conversion fault => fault.message
  | refusedByConverter raw typeName reason =>
    text "Cannot convert " ++ raw.spelled (fun _ => []) ++ text " to " ++ typeName ++
    text ": " ++ reason
  | timeout method url limit =>
    text method ++ text " " ++ url ++ text " exceeded " ++ limit ++ text "s"
  | unreachable url reason => text "Unable to reach " ++ url ++ text ": " ++ reason
  | unusableTimeout reason => reason
  | unencodable name => name.encodeFault
  | cannotOpen location => text "Failure to open: " ++ location
  | notOnSearchPath location =>
    text "Failure to open: " ++ location ++ text " is not on the search path"
  | refusedStatus location status =>
    text "Failure to open: " ++ location ++ text " -> HTTP " ++ Text.ofNat status
  | keyNotText typeName => text "Lookup key must be a str, got " ++ text typeName
  | emptyName action => text "Cannot " ++ text action ++ text " an empty name"
  | reservedRename old new =>
    text "Reserved keys cannot be renamed: " ++ old.quoted ++ text " -> " ++ new.quoted
  | closed => text "Namespace has been closed"
  | rejected errors subject => rejectionMessage (shownErrors errors) subject
  | duplicateParameter errors => rejectionMessage (shownErrors errors) none
  | hookNotCallable => text "Hook must be callable"
  | converterNotCallable => text "Converter must be callable"
  | emptyTypeName => text "type_name must not be empty"
  | converterExists name =>
    text "Converter " ++ name.quoted ++ text " already registered; pass override=True"
  | notParser shown => shown ++ text " does not implement parse(stream, delimiter)"
  | unknownExtensions extensions =>
    text "No parser registered for extensions [" ++
    commaSeparated (extensions.map Text.quoted) ++ text "]"
  | unknownFailureMode => text "failure_mode must be one of 'ignore', 'log', 'raise'"
  | malformedBounds => text "bounds must be a tuple of (min, max)"
  | boundsAndLength => text "Cannot specify both bounds and min_length"
  | releaseReadUnheld => text "release_read() without matching acquire_read()"
  | releaseWriteUnheld => text "release_write() without matching acquire_write()"
  | noAttribute identity name => identity ++ text " has no attribute " ++ name.quoted
  | hiddenAttribute name => name
  | missingKey shown => shown
  | immutableDocument =>
    text "'ConfigDocument' object does not support item assignment"
  | noMethod typeName method =>
    text "'" ++ text typeName ++ text "' object has no attribute '" ++ text method ++ text "'"
  | notIterable typeName => text "'" ++ text typeName ++ text "' object is not iterable"
  | unhashable typeName => text "unhashable type: '" ++ text typeName ++ text "'"
  | notOrdered typeName other =>
    text "'<' not supported between instances of '" ++ text typeName ++ text "' and '" ++
    text other ++ text "'"
  | unknownField name =>
    text "Environment.__init__() got an unexpected keyword argument " ++ name.quoted
  | notText typeName => text "expected string or bytes-like object, got '" ++ text typeName ++
    text "'"
  | emptySeparator => text "empty separator"
  | nestedTooDeep => text "maximum recursion depth exceeded"
  | notProvided => []
  | nullInPath => text "embedded null byte"
  | pathTooLong path => text "[Errno 36] File name too long: " ++ path.quoted
  | raised _ message => message

/-- Whether a failure belongs to naming. -/
def isNaming (failure : Failure) : Bool := failure.kind.isNaming

end Failure

/-- An argument that code is expected for: code, or another value. -/
inductive Supplied (α : Type)
  /-- Something that can be used. -/
  | usable (a : α)
  /-- A value that cannot. -/
  | other (value : Value)

end ConfigNamespace
