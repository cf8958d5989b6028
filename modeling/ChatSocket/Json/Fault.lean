import ChatSocket.Json.Printer
import ChatSocket.Text.Quoted

/-!
# Why JSON is refused

`SyntaxFault` says why a text is no JSON text, `Mismatch` why a value does not
fit what is expected of it.  Both are causes; `message` gives their wording.
A `TextFault` is a cause with its place in a text.
-/

set_option autoImplicit false

namespace ChatSocket.Json

inductive SyntaxFault where
  | eofInValue
  | eofInList
  | eofInObject
  | eofInString
  | expectedValue
  | expectedIdent
  | expectedColon
  | expectedCommaOrBracket
  | expectedCommaOrBrace
  | keyMustBeString
  | trailingComma
  | trailingCharacters
  | invalidNumber
  | numberOutOfRange
  | invalidEscape
  | controlCharacter
  | loneLeadingSurrogate
  | unexpectedEndOfHexEscape
  | tooDeep
  deriving DecidableEq, Repr

def SyntaxFault.message : SyntaxFault → String
  | .eofInValue => "EOF while parsing a value"
  | .eofInList => "EOF while parsing a list"
  | .eofInObject => "EOF while parsing an object"
  | .eofInString => "EOF while parsing a string"
  | .expectedValue => "expected value"
  | .expectedIdent => "expected ident"
  | .expectedColon => "expected `:`"
  | .expectedCommaOrBracket => "expected `,` or `]`"
  | .expectedCommaOrBrace => "expected `,` or `\x7d`"
  | .keyMustBeString => "key must be a string"
  | .trailingComma => "trailing comma"
  | .trailingCharacters => "trailing characters"
  | .invalidNumber => "invalid number"
  | .numberOutOfRange => "number out of range"
  | .invalidEscape => "invalid escape"
  | .controlCharacter =>
      "control character (\\u0000-\\u001F) found while parsing a string"
  | .loneLeadingSurrogate => "lone leading surrogate in hex escape"
  | .unexpectedEndOfHexEscape => "unexpected end of hex escape"
  | .tooDeep => "recursion limit exceeded"

/-- What a value turned out to be. -/
inductive Found where
  | null
  | bool (value : Bool)
  | integer (value : Int)
  | real (value : Number.Binary64)
  | string (value : String)
  | sequence
  | map
  deriving DecidableEq, Repr

def Found.ofNumber : Json.Number → Found
  | .integer value => .integer value
  | .real value => .real value

def found : Json → Found
  | .null => .null
  | .bool value => .bool value
  | .number value => .ofNumber value
  | .string value => .string value
  | .array _ => .sequence
  | .object _ => .map

/-- A word between backticks, as diagnostics show it. -/
def ticked (word : String) : String := "`" ++ word ++ "`"

def Found.describe : Found → String
  | .null => "null"
  | .bool value => "boolean " ++ ticked (if value then "true" else "false")
  | .integer value => "integer " ++ ticked (toString value)
  | .real value => "floating point " ++ ticked (writeReal value)
  | .string value => "string " ++ Text.quoted value
  | .sequence => "sequence"
  | .map => "map"

inductive Mismatch where
  | invalidType (found : Found) (expected : String)
  | invalidValue (found : Found) (expected : String)
  | invalidLength (length : Nat) (expected : String)
  | missingField (name : String)
  | duplicateField (name : String)
  | unknownVariant (name : String) (known : List String)
  deriving DecidableEq, Repr

/-- The names that would have been accepted. -/
def choices : List String → String
  | [] => "nothing"
  | [only] => ticked only
  | [first, second] => ticked first ++ " or " ++ ticked second
  | many => "one of " ++ ", ".intercalate (many.map ticked)

def Mismatch.message : Mismatch → String
  | .invalidType found expected => "invalid type: " ++ found.describe ++ ", expected " ++ expected
  | .invalidValue found expected => "invalid value: " ++ found.describe ++ ", expected " ++ expected
  | .invalidLength length expected =>
      "invalid length " ++ toString length ++ ", expected " ++ expected
  | .missingField name => "missing field " ++ ticked name
  | .duplicateField name => "duplicate field " ++ ticked name
  | .unknownVariant name known =>
      "unknown variant " ++ ticked name ++ ", expected " ++ choices known

/-- Why a text could not be read: it is no JSON text, or its value does not fit. -/
inductive TextCause where
  | syntactic (fault : SyntaxFault)
  | mismatch (reason : Mismatch)
  deriving DecidableEq, Repr

def TextCause.message : TextCause → String
  | .syntactic fault => fault.message
  | .mismatch reason => reason.message

/-- A cause and its place: lines count from one, columns are the bytes since the
last line break. -/
structure TextFault where
  cause : TextCause
  line : Nat
  column : Nat
  deriving DecidableEq, Repr

def TextFault.message (fault : TextFault) : String :=
  fault.cause.message ++ " at line " ++ toString fault.line ++ " column " ++ toString fault.column

end ChatSocket.Json
