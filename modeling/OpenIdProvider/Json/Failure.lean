/-
  Why a JSON text or value is refused, and the wording of it. A cause comes from the grammar, or
  from a reader that wants a value of another shape. A refusal of a text tells the line and the
  column up to which the text was read.
-/
import OpenIdProvider.Json.Printer
import OpenIdProvider.Text.Quoted

namespace OpenIdProvider.Json

/-- What a reader found in place of the value it wants. -/
inductive Found
  | null
  | bool (b : Bool)
  | number (n : Number)
  | string (s : String)
  | sequence
  | map
deriving Repr

def Found.message : Found → String
  | .null => "null"
  | .bool true => "boolean `true`"
  | .bool false => "boolean `false`"
  | .number (.int i) => "integer `" ++ String.ofList (intChars i) ++ "`"
  | .number (.float x) =>
    "floating point `" ++ String.ofList (Notation.text numberLayout x) ++ "`"
  | .string s => "string " ++ Quoted.quote s
  | .sequence => "sequence"
  | .map => "map"

/-- The kind of thing a value is. -/
def found : Json → Found
  | .null => .null
  | .bool b => .bool b
  | .number n => .number n
  | .string s => .string s
  | .array _ => .sequence
  | .object _ => .map

/-- Why a text or a value is refused. -/
inductive Cause
  | endInArray
  | endInObject
  | endInString
  | endInValue
  | expectedColon
  | expectedCommaOrBracket
  | expectedCommaOrBrace
  | expectedWord
  | expectedValue
  | invalidEscape
  | invalidNumber
  | numberOutOfRange
  | illFormedText
  | controlCharacter
  | keyNotString
  | loneSurrogate
  | trailingComma
  | trailingCharacters
  | brokenSurrogatePair
  | tooDeep
  | invalidType (found : Found) (expected : String)
  | invalidValue (found : Found) (expected : String)
  | invalidLength (length : Nat) (expected : String)
  | unknownVariant (name : String) (variants : List String)
  | noVariant (name : String)
  | missingField (name : String)
  | duplicateField (name : String)
deriving Repr

/-- The names one of which is wanted. -/
def alternatives (names : List String) : String :=
  match names.map fun n => "`" ++ n ++ "`" with
  | [] => "there are no variants"
  | [a] => "expected " ++ a
  | [a, b] => "expected " ++ a ++ " or " ++ b
  | many => "expected one of " ++ ", ".intercalate many

def Cause.message : Cause → String
  | .endInArray => "EOF while parsing a list"
  | .endInObject => "EOF while parsing an object"
  | .endInString => "EOF while parsing a string"
  | .endInValue => "EOF while parsing a value"
  | .expectedColon => "expected `:`"
  | .expectedCommaOrBracket => "expected `,` or `]`"
  | .expectedCommaOrBrace => "expected `,` or `\x7d`"
  | .expectedWord => "expected ident"
  | .expectedValue => "expected value"
  | .invalidEscape => "invalid escape"
  | .invalidNumber => "invalid number"
  | .numberOutOfRange => "number out of range"
  | .illFormedText => "invalid unicode code point"
  | .controlCharacter =>
    "control character (\\u0000-\\u001F) found while parsing a string"
  | .keyNotString => "key must be a string"
  | .loneSurrogate => "lone leading surrogate in hex escape"
  | .trailingComma => "trailing comma"
  | .trailingCharacters => "trailing characters"
  | .brokenSurrogatePair => "unexpected end of hex escape"
  | .tooDeep => "recursion limit exceeded"
  | .invalidType found expected =>
    "invalid type: " ++ found.message ++ ", expected " ++ expected
  | .invalidValue found expected =>
    "invalid value: " ++ found.message ++ ", expected " ++ expected
  | .invalidLength n expected =>
    "invalid length " ++ toString n ++ ", expected " ++ expected
  | .unknownVariant name variants =>
    "unknown variant `" ++ name ++ "`, " ++ alternatives variants
  | .noVariant name => "data did not match any variant of untagged enum " ++ name
  | .missingField name => "missing field `" ++ name ++ "`"
  | .duplicateField name => "duplicate field `" ++ name ++ "`"

/-- A cause and the place in a text where it was noticed. -/
structure Error where
  cause : Cause
  line : Nat
  column : Nat
deriving Repr

/-- Where a text stands after some of its bytes: the number of the line, from one, and the number
of bytes after the last line break. -/
def place (bytes : List UInt8) : Nat × Nat :=
  let step (here : Nat × Nat) (b : UInt8) : Nat × Nat :=
    if b = 0x0A then (here.1 + 1, 0) else (here.1, here.2 + 1)
  bytes.foldl step (1, 0)

/-- The error of a cause that was noticed when `remaining` bytes of a text were left. -/
def Error.at (text : List UInt8) (cause : Cause) (remaining : Nat) : Error :=
  let (line, column) := place (text.take (text.length - remaining))
  ⟨cause, line, column⟩

def Error.message (e : Error) : String :=
  e.cause.message ++ " at line " ++ toString e.line ++ " column " ++ toString e.column

end OpenIdProvider.Json
