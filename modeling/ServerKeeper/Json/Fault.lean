import ServerKeeper.Decimal.Shortest
import ServerKeeper.Text.Quoted

namespace ServerKeeper.Json

/-- A number as it is read: an integer of 64 bits, or else a floating point number. -/
inductive Number
  | integer (n : Int)
  | float (x : Float)
  deriving Repr, Inhabited

inductive Found
  | null
  | boolean (b : Bool)
  | number (n : Number)
  | string (s : String)
  | sequence
  | map
  deriving Repr

def Found.describe : Found → String
  | null => "null"
  | boolean b => "boolean `" ++ (if b then "true" else "false") ++ "`"
  | number (.integer n) => "integer `" ++ toString n ++ "`"
  | number (.float x) => "floating point `" ++ Decimal.render x ++ "`"
  | string s => "string " ++ Text.quoted s
  | sequence => "sequence"
  | map => "map"

inductive Unfinished
  | value
  | string
  | list
  | object
  deriving DecidableEq, Repr

inductive Malformed
  | expectedColon
  | expectedListCommaOrEnd
  | expectedObjectCommaOrEnd
  | expectedIdent
  | expectedValue
  | invalidEscape
  | invalidNumber
  | numberOutOfRange
  | controlCharacter
  | keyMustBeString
  | loneSurrogate
  | trailingComma
  | trailingCharacters
  | unexpectedEndOfHexEscape
  | recursionLimit
  deriving DecidableEq, Repr

inductive Mismatch
  | invalidType (found : Found) (expected : String)
  | invalidValue (n : Int) (expected : String)
  | invalidLength (length : Nat) (expected : String)
  | unknownVariant (name : String) (expected : List String)
  | missingField (name : String)
  | duplicateField (name : String)
  deriving Repr

inductive Cause
  | unfinished (u : Unfinished)
  | malformed (m : Malformed)
  | mismatch (m : Mismatch)
  deriving Repr

def Unfinished.message : Unfinished → String
  | value => "EOF while parsing a value"
  | string => "EOF while parsing a string"
  | list => "EOF while parsing a list"
  | object => "EOF while parsing an object"

def Malformed.message : Malformed → String
  | expectedColon => "expected `:`"
  | expectedListCommaOrEnd => "expected `,` or `]`"
  | expectedObjectCommaOrEnd => "expected `,` or `\x7d`"
  | expectedIdent => "expected ident"
  | expectedValue => "expected value"
  | invalidEscape => "invalid escape"
  | invalidNumber => "invalid number"
  | numberOutOfRange => "number out of range"
  | controlCharacter => "control character (\\u0000-\\u001F) found while parsing a string"
  | keyMustBeString => "key must be a string"
  | loneSurrogate => "lone leading surrogate in hex escape"
  | trailingComma => "trailing comma"
  | trailingCharacters => "trailing characters"
  | unexpectedEndOfHexEscape => "unexpected end of hex escape"
  | recursionLimit => "recursion limit exceeded"

def oneOf : List String → String
  | [] => "there are no variants"
  | [a] => "expected `" ++ a ++ "`"
  | [a, b] => "expected `" ++ a ++ "` or `" ++ b ++ "`"
  | names => "expected one of " ++ ", ".intercalate (names.map fun name => "`" ++ name ++ "`")

def Mismatch.message : Mismatch → String
  | invalidType found expected => "invalid type: " ++ found.describe ++ ", expected " ++ expected
  | invalidValue n expected =>
    "invalid value: integer `" ++ toString n ++ "`, expected " ++ expected
  | invalidLength n expected => "invalid length " ++ toString n ++ ", expected " ++ expected
  | unknownVariant name expected => "unknown variant `" ++ name ++ "`, " ++ oneOf expected
  | missingField name => "missing field `" ++ name ++ "`"
  | duplicateField name => "duplicate field `" ++ name ++ "`"

def Cause.message : Cause → String
  | unfinished u => u.message
  | malformed m => m.message
  | mismatch m => m.message

/-- A fault, placed by how many bytes of the text lie behind it. A fault that concerns a value
already read has no place. -/
structure Fault where
  cause : Cause
  left : Option Nat
  deriving Repr

def byteLength : List Char → Nat
  | [] => 0
  | c :: cs => c.utf8Size + byteLength cs

namespace Fault

/-- A fault noticed with `rest` still to be read, after `read` bytes of it were taken. -/
def behind (cause : Cause) (rest : List Char) (read : Nat) : Fault :=
  ⟨cause, some (byteLength rest - read)⟩

def here (cause : Cause) (rest : List Char) : Fault :=
  behind cause rest 0

def peek (cause : Cause) (rest : List Char) : Fault :=
  behind cause rest 1

def placeless (cause : Cause) : Fault :=
  ⟨cause, none⟩

end Fault

structure Position where
  line : Nat
  column : Nat
  deriving DecidableEq, Repr

namespace Position

def step (p : Position) (byte : UInt8) : Position :=
  if byte = 10 then ⟨p.line + 1, 0⟩ else ⟨p.line, p.column + 1⟩

def ofOffset (text : String) (n : Nat) : Position :=
  (text.toUTF8.toList.take n).foldl step ⟨1, 0⟩

end Position

structure Error where
  cause : Cause
  position : Option Position
  deriving Repr

namespace Error

def ofFault (text : String) (f : Fault) : Error :=
  ⟨f.cause, f.left.map fun left => .ofOffset text (text.utf8ByteSize - left)⟩

def message (e : Error) : String :=
  match e.position with
  | none => e.cause.message
  | some p =>
    e.cause.message ++ " at line " ++ toString p.line ++ " column " ++ toString p.column

end Error

end ServerKeeper.Json
