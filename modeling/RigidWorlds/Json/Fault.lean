import RigidWorlds.Json.Value
import RigidWorlds.Text.Quoted

/-!
What can be wrong with structured text, and where.  A reader reports a cause together with the
number of bytes that are left behind the place it points at; `Position.locate` turns that into a
line and a column, both counted in bytes.
-/

namespace RigidWorlds.Json

/-- A value met where another kind of value was expected. -/
inductive Found where
  | null
  | boolean (b : Bool)
  | number (n : Number)
  | text (s : String)
  | sequence
  | map

def Found.describe : Found → String
  | .null => "null"
  | .boolean b => if b then "boolean `true`" else "boolean `false`"
  | .number (.integer n) => "integer `" ++ String.ofList (integerText n) ++ "`"
  | .number (.real x) => "floating point `" ++ String.ofList (Decimal.doubleText x) ++ "`"
  | .text s => "string " ++ Text.quote s
  | .sequence => "sequence"
  | .map => "map"

def Value.found : Value → Found
  | .null => .null
  | .boolean b => .boolean b
  | .number n => .number n
  | .text s => .text s
  | .array _ => .sequence
  | .object _ => .map

inductive Cause where
  | endInList
  | endInObject
  | endInText
  | endInValue
  | expectedColon
  | expectedCommaOrBracket
  | expectedCommaOrBrace
  | expectedIdent
  | expectedValue
  | invalidEscape
  | invalidNumber
  | numberOutOfRange
  | controlCharacter
  | keyMustBeText
  | loneSurrogate
  | unfinishedSurrogate
  | trailingComma
  | trailingCharacters
  | tooDeep
  /-- A value of the wrong kind. -/
  | invalidType (found : Found) (expected : String)
  /-- An integer outside the range of the expected kind. -/
  | outOfRange (n : Int) (expected : String)
  | invalidLength (length : Nat) (expected : String)
  | missingField (name : String)
  | duplicateField (name : String)
  /-- A value of the right kind that its meaning rules out. -/
  | rejected (reason : String)

def Cause.message : Cause → String
  | .endInList => "EOF while parsing a list"
  | .endInObject => "EOF while parsing an object"
  | .endInText => "EOF while parsing a string"
  | .endInValue => "EOF while parsing a value"
  | .expectedColon => "expected `:`"
  | .expectedCommaOrBracket => "expected `,` or `]`"
  | .expectedCommaOrBrace => "expected `,` or `\x7d`"
  | .expectedIdent => "expected ident"
  | .expectedValue => "expected value"
  | .invalidEscape => "invalid escape"
  | .invalidNumber => "invalid number"
  | .numberOutOfRange => "number out of range"
  | .controlCharacter =>
      "control character (\\u0000-\\u001F) found while parsing a string"
  | .keyMustBeText => "key must be a string"
  | .loneSurrogate => "lone leading surrogate in hex escape"
  | .unfinishedSurrogate => "unexpected end of hex escape"
  | .trailingComma => "trailing comma"
  | .trailingCharacters => "trailing characters"
  | .tooDeep => "recursion limit exceeded"
  | .invalidType found expected => "invalid type: " ++ found.describe ++ ", expected " ++ expected
  | .outOfRange n expected =>
      "invalid value: integer `" ++ String.ofList (integerText n) ++ "`, expected " ++ expected
  | .invalidLength length expected =>
      "invalid length " ++ toString length ++ ", expected " ++ expected
  | .missingField name => "missing field `" ++ name ++ "`"
  | .duplicateField name => "duplicate field `" ++ name ++ "`"
  | .rejected reason => reason

def byteCount : List Char → Nat
  | [] => 0
  | c :: rest => c.utf8Size + byteCount rest

/-- A cause either with its place, given by the bytes left behind it, or still without one, with the
text that was not read yet. -/
inductive Fault where
  | placed (cause : Cause) (bytesLeft : Nat)
  | unplaced (cause : Cause) (rest : List Char)

namespace Fault

/-- A fault in front of the rest. -/
def here (cause : Cause) (rest : List Char) : Fault := .placed cause (byteCount rest)

/-- A fault at the first byte of the rest, or at the end. -/
def next (cause : Cause) (rest : List Char) : Fault := .placed cause (byteCount rest - 1)

/-- Gives a fault without a place the one that the reader has reached. -/
def settle : Fault → Fault
  | .placed cause bytesLeft => .placed cause bytesLeft
  | .unplaced cause rest => here cause rest

end Fault

structure Position where
  line : Nat
  column : Nat

def Position.after (p : Position) (bytes : Nat) : List Char → Position
  | [] => p
  | c :: rest =>
      if bytes < c.utf8Size then ⟨p.line, p.column + bytes⟩
      else if c = '\n' then after ⟨p.line + 1, 0⟩ (bytes - 1) rest
      else after ⟨p.line, p.column + c.utf8Size⟩ (bytes - c.utf8Size) rest

/-- The position in a text with `bytesLeft` bytes behind it. -/
def Position.locate (text : List Char) (bytesLeft : Nat) : Position :=
  Position.after ⟨1, 0⟩ (byteCount text - bytesLeft) text

structure ReadError where
  cause : Cause
  position : Option Position

def Fault.report (text : List Char) : Fault → ReadError
  | .placed cause bytesLeft => ⟨cause, some (Position.locate text bytesLeft)⟩
  | .unplaced cause _ => ⟨cause, none⟩

def ReadError.message (e : ReadError) : String :=
  match e.position with
  | none => e.cause.message
  | some p => e.cause.message ++ " at line " ++ toString p.line ++ " column " ++ toString p.column

end RigidWorlds.Json
