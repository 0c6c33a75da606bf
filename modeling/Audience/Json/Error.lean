import Audience.Json.Printer
import Audience.Text.Quoted

/-!
# Why a document is refused

A text that is not JSON has a `SyntaxFault`; a value that is not what was asked for has a
`Mismatch`. Either is the `Cause` of an `Error`, which has a position when a text was read.
Positions count lines, and columns in bytes.
-/

namespace Audience.Json

/-- What a value was found to be. -/
inductive Found where
  | null
  | boolean (value : Bool)
  | integer (value : Int)
  | float (value : Binary64)
  | string (value : String)
  | sequence
  | map
deriving DecidableEq, Repr

/-- What a value was found to be. -/
def found : Json → Found
  | .null => .null
  | .boolean b => .boolean b
  | .number (.integer i) => .integer i
  | .number (.float x) => .float x
  | .string s => .string s
  | .array _ => .sequence
  | .object _ => .map

/-- The words for what was found. -/
def Found.text : Found → String
  | .null => "null"
  | .boolean b => "boolean \x60" ++ (if b then "true" else "false") ++ "\x60"
  | .integer i => "integer \x60" ++ toString i ++ "\x60"
  | .float x => "floating point \x60" ++ numberLayout.text x ++ "\x60"
  | .string s => "string " ++ Text.quoted s
  | .sequence => "sequence"
  | .map => "map"

/-- Why a value is not what was asked for. -/
inductive Mismatch where
  | invalidType (found : Found) (expected : String)
  | invalidValue (found : Found) (expected : String)
  | invalidLength (length : Nat) (expected : String)
  | unknownVariant (name : String) (known : List String)
  | missingField (name : String)
  | duplicateField (name : String)
  /-- A fault told in the words of the type that was asked for. -/
  | custom (text : String)
deriving DecidableEq, Repr

/-- A name between backticks. -/
def ticked (name : String) : String :=
  "\x60" ++ name ++ "\x60"

/-- The choice between names. -/
def choiceText : List String → String
  | [a] => ticked a
  | [a, b] => ticked a ++ " or " ++ ticked b
  | names => "one of " ++ ", ".intercalate (names.map ticked)

/-- The words for a mismatch. -/
def Mismatch.text : Mismatch → String
  | .invalidType found expected => "invalid type: " ++ found.text ++ ", expected " ++ expected
  | .invalidValue found expected => "invalid value: " ++ found.text ++ ", expected " ++ expected
  | .invalidLength length expected =>
    "invalid length " ++ toString length ++ ", expected " ++ expected
  | .unknownVariant name known =>
    "unknown variant " ++ ticked name ++ ", expected " ++ choiceText known
  | .missingField name => "missing field " ++ ticked name
  | .duplicateField name => "duplicate field " ++ ticked name
  | .custom text => text

/-- Why a text is not JSON. -/
inductive SyntaxFault where
  | endInList
  | endInObject
  | endInString
  | endInValue
  | expectedColon
  | expectedListCommaOrEnd
  | expectedObjectCommaOrEnd
  | expectedIdent
  | expectedValue
  | invalidEscape
  | invalidNumber
  | numberOutOfRange
  | controlCharacter
  | keyMustBeString
  | loneSurrogate
  | trailingComma
  | trailingCharacters
  | unfinishedSurrogates
  | recursionLimit
deriving DecidableEq, Repr

/-- The words for a syntax fault. -/
def SyntaxFault.text : SyntaxFault → String
  | .endInList => "EOF while parsing a list"
  | .endInObject => "EOF while parsing an object"
  | .endInString => "EOF while parsing a string"
  | .endInValue => "EOF while parsing a value"
  | .expectedColon => "expected \x60:\x60"
  | .expectedListCommaOrEnd => "expected \x60,\x60 or \x60]\x60"
  | .expectedObjectCommaOrEnd => "expected \x60,\x60 or \x60\x7d\x60"
  | .expectedIdent => "expected ident"
  | .expectedValue => "expected value"
  | .invalidEscape => "invalid escape"
  | .invalidNumber => "invalid number"
  | .numberOutOfRange => "number out of range"
  | .controlCharacter => "control character (\\u0000-\\u001F) found while parsing a string"
  | .keyMustBeString => "key must be a string"
  | .loneSurrogate => "lone leading surrogate in hex escape"
  | .trailingComma => "trailing comma"
  | .trailingCharacters => "trailing characters"
  | .unfinishedSurrogates => "unexpected end of hex escape"
  | .recursionLimit => "recursion limit exceeded"

/-- Why a document is refused. -/
inductive Cause where
  | grammar (fault : SyntaxFault)
  | mismatch (fault : Mismatch)
deriving DecidableEq, Repr

/-- The words for a cause. -/
def Cause.text : Cause → String
  | .grammar fault => fault.text
  | .mismatch fault => fault.text

/-- A line, counted from one, and the bytes before the place within it. -/
structure Position where
  line : Nat
  column : Nat
deriving DecidableEq, Repr

/-- The place after the first bytes of a text: steps over the characters that start before the end,
`start` being where the line began and `place` where the next character begins. -/
def Position.after (stop : Nat) (line start place : Nat) : List Char → Position
  | [] => ⟨line, stop - start⟩
  | c :: cs =>
    if stop ≤ place then ⟨line, stop - start⟩
    else if c = '\n' then Position.after stop (line + 1) (place + 1) (place + 1) cs
    else Position.after stop line start (place + c.utf8Size) cs

/-- The place after so many bytes of a text. -/
def Position.ofOffset (text : List Char) (offset : Nat) : Position :=
  Position.after offset 1 0 0 text

/-- Why a document is refused and, if it is a text, where. -/
structure Error where
  cause : Cause
  position : Option Position
deriving DecidableEq, Repr

namespace Error

/-- A mismatch without a place. -/
def ofMismatch (fault : Mismatch) : Error :=
  ⟨.mismatch fault, none⟩

/-- The words for an error. -/
def message (e : Error) : String :=
  match e.position with
  | none => e.cause.text
  | some p => e.cause.text ++ " at line " ++ toString p.line ++ " column " ++ toString p.column

end Error

end Audience.Json
