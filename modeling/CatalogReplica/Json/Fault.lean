/-
# CatalogReplica.Json.Fault -- why an input is not the JSON that was expected

A fault is the first thing that is wrong with an input, read from left to
right: a breach of the JSON grammar, a value of another type, or a member that
is missing, repeated or out of place. `Fault.message` words each of them.
-/
import CatalogReplica.Number.Shortest
import CatalogReplica.Text.Quoted

namespace CatalogReplica.Json

/-- A value as it is described when another type was expected. -/
inductive Found where
  | null
  | boolean (value : Bool)
  | integer (value : Int)
  | real (value : Binary64)
  | string (text : String)
  | sequence
  | map
  deriving DecidableEq

/-- Why reading stopped. -/
inductive Fault where
  | endInValue
  | endInString
  | endInList
  | endInObject
  | expectedValue
  | expectedLiteral
  | expectedColon
  | expectedListDelimiter
  | expectedObjectDelimiter
  | keyNotString
  | trailingComma
  | trailingCharacters
  | invalidNumber
  | numberOutOfRange
  | invalidEscape
  | invalidCodePoint
  | loneSurrogate
  | endOfHexEscape
  | controlCharacter
  /-- A value of another type than the one expected. -/
  | wrongType (found : Found) (expected : String)
  /-- A list that ends before the member at this position. -/
  | tooShort (length : Nat) (expected : String)
  | missingMember (key : String)
  | repeatedMember (key : String)
  | unknownVariant (name : String) (known : List String)
  /-- A text of the right type with an unacceptable content. -/
  | unacceptable (reason : String)
  deriving DecidableEq

/-- Floating-point numbers in messages: with a point only from the fifth place
behind it up to sixteen digits before it, otherwise with a signed exponent. -/
def floatLayout : NumeralLayout := ⟨-5, 15, true⟩

/-- How a value is described. -/
def Found.description : Found → String
  | null => "null"
  | boolean b => "boolean \x60" ++ (if b then "true" else "false") ++ "\x60"
  | integer i => "integer \x60" ++ String.ofList (signedDecimal i) ++ "\x60"
  | real x => "floating point \x60" ++ x.shown floatLayout ++ "\x60"
  | string s => "string " ++ quoted s
  | sequence => "sequence"
  | map => "map"

/-- A name between backticks. -/
def ticked (name : String) : String := "\x60" ++ name ++ "\x60"

/-- A choice of names, as in "a or b" and "one of a, b, c". -/
def choice : List String → String
  | [a, b] => ticked a ++ " or " ++ ticked b
  | [a] => ticked a
  | names => "one of " ++ String.intercalate ", " (names.map ticked)

/-- The wording of a fault. -/
def Fault.message : Fault → String
  | endInValue => "EOF while parsing a value"
  | endInString => "EOF while parsing a string"
  | endInList => "EOF while parsing a list"
  | endInObject => "EOF while parsing an object"
  | expectedValue => "expected value"
  | expectedLiteral => "expected ident"
  | expectedColon => "expected \x60:\x60"
  | expectedListDelimiter => "expected \x60,\x60 or \x60]\x60"
  | expectedObjectDelimiter => "expected \x60,\x60 or \x60\x7d\x60"
  | keyNotString => "key must be a string"
  | trailingComma => "trailing comma"
  | trailingCharacters => "trailing characters"
  | invalidNumber => "invalid number"
  | numberOutOfRange => "number out of range"
  | invalidEscape => "invalid escape"
  | invalidCodePoint => "invalid unicode code point"
  | loneSurrogate => "lone leading surrogate in hex escape"
  | endOfHexEscape => "unexpected end of hex escape"
  | controlCharacter => "control character (\\u0000-\\u001F) found while parsing a string"
  | wrongType found expected =>
    "invalid type: " ++ found.description ++ ", expected " ++ expected
  | tooShort n expected =>
    "invalid length " ++ String.ofList (decimal n) ++ ", expected " ++ expected
  | missingMember key => "missing field " ++ ticked key
  | repeatedMember key => "duplicate field " ++ ticked key
  | unknownVariant name known =>
    "unknown variant " ++ ticked name ++ ", expected " ++ choice known
  | unacceptable reason => reason

end CatalogReplica.Json
