/-
# CatalogReplica.Json.Skipped -- values that are passed over

The value of an unknown member is checked against the grammar and dropped.
One octet is looked at after another; what has to come next is a `Scan`, and
the open brackets are a stack, so there is no limit on the depth. Strings are
checked for escapes and control characters only, numbers for their form only.
-/
import CatalogReplica.Json.Scanner
import CatalogReplica.Text.Digits

namespace CatalogReplica.Json

/-! ## What may come next -/

/-- An open bracket. -/
inductive Bracket where
  | list
  | object
  deriving DecidableEq, Repr

/-- How far a number has been read. -/
inductive NumberStage where
  | sign
  | zero
  | whole
  | point
  | fraction
  | mark
  | markSign
  | exponent
  deriving DecidableEq, Repr

/-- Whether a number may end here. -/
def NumberStage.isComplete : NumberStage → Bool
  | zero | whole | fraction | exponent => true
  | sign | point | mark | markSign => false

/-- What is being read. -/
inductive Scan where
  /-- A value is due. -/
  | value
  /-- A list has been opened. -/
  | listStart
  /-- An object has been opened. -/
  | objectStart
  /-- A key is due, behind a comma. -/
  | key
  /-- The colon behind a key is due. -/
  | colon
  /-- A value inside a bracket has ended. -/
  | delimiter
  /-- Inside a word, of which these octets are due. -/
  | word (rest : Octets)
  /-- Inside a string. -/
  | text (isKey : Bool)
  /-- Behind a backslash. -/
  | escape (isKey : Bool)
  /-- Inside a hexadecimal escape. -/
  | hex (isKey : Bool) (seen : Octets)
  | number (stage : NumberStage)
  deriving DecidableEq, Repr

/-- What one octet does to a scan. -/
inductive Progress where
  | more (scan : Scan) (stack : List Bracket)
  /-- The value ends with this octet. -/
  | done
  /-- The value has ended before this octet. -/
  | doneBefore
  deriving DecidableEq, Repr

/-! ## One octet -/

/-- A value has ended with the current octet. -/
def valueEnd (stack : List Bracket) : Progress :=
  if stack.isEmpty then .done else .more .delimiter stack

/-- A string has ended. -/
def textEnd (isKey : Bool) (stack : List Bracket) : Progress :=
  if isKey then .more .colon stack else valueEnd stack

/-- The octet behind a value inside a bracket. -/
def delimiterStep (stack : List Bracket) (b : UInt8) : Except Fault Progress :=
  match stack with
  | [] => .ok .doneBefore
  | .list :: outer =>
    if isSpace b then .ok (.more .delimiter stack)
    else if b == comma then .ok (.more .value stack)
    else if b == closeList then .ok (valueEnd outer)
    else .error .expectedListDelimiter
  | .object :: outer =>
    if isSpace b then .ok (.more .delimiter stack)
    else if b == comma then .ok (.more .key stack)
    else if b == closeObject then .ok (valueEnd outer)
    else .error .expectedObjectDelimiter

/-- The first octet of a value. -/
def valueStep (stack : List Bracket) (b : UInt8) : Except Fault Progress :=
  if isSpace b then .ok (.more .value stack)
  else if b == 0x6E then .ok (.more (.word [0x75, 0x6C, 0x6C]) stack)
  else if b == 0x74 then .ok (.more (.word [0x72, 0x75, 0x65]) stack)
  else if b == 0x66 then .ok (.more (.word [0x61, 0x6C, 0x73, 0x65]) stack)
  else if b == minus then .ok (.more (.number .sign) stack)
  else if b == zeroDigit then .ok (.more (.number .zero) stack)
  else if isDigitOctet b then .ok (.more (.number .whole) stack)
  else if b == quote then .ok (.more (.text false) stack)
  else if b == openList then .ok (.more .listStart (.list :: stack))
  else if b == openObject then .ok (.more .objectStart (.object :: stack))
  else .error .expectedValue

/-- The first octet of a key. -/
def keyStep (scan : Scan) (stack : List Bracket) (b : UInt8) : Except Fault Progress :=
  if isSpace b then .ok (.more scan stack)
  else if b == quote then .ok (.more (.text true) stack)
  else .error .keyNotString

/-- An octet of a number, or the one behind it. -/
def numberStep (stage : NumberStage) (stack : List Bracket) (b : UInt8) :
    Except Fault Progress :=
  let next := fun (s : NumberStage) => Except.ok (Progress.more (.number s) stack)
  let bad : Except Fault Progress := .error .invalidNumber
  match stage with
  | .sign =>
    if b == zeroDigit then next .zero else if isDigitOctet b then next .whole else bad
  | .zero =>
    if isDigitOctet b then bad
    else if b == point then next .point
    else if isExponentMark b then next .mark
    else delimiterStep stack b
  | .whole =>
    if isDigitOctet b then next .whole
    else if b == point then next .point
    else if isExponentMark b then next .mark
    else delimiterStep stack b
  | .point => if isDigitOctet b then next .fraction else bad
  | .fraction =>
    if isDigitOctet b then next .fraction
    else if isExponentMark b then next .mark
    else delimiterStep stack b
  | .mark =>
    if b == plus || b == minus then next .markSign
    else if isDigitOctet b then next .exponent
    else bad
  | .markSign => if isDigitOctet b then next .exponent else bad
  | .exponent => if isDigitOctet b then next .exponent else delimiterStep stack b

/-- Whether an octet is the letter of a short escape. -/
def isShortEscape (b : UInt8) : Bool :=
  b == quote || b == backslash || b == 0x2F || b == 0x62 || b == 0x66 ||
  b == 0x6E || b == 0x72 || b == 0x74

/-- What an octet does. -/
def scanStep (scan : Scan) (stack : List Bracket) (b : UInt8) : Except Fault Progress :=
  match scan with
  | .value => valueStep stack b
  | .listStart =>
    if isSpace b then .ok (.more .listStart stack)
    else if b == closeList then .ok (valueEnd stack.tail)
    else valueStep stack b
  | .objectStart =>
    if b == closeObject then .ok (valueEnd stack.tail) else keyStep .objectStart stack b
  | .key => keyStep .key stack b
  | .colon =>
    if isSpace b then .ok (.more .colon stack)
    else if b == colon then .ok (.more .value stack)
    else .error .expectedColon
  | .delimiter => delimiterStep stack b
  | .word [] => delimiterStep stack b
  | .word (w :: ws) =>
    if w == b then .ok (if ws.isEmpty then valueEnd stack else .more (.word ws) stack)
    else .error .expectedLiteral
  | .text isKey =>
    if b == quote then .ok (textEnd isKey stack)
    else if b == backslash then .ok (.more (.escape isKey) stack)
    else if b < 0x20 then .error .controlCharacter
    else .ok (.more (.text isKey) stack)
  | .escape isKey =>
    if b == 0x75 then .ok (.more (.hex isKey []) stack)
    else if isShortEscape b then .ok (.more (.text isKey) stack)
    else .error .invalidEscape
  | .hex isKey seen =>
    let seen := seen ++ [b]
    if seen.length < 4 then .ok (.more (.hex isKey seen) stack)
    else if seen.all fun d => (hexValue? d).isSome then .ok (.more (.text isKey) stack)
    else .error .invalidEscape
  | .number stage => numberStep stage stack b

/-! ## The whole value -/

/-- The fault of an input that ends behind a value inside a bracket. -/
def delimiterEnd : List Bracket → Except Fault Octets
  | [] => .ok []
  | .list :: _ => .error .endInList
  | .object :: _ => .error .endInObject

/-- What the end of the input means. -/
def scanEnd (scan : Scan) (stack : List Bracket) : Except Fault Octets :=
  match scan with
  | .value => .error .endInValue
  | .listStart => .error .endInList
  | .objectStart | .key | .colon => .error .endInObject
  | .delimiter | .word [] => delimiterEnd stack
  | .word _ => .error .endInValue
  | .text _ | .escape _ | .hex _ _ => .error .endInString
  | .number stage => if stage.isComplete then delimiterEnd stack else .error .invalidNumber

/-- Passes over the rest of a value. -/
def skipFrom (scan : Scan) (stack : List Bracket) : Octets → Except Fault Octets
  | [] => scanEnd scan stack
  | b :: s =>
    match scanStep scan stack b with
    | .error fault => .error fault
    | .ok (.more scan stack) => skipFrom scan stack s
    | .ok .done => .ok s
    | .ok .doneBefore => .ok (b :: s)

/-- Passes over one value. -/
def skipValue (s : Octets) : Except Fault Octets := skipFrom .value [] s

end CatalogReplica.Json
