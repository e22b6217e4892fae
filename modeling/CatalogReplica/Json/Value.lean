/-
# CatalogReplica.Json.Value -- values of a known type

Readers for texts, booleans, lists, absent values and choices. Each looks at
the first octet behind white space; a value of another type is read far enough
to describe it, so that a breach of the grammar inside it is reported first.
-/
import CatalogReplica.Json.Numeral
import CatalogReplica.Json.Quoted

namespace CatalogReplica.Json

/-- The rest of the word for the absent value. -/
def nullRest : Octets := [0x75, 0x6C, 0x6C]
/-- The rest of the word for truth. -/
def trueRest : Octets := [0x72, 0x75, 0x65]
/-- The rest of the word for falsehood. -/
def falseRest : Octets := [0x61, 0x6C, 0x73, 0x65]

/-- Describes the value at the front of the input. -/
def found (b : UInt8) (s : Octets) : Except Fault Found :=
  if b == 0x6E then (spelling nullRest s).map fun _ => .null
  else if b == 0x74 then (spelling trueRest s).map fun _ => .boolean true
  else if b == 0x66 then (spelling falseRest s).map fun _ => .boolean false
  else if b == minus then (numberFound true s).map (·.1)
  else if isDigitOctet b then (numberFound false (b :: s)).map (·.1)
  else if b == quote then (stringBody s).map fun (text, _) => .string text
  else if b == openList then .ok .sequence
  else if b == openObject then .ok .map
  else .error .expectedValue

/-- The fault of a value that has another type than the one expected. -/
def mismatch (expected : String) (b : UInt8) (s : Octets) : Fault :=
  match found b s with
  | .ok value => .wrongType value expected
  | .error fault => fault

/-- Reads a text, called `expected` where something else stands. -/
def readText (expected : String) : Reader String := fun s =>
  match dropSpaces s with
  | [] => .error .endInValue
  | b :: s => if b == quote then stringBody s else .error (mismatch expected b s)

/-- Reads a text. -/
def readString : Reader String := readText "a string"

/-- Reads a boolean. -/
def readBool : Reader Bool := fun s =>
  match dropSpaces s with
  | [] => .error .endInValue
  | b :: s =>
    if b == 0x74 then (spelling trueRest s).map fun rest => (true, rest)
    else if b == 0x66 then (spelling falseRest s).map fun rest => (false, rest)
    else .error (mismatch "a boolean" b s)

/-- Reads an absent value. -/
def readUnit : Reader Unit := fun s =>
  match dropSpaces s with
  | [] => .error .endInValue
  | b :: s =>
    if b == 0x6E then (spelling nullRest s).map fun rest => ((), rest)
    else .error (mismatch "unit" b s)

/-- Reads a value that may be absent. -/
def readOptional {α : Type} (value : Reader α) : Reader (Option α) := fun s =>
  match dropSpaces s with
  | [] => (value []).map fun (a, rest) => (some a, rest)
  | b :: s =>
    if b == 0x6E then (spelling nullRest s).map fun rest => (none, rest)
    else (value (b :: s)).map fun (a, rest) => (some a, rest)

/-! ## Lists -/

/-- What stands where a list may go on. -/
inductive ListStep where
  | element (s : Octets)
  | close (s : Octets)

/-- Looks for the next element of a list; behind the first a comma is due. -/
def listStep (isFirst : Bool) (s : Octets) : Except Fault ListStep :=
  match dropSpaces s with
  | [] => .error .endInList
  | b :: s =>
    if b == closeList then .ok (.close s)
    else if isFirst then .ok (.element (b :: s))
    else if b == comma then
      match dropSpaces s with
      | [] => .error .endInValue
      | b :: s => if b == closeList then .error .trailingComma else .ok (.element (b :: s))
    else .error .expectedListDelimiter

/-- Reads the elements of a list. -/
def readElements {α : Type} (element : Reader α) (isFirst : Bool) : Nat → Reader (List α)
  | 0, _ => .error .endInList
  | fuel + 1, s => do
    match ← listStep isFirst s with
    | .close s => .ok ([], s)
    | .element s =>
      let (a, s) ← element s
      let (as, s) ← readElements element false fuel s
      .ok (a :: as, s)

/-- Reads a list. -/
def readList {α : Type} (element : Reader α) : Reader (List α) := fun s =>
  match dropSpaces s with
  | [] => .error .endInValue
  | b :: s =>
    if b == openList then readElements element true (s.length + 1) s
    else .error (mismatch "a sequence" b s)

/-! ## Choices -/

/-- Finds a value by its name. -/
def pick {α : Type} (known : List (String × α)) (name : String) : Except Fault α :=
  match known.lookup name with
  | some a => .ok a
  | none => .error (.unknownVariant name (known.map (·.1)))

/-- Reads one of some named values: its name, or an object with the name as
its only key and the absent value. -/
def readChoice {α : Type} (known : List (String × α)) : Reader α := fun s =>
  match dropSpaces s with
  | [] => .error .endInValue
  | b :: s =>
    if b == quote then do
      let (name, s) ← stringBody s
      let a ← pick known name
      .ok (a, s)
    else if b == openObject then
      match dropSpaces s with
      | [] => .error .endInValue
      | b :: s =>
        if b == closeObject then .error .expectedValue
        else if b != quote then .error .keyNotString
        else do
          let (name, s) ← stringBody s
          let a ← pick known name
          let s ← readColon s
          let (_, s) ← readUnit s
          match dropSpaces s with
          | [] => .error .endInObject
          | b :: s => if b == closeObject then .ok (a, s) else .error .expectedValue
    else .error .expectedValue

/-! ## The whole input -/

/-- Reads an input that holds one value and nothing else. -/
def readWhole {α : Type} (value : Reader α) (s : Octets) : Except Fault α := do
  let (a, rest) ← value s
  if (dropSpaces rest).isEmpty then .ok a else .error .trailingCharacters

end CatalogReplica.Json
