/-
# CatalogReplica.Json.Shape -- objects with known members

A `Shape` lists the members of an object: their keys, how each is read into
what has been gathered so far, and which of them must be there. An input spells
it as an object, with the members in any order and unknown ones passed over,
or as a list of the members' values in order.

A known key that comes again is a fault before its value is looked at; missing
members are found at the end, in the order of the shape.
-/
import CatalogReplica.Json.Skipped
import CatalogReplica.Json.Value

namespace CatalogReplica.Json

/-- A member with a known key. -/
structure Member (σ : Type) where
  key : String
  /-- Whether the member has been read. -/
  isPresent : σ → Bool
  /-- Reads the member's value into what has been gathered. -/
  read : σ → Reader σ
  /-- Whether the member must be there. -/
  isRequired : Bool

/-- A member that is kept in one place of what is gathered. -/
def Member.of {σ β : Type} (key : String) (isRequired : Bool) (get : σ → Option β)
    (set : σ → β → σ) (value : Reader β) : Member σ where
  key := key
  isPresent parts := (get parts).isSome
  read parts s := (value s).map fun (b, rest) => (set parts b, rest)
  isRequired := isRequired

/-- The form of an object: `σ` is what is gathered, `α` what is made of it. -/
structure Shape (σ α : Type) where
  name : String
  members : List (Member σ)
  start : σ
  finish : σ → α

namespace Shape

variable {σ α : Type} (shape : Shape σ α)

/-- How the shape is called where another type stands. -/
def expected : String := "struct " ++ shape.name

/-- The required members that have not been read. -/
def missing (parts : σ) : List String :=
  (shape.members.filter fun m => m.isRequired && !m.isPresent parts).map (·.key)

/-! ## Objects -/

/-- Reads the value behind a key, or passes over it. -/
def readMember (key : String) (parts : σ) (s : Octets) : Except Fault (σ × Octets) :=
  match shape.members.find? (·.key == key) with
  | none => do
    let s ← readColon s
    let s ← skipValue s
    .ok (parts, s)
  | some member =>
    if member.isPresent parts then .error (.repeatedMember key)
    else do
      let s ← readColon s
      member.read parts s

/-- Reads members from behind the opening quote of a key to the end of the
object. -/
def readMembers : Nat → σ → Octets → Except Fault (σ × Octets)
  | 0, _, _ => .error .endInObject
  | fuel + 1, parts, s => do
    let (key, s) ← stringBody s
    let (parts, s) ← shape.readMember key parts s
    match dropSpaces s with
    | [] => .error .endInObject
    | b :: s =>
      if b == closeObject then .ok (parts, s)
      else if b == comma then
        match dropSpaces s with
        | [] => .error .endInValue
        | b :: s =>
          if b == quote then readMembers fuel parts s
          else if b == closeObject then .error .trailingComma
          else .error .keyNotString
      else .error .expectedObjectDelimiter

/-- Reads an object behind its opening bracket. -/
def readObject : Reader α := fun s => do
  let (parts, s) ←
    match dropSpaces s with
    | [] => .error .endInObject
    | b :: s =>
      if b == closeObject then .ok (shape.start, s)
      else if b == quote then shape.readMembers (s.length + 1) shape.start s
      else .error .keyNotString
  match shape.missing parts with
  | [] => .ok (shape.finish parts, s)
  | key :: _ => .error (.missingMember key)

/-! ## Lists -/

/-- The fault of a list with more values than members, or its end. -/
def listEnd (s : Octets) : Except Fault Octets :=
  match dropSpaces s with
  | [] => .error .endInList
  | b :: s =>
    if b == closeList then .ok s
    else if b == comma then
      match dropSpaces s with
      | b :: _ => .error (if b == closeList then .trailingComma else .trailingCharacters)
      | [] => .error .trailingCharacters
    else .error .trailingCharacters

/-- Position of the first required member, counted from `n`. -/
def firstRequired (n : Nat) : List (Member σ) → Option Nat
  | [] => none
  | m :: ms => if m.isRequired then some n else firstRequired (n + 1) ms

/-- Reads the values of the members in order, the `n`th being next. -/
def readPositions (n : Nat) (isFirst : Bool) (parts : σ) :
    List (Member σ) → Octets → Except Fault (σ × Octets)
  | [], s => (listEnd s).map fun rest => (parts, rest)
  | m :: ms, s => do
    match ← listStep isFirst s with
    | .close s =>
      match firstRequired n (m :: ms) with
      | none => .ok (parts, s)
      | some k =>
        let count := String.ofList (decimal shape.members.length)
        .error (.tooShort k (shape.expected ++ " with " ++ count ++ " elements"))
    | .element s =>
      let (parts, s) ← m.read parts s
      readPositions (n + 1) false parts ms s

/-! ## Either form -/

/-- Reads an object of the shape. -/
def read : Reader α := fun s =>
  match dropSpaces s with
  | [] => .error .endInValue
  | b :: s =>
    if b == openObject then shape.readObject s
    else if b == openList then
      (shape.readPositions 0 true shape.start shape.members s).map fun (parts, rest) =>
        (shape.finish parts, rest)
    else .error (mismatch shape.expected b s)

end Shape
end CatalogReplica.Json
