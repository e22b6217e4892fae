/-
# CatalogReplica.Proofs.Json.Grammar -- which octets are JSON

The grammar of JSON, without any reader. It is the usual one:

    value   = null | true | false | number | string | [ values ] | { members }
    values  = value { , value }            members = member { , member }
    member  = string : value

with white space around every value, every key and every sign. What stands inside a
string is not looked at here beyond its escapes, so the octets of a string need not be
UTF-8, and an escape may name half of a surrogate pair.

Where keys and texts matter, `SpellsText` says which octets spell a text: each of its
octets stands for itself, or an escape stands for a whole character. `Members` lists the
members of an object by the texts that their keys spell, each with the octets of its value.
-/
import CatalogReplica.Json.Quoted.Lemmas
import CatalogReplica.Json.Skipped
import CatalogReplica.Json.Value
import Mathlib.Data.List.TakeWhile

namespace CatalogReplica.Json

/-! ## White space -/

/-- Nothing but white space. -/
def IsBlank (s : Octets) : Prop := ∀ b ∈ s, isSpace b = true

instance (s : Octets) : Decidable (IsBlank s) :=
  inferInstanceAs (Decidable (∀ b ∈ s, isSpace b = true))

theorem isBlank_nil : IsBlank [] := fun _ h => absurd h List.not_mem_nil

theorem IsBlank.tail {b : UInt8} {s : Octets} (h : IsBlank (b :: s)) : IsBlank s :=
  fun c hc => h c (List.mem_cons_of_mem b hc)

theorem IsBlank.append {w w' : Octets} (h : IsBlank w) (h' : IsBlank w') : IsBlank (w ++ w') :=
  fun b hb => (List.mem_append.mp hb).elim (h b) (h' b)

/-- An input is white space, and what is left of it. -/
theorem exists_blank_append (s : Octets) : ∃ w, IsBlank w ∧ s = w ++ dropSpaces s :=
  ⟨s.takeWhile isSpace, fun _ hb => List.mem_takeWhile_imp hb, List.takeWhile_append_dropWhile.symm⟩

theorem isSpace_of_dropSpaces {b : UInt8} {s t : Octets} (h : dropSpaces s = b :: t) :
    isSpace b = false := by
  have hne : s.dropWhile isSpace ≠ [] := fun hnil => by cases hnil.symm.trans h
  have hhead := List.head_dropWhile_not isSpace hne
  simpa only [show s.dropWhile isSpace = b :: t from h, List.head_cons] using hhead

theorem dropSpaces_append {w : Octets} (hw : IsBlank w) (s : Octets) :
    dropSpaces (w ++ s) = dropSpaces s :=
  List.dropWhile_append_of_pos hw

theorem dropSpaces_blank {w : Octets} (hw : IsBlank w) : dropSpaces w = [] := by
  have h := dropSpaces_append hw []
  rwa [List.append_nil] at h

/-- In front of something that is no white space, white space is all that is dropped. -/
theorem dropSpaces_append_cons {w : Octets} (hw : IsBlank w) {b : UInt8} (hb : isSpace b = false)
    (s : Octets) : dropSpaces (w ++ b :: s) = b :: s := by
  rw [dropSpaces_append hw, dropSpaces_cons_of_not hb]

/-! ## Numbers -/

/-- Nothing but digits. -/
def IsDigits (s : Octets) : Prop := ∀ b ∈ s, isDigitOctet b = true

/-- At least one digit. -/
def IsNumeral (s : Octets) : Prop := ∃ b t, s = b :: t ∧ isDigitOctet b = true ∧ IsDigits t

/-- The digits in front of the point: a zero stands alone. -/
def IsWhole (s : Octets) : Prop :=
  s = [zeroDigit] ∨ ∃ b t, s = b :: t ∧ isDigitOctet b = true ∧ b ≠ zeroDigit ∧ IsDigits t

/-- A point with digits, or nothing. -/
def IsFraction (s : Octets) : Prop := s = [] ∨ ∃ t, s = point :: t ∧ IsNumeral t

/-- Behind the mark of an exponent: digits, with a sign or without. -/
def IsPower (s : Octets) : Prop :=
  IsNumeral s ∨ ∃ b t, s = b :: t ∧ (b = plus ∨ b = minus) ∧ IsNumeral t

/-- An exponent, or nothing. -/
def IsExponent (s : Octets) : Prop :=
  s = [] ∨ ∃ b t, s = b :: t ∧ isExponentMark b = true ∧ IsPower t

/-- What may follow the digits in front of the point. -/
def IsDecimals (s : Octets) : Prop := ∃ f e, s = f ++ e ∧ IsFraction f ∧ IsExponent e

/-- A number without its sign. -/
def IsUnsigned (s : Octets) : Prop := ∃ n d, s = n ++ d ∧ IsWhole n ∧ IsDecimals d

/-- A number. -/
def IsNumber (s : Octets) : Prop := IsUnsigned s ∨ ∃ t, s = minus :: t ∧ IsUnsigned t

/-! ## Strings -/

/-- Whether an octet is a hexadecimal digit. -/
def isHexDigit (b : UInt8) : Bool := (hexValue? b).isSome

/-- The inside of a string. -/
inductive IsQuotable : Octets → Prop
  | nil : IsQuotable []
  | plain {b : UInt8} {s : Octets} (h : isPlain b = true) (more : IsQuotable s) :
      IsQuotable (b :: s)
  | short {e : UInt8} {s : Octets} (h : isShortEscape e = true) (more : IsQuotable s) :
      IsQuotable (backslash :: e :: s)
  | hex {a b c d : UInt8} {s : Octets} (ha : isHexDigit a = true) (hb : isHexDigit b = true)
      (hc : isHexDigit c = true) (hd : isHexDigit d = true) (more : IsQuotable s) :
      IsQuotable (backslash :: 0x75 :: a :: b :: c :: d :: s)

/-- A string. -/
def IsString (s : Octets) : Prop := ∃ t, IsQuotable t ∧ s = quote :: (t ++ [quote])

/-! ## Values -/

/-- What a rule of the grammar is about. -/
inductive Part where
  | value
  /-- The values of a list, and its closing bracket. -/
  | items
  /-- The members of an object, and its closing bracket. -/
  | members

/-- The grammar of JSON. -/
inductive Grammar : Part → Octets → Prop
  | null : Grammar .value (0x6E :: nullRest)
  | true : Grammar .value (0x74 :: trueRest)
  | false : Grammar .value (0x66 :: falseRest)
  | number {s : Octets} (h : IsNumber s) : Grammar .value s
  | string {s : Octets} (h : IsString s) : Grammar .value s
  | emptyList {w : Octets} (hw : IsBlank w) : Grammar .value (openList :: (w ++ [closeList]))
  | list {w s : Octets} (hw : IsBlank w) (h : Grammar .items s) :
      Grammar .value (openList :: (w ++ s))
  | emptyObject {w : Octets} (hw : IsBlank w) :
      Grammar .value (openObject :: (w ++ [closeObject]))
  | object {w s : Octets} (hw : IsBlank w) (h : Grammar .members s) :
      Grammar .value (openObject :: (w ++ s))
  | lastItem {v w : Octets} (hv : Grammar .value v) (hw : IsBlank w) :
      Grammar .items (v ++ (w ++ [closeList]))
  | item {v w w' s : Octets} (hv : Grammar .value v) (hw : IsBlank w) (hw' : IsBlank w')
      (more : Grammar .items s) : Grammar .items (v ++ (w ++ comma :: (w' ++ s)))
  | lastMember {k w w' v w'' : Octets} (hk : IsString k) (hw : IsBlank w) (hw' : IsBlank w')
      (hv : Grammar .value v) (hw'' : IsBlank w'') :
      Grammar .members (k ++ (w ++ colon :: (w' ++ (v ++ (w'' ++ [closeObject])))))
  | member {k w w' v w'' w₃ s : Octets} (hk : IsString k) (hw : IsBlank w) (hw' : IsBlank w')
      (hv : Grammar .value v) (hw'' : IsBlank w'') (hw₃ : IsBlank w₃) (more : Grammar .members s) :
      Grammar .members (k ++ (w ++ colon :: (w' ++ (v ++ (w'' ++ comma :: (w₃ ++ s))))))

/-- A JSON value. -/
abbrev IsValue (s : Octets) : Prop := Grammar .value s

/-! ## Texts -/

/-- The letters of the short escapes, and the characters they stand for. -/
def shortEscapes : List (Char × Char) := [
  ('"', '"'), ('\\', '\\'), ('/', '/'), ('b', '\x08'), ('f', '\x0c'), ('n', '\n'), ('r', '\r'),
  ('t', '\t')]

/-- The octets on the right, inside a string, spell those on the left. -/
inductive Spells : Octets → Octets → Prop
  | nil : Spells [] []
  | plain {b : UInt8} {s t : Octets} (h : isPlain b = true) (more : Spells s t) :
      Spells (b :: s) (b :: t)
  | short {l c : Char} {s t : Octets} (h : (l, c) ∈ shortEscapes) (more : Spells s t) :
      Spells (Octets.ofChar c ++ s) (backslash :: Octets.ascii l :: t)
  | hex {h₁ h₂ h₃ h₄ : UInt8} {c : Char} {s t : Octets} (h : hexWord? h₁ h₂ h₃ h₄ = some c.toNat)
      (more : Spells s t) :
      Spells (Octets.ofChar c ++ s) (backslash :: 0x75 :: h₁ :: h₂ :: h₃ :: h₄ :: t)
  /-- A character above U+FFFF as a pair of surrogates. -/
  | pair {h₁ h₂ h₃ h₄ l₁ l₂ l₃ l₄ : UInt8} {high low : Nat} {c : Char} {s t : Octets}
      (hh : hexWord? h₁ h₂ h₃ h₄ = some (0xD800 + high))
      (hl : hexWord? l₁ l₂ l₃ l₄ = some (0xDC00 + low))
      (high_lt : high < 0x400) (low_lt : low < 0x400) (hc : c.toNat = 0x10000 + high * 0x400 + low)
      (more : Spells s t) :
      Spells (Octets.ofChar c ++ s) (backslash :: 0x75 :: h₁ :: h₂ :: h₃ :: h₄ ::
        backslash :: 0x75 :: l₁ :: l₂ :: l₃ :: l₄ :: t)

/-- These octets are a string that spells this text. -/
def SpellsText (text : String) (s : Octets) : Prop :=
  ∃ t, Spells (Octets.ofString text) t ∧ s = quote :: (t ++ [quote])

/-! ## Objects with their members -/

/-- The members of an object: what each key spells, and the octets of its value. -/
inductive Members : List (String × Octets) → Octets → Prop
  | last {key : String} {k w w' v w'' : Octets} (hk : SpellsText key k) (hw : IsBlank w)
      (hw' : IsBlank w') (hv : IsValue v) (hw'' : IsBlank w'') :
      Members [(key, v)] (k ++ (w ++ colon :: (w' ++ (v ++ (w'' ++ [closeObject])))))
  | cons {key : String} {k w w' v w'' w₃ s : Octets} {ms : List (String × Octets)}
      (hk : SpellsText key k) (hw : IsBlank w) (hw' : IsBlank w') (hv : IsValue v)
      (hw'' : IsBlank w'') (hw₃ : IsBlank w₃) (more : Members ms s) :
      Members ((key, v) :: ms) (k ++ (w ++ colon :: (w' ++ (v ++ (w'' ++ comma :: (w₃ ++ s))))))

/-- An object with these members. -/
inductive IsObject : List (String × Octets) → Octets → Prop
  | empty {w : Octets} (hw : IsBlank w) : IsObject [] (openObject :: (w ++ [closeObject]))
  | members {w s : Octets} {ms : List (String × Octets)} (hw : IsBlank w) (h : Members ms s) :
      IsObject ms (openObject :: (w ++ s))

/-- The values under a key, in the order of the members. -/
def valuesOf (key : String) (ms : List (String × Octets)) : List Octets :=
  (ms.filter (·.1 == key)).map (·.2)

end CatalogReplica.Json
