/-
# CatalogReplica.Text.Octets -- texts as octets, and octets as texts

Payloads travel as octets and records hold text, so both directions are
needed. The encoding is UTF-8, written with division and remainder only:

    U+0000  .. U+007F      0xxxxxxx
    U+0080  .. U+07FF      110xxxxx 10xxxxxx
    U+0800  .. U+FFFF      1110xxxx 10xxxxxx 10xxxxxx
    U+10000 .. U+10FFFF    11110xxx 10xxxxxx 10xxxxxx 10xxxxxx

`ofChars` writes the shortest form, and `chars?` accepts nothing else: no
overlong form, no surrogate, nothing above U+10FFFF.
-/

namespace CatalogReplica

/-- A payload as it travels. -/
abbrev Octets := List UInt8

namespace Octets

/-! ## Writing -/

/-- The UTF-8 form of one character. -/
def ofChar (c : Char) : Octets :=
  let n := c.toNat
  if n < 0x80 then [.ofNat n]
  else if n < 0x800 then [.ofNat (0xC0 + n / 64), .ofNat (0x80 + n % 64)]
  else if n < 0x10000 then
    [.ofNat (0xE0 + n / 4096), .ofNat (0x80 + n / 64 % 64), .ofNat (0x80 + n % 64)]
  else
    [.ofNat (0xF0 + n / 262144), .ofNat (0x80 + n / 4096 % 64),
     .ofNat (0x80 + n / 64 % 64), .ofNat (0x80 + n % 64)]

/-- The UTF-8 form of a sequence of characters. -/
def ofChars (cs : List Char) : Octets := cs.flatMap ofChar

/-- The UTF-8 form of a text. -/
def ofString (s : String) : Octets := ofChars s.toList

/-- The octet of an ASCII character. -/
def ascii (c : Char) : UInt8 := .ofNat c.toNat

theorem ofChars_nil : ofChars [] = [] := rfl

theorem ofChars_cons (c : Char) (cs : List Char) :
    ofChars (c :: cs) = ofChar c ++ ofChars cs := rfl

theorem ofChars_append (cs ds : List Char) :
    ofChars (cs ++ ds) = ofChars cs ++ ofChars ds := by
  simp [ofChars]

/-! ## Reading -/

/-- Whether an octet continues a longer form. -/
def isContinuation (b : UInt8) : Bool := 0x80 ≤ b && b < 0xC0

/-- The six bits a continuation octet carries. -/
def payload (b : UInt8) : Nat := b.toNat - 0x80

/-- The characters of a UTF-8 sequence, if it is one. -/
def chars? : Octets → Option (List Char)
  | [] => some []
  | a :: rest =>
    if a < 0x80 then (chars? rest).map (Char.ofNat a.toNat :: ·)
    else if a < 0xC2 then none
    else if a < 0xE0 then
      match rest with
      | b :: rest =>
        if isContinuation b then
          (chars? rest).map (Char.ofNat ((a.toNat - 0xC0) * 64 + payload b) :: ·)
        else none
      | [] => none
    else if a < 0xF0 then
      match rest with
      | b :: c :: rest =>
        let n := (a.toNat - 0xE0) * 4096 + payload b * 64 + payload c
        if isContinuation b && isContinuation c && 0x800 ≤ n && !(0xD800 ≤ n && n < 0xE000) then
          (chars? rest).map (Char.ofNat n :: ·)
        else none
      | _ => none
    else if a < 0xF5 then
      match rest with
      | b :: c :: d :: rest =>
        let n := (a.toNat - 0xF0) * 262144 + payload b * 4096 + payload c * 64 + payload d
        if isContinuation b && isContinuation c && isContinuation d &&
            0x10000 ≤ n && n < 0x110000 then
          (chars? rest).map (Char.ofNat n :: ·)
        else none
      | _ => none
    else none

/-- The text a UTF-8 sequence spells, if it is one. -/
def text? (bytes : Octets) : Option String := (chars? bytes).map String.ofList

end Octets
end CatalogReplica
