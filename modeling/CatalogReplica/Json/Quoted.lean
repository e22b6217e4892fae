/-
# CatalogReplica.Json.Quoted -- JSON strings

Reading a string stops at the first fault; whether its octets are UTF-8 is
looked at last, over the whole string. Writing escapes the quote, the
backslash and the control characters below U+0020, and nothing else.
-/
import CatalogReplica.Json.Scanner

namespace CatalogReplica.Json

/-! ## Reading -/

/-- The octet that a one-letter escape stands for. -/
def simpleEscape? (b : UInt8) : Option UInt8 :=
  if b == quote || b == backslash || b == 0x2F then some b
  else if b == 0x62 then some 0x08
  else if b == 0x66 then some 0x0C
  else if b == 0x6E then some 0x0A
  else if b == 0x72 then some 0x0D
  else if b == 0x74 then some 0x09
  else none

/-- The number four hexadecimal digits name. -/
def hexWord? (a b c d : UInt8) : Option Nat := do
  let a ← hexValue? a
  let b ← hexValue? b
  let c ← hexValue? c
  let d ← hexValue? d
  some (((a * 16 + b) * 16 + c) * 16 + d)

/-- Whether a number is the first half of a surrogate pair. -/
def isHighSurrogate (n : Nat) : Bool := 0xD800 ≤ n && n < 0xDC00

/-- Whether a number is the second half of a surrogate pair. -/
def isLowSurrogate (n : Nat) : Bool := 0xDC00 ≤ n && n < 0xE000

/-- The character a surrogate pair stands for. -/
def pairedChar (high low : Nat) : Char :=
  Char.ofNat (0x10000 + (high - 0xD800) * 0x400 + (low - 0xDC00))

/-- Puts octets in front of what a reader found. -/
def push (bytes : Octets) : Except Fault (Octets × Octets) → Except Fault (Octets × Octets)
  | .ok (found, rest) => .ok (bytes ++ found, rest)
  | .error fault => .error fault

/-- Reads up to the closing quote and resolves escapes. -/
def stringOctets : Reader Octets
  | [] => .error .endInString
  | b :: s =>
    if b == quote then .ok ([], s)
    else if b == backslash then
      match s with
      | [] => .error .endInString
      | e :: s =>
        if e == 0x75 then
          match s with
          | h₁ :: h₂ :: h₃ :: h₄ :: s =>
            match hexWord? h₁ h₂ h₃ h₄ with
            | none => .error .invalidEscape
            | some n =>
              if isLowSurrogate n then .error .loneSurrogate
              else if isHighSurrogate n then
                match s with
                | [] => .error .endInString
                | k :: s =>
                  if k != backslash then .error .endOfHexEscape
                  else
                    match s with
                    | [] => .error .endInString
                    | u :: s =>
                      if u != 0x75 then .error .endOfHexEscape
                      else
                        match s with
                        | h₁ :: h₂ :: h₃ :: h₄ :: s =>
                          match hexWord? h₁ h₂ h₃ h₄ with
                          | none => .error .invalidEscape
                          | some m =>
                            if isLowSurrogate m then
                              push (Octets.ofChar (pairedChar n m)) (stringOctets s)
                            else .error .loneSurrogate
                        | _ => .error .endInString
              else push (Octets.ofChar (Char.ofNat n)) (stringOctets s)
          | _ => .error .endInString
        else
          match simpleEscape? e with
          | some c => push [c] (stringOctets s)
          | none => .error .invalidEscape
    else if b < 0x20 then .error .controlCharacter
    else push [b] (stringOctets s)

/-- Reads a string behind its opening quote. -/
def stringBody : Reader String := fun s => do
  let (bytes, rest) ← stringOctets s
  match Octets.text? bytes with
  | some text => .ok (text, rest)
  | none => .error .invalidCodePoint

/-! ## Writing -/

/-- The escape of a control character. -/
def controlEscape (c : Char) : List Char :=
  let n := c.toNat
  if n == 0x08 then ['\\', 'b']
  else if n == 0x09 then ['\\', 't']
  else if n == 0x0A then ['\\', 'n']
  else if n == 0x0C then ['\\', 'f']
  else if n == 0x0D then ['\\', 'r']
  else ['\\', 'u', '0', '0', Nat.digitChar (n / 16), Nat.digitChar (n % 16)]

/-- One character inside a string. -/
def escapedChar (c : Char) : List Char :=
  if c == '"' then ['\\', '"']
  else if c == '\\' then ['\\', '\\']
  else if c.toNat < 0x20 then controlEscape c
  else [c]

/-- A text as a JSON string. -/
def stringChars (s : String) : List Char :=
  '"' :: (s.toList.flatMap escapedChar ++ ['"'])

end CatalogReplica.Json
