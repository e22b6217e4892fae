/-
# CatalogReplica.Text.Quoted -- texts between quotes, as shown in messages

A text is shown between double quotes. Quotes and backslashes get a backslash,
the usual control characters their letter, and every other character that
cannot be shown its code point between braces.
-/
import CatalogReplica.Text.Digits
import CatalogReplica.Text.Unprintable

namespace CatalogReplica

/-- One character as it is shown between quotes. -/
def quotedChar (c : Char) : List Char :=
  if c == '"' then ['\\', '"']
  else if c == '\\' then ['\\', '\\']
  else if c == '\n' then ['\\', 'n']
  else if c == '\r' then ['\\', 'r']
  else if c == '\t' then ['\\', 't']
  else if c.toNat == 0 then ['\\', '0']
  else if isUnprintable c then
    ['\\', 'u', Char.ofNat 0x7B] ++ hexadecimal c.toNat ++ [Char.ofNat 0x7D]
  else [c]

/-- A text between quotes. -/
def quoted (s : String) : String :=
  String.ofList ('"' :: (s.toList.flatMap quotedChar ++ ['"']))

end CatalogReplica
