import GuestNat.Text.Properties

/-!
# Quoted texts

A text between double quotation marks, for messages that show a text which may hold anything.
NUL, tab, line feed and carriage return have letters of their own, a quotation mark and a backslash
stand behind a backslash, and a character that has no visible form, may show nothing or would join
the one before it is written as its code point.
-/

namespace GuestNat.Text

/-- The hexadecimal digits of a code point, in lower case and without leading zeros. -/
def hexDigits (n : Nat) : List Char := Nat.toDigits 16 n

/-- Whether a character is written as its code point. -/
def isHidden (c : Char) : Bool := isUnprintable c || isIgnorable c || isCombining c

/-- How a character is written between quotation marks. -/
def quoteChar (c : Char) : List Char :=
  if c = '\x00' then ['\\', '0']
  else if c = '\t' then ['\\', 't']
  else if c = '\r' then ['\\', 'r']
  else if c = '\n' then ['\\', 'n']
  else if c = '"' then ['\\', '"']
  else if c = '\\' then ['\\', '\\']
  else if isHidden c then ['\\', 'u', '{'] ++ hexDigits c.toNat ++ ['}']
  else [c]

/-- A text between quotation marks. -/
def quote (s : String) : String := "\"" ++ .ofList (s.toList.flatMap quoteChar) ++ "\""

end GuestNat.Text
