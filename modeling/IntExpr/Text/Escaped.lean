/-
This file writes a text between quotes, so that every character of it can be seen, in two ways.
Both escape the quote and the backslash and have names for line ends and tabs. In the one way other
characters that do not print are written by their code point; in the other, that of JSON strings,
every character that is not ASCII is written by its UTF-16 units.
-/

import IntExpr.Text.Printable

namespace IntExpr.Text

/-- The hexadecimal digit of a number below sixteen. -/
def hexDigit (value : Nat) : Char :=
  Char.ofNat (if value < 10 then 0x30 + value else 0x57 + value)

/-- The last `width` hexadecimal digits of a number, in small letters. -/
def hexDigits : Nat → Nat → List Char
  | 0, _ => []
  | width + 1, value => hexDigits width (value / 16) ++ [hexDigit (value % 16)]

/-! ### Texts between quotes -/

/-- A character by its code point, in the shortest of three forms that holds it. -/
def escapedCode (code : Nat) : List Char :=
  if code < 0x100 then '\\' :: 'x' :: hexDigits 2 code
  else if code < 0x10000 then '\\' :: 'u' :: hexDigits 4 code
  else '\\' :: 'U' :: hexDigits 8 code

/-- One character inside quotes of the given kind. -/
def quotedChar (mark character : Char) : List Char :=
  if character = mark || character = '\\' then ['\\', character]
  else if character = '\n' then ['\\', 'n']
  else if character = '\r' then ['\\', 'r']
  else if character = '\t' then ['\\', 't']
  else if isPrintable character then [character]
  else escapedCode character.toNat

/-- The quote for a text: the single one, unless only that one occurs in the text. -/
def quoteMark (text : List Char) : Char :=
  if text.contains '\'' && !text.contains '"' then '"' else '\''

/-- A text between quotes. -/
def quoted (text : String) : String :=
  let mark := quoteMark text.toList
  String.ofList (mark :: (text.toList.flatMap (quotedChar mark) ++ [mark]))

/-! ### JSON strings -/

/-- The UTF-16 units of a code point. -/
def utf16Units (code : Nat) : List Nat :=
  if code < 0x10000 then [code]
  else [0xD800 + (code - 0x10000) / 0x400, 0xDC00 + (code - 0x10000) % 0x400]

/-- A character by its UTF-16 units. -/
def jsonEscapedCode (code : Nat) : List Char :=
  (utf16Units code).flatMap fun unit => '\\' :: 'u' :: hexDigits 4 unit

/-- One character inside a JSON string. -/
def jsonChar (character : Char) : List Char :=
  if character = '"' || character = '\\' then ['\\', character]
  else if character = '\n' then ['\\', 'n']
  else if character = '\r' then ['\\', 'r']
  else if character = '\t' then ['\\', 't']
  else if character.toNat = 0x08 then ['\\', 'b']
  else if character.toNat = 0x0C then ['\\', 'f']
  else if 0x20 ≤ character.toNat && character.toNat < 0x7F then [character]
  else jsonEscapedCode character.toNat

/-- A text as an ASCII JSON string, quotes included. -/
def jsonString (text : String) : String :=
  String.ofList ('"' :: (text.toList.flatMap jsonChar ++ ['"']))

end IntExpr.Text
