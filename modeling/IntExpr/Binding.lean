/-
This file reads a binding from a text such as `x = -5`: a name, an equals sign and a decimal
integer, with white space allowed around each of the two. Names are written as they are in
expressions, but the keywords are not excluded.
-/

import IntExpr.Cursor

namespace IntExpr.Binding

/-- Why a text is no binding. -/
inductive BindingError where
  | malformed (text : String)
  | tooLong (cause : DigitLimitError)
deriving DecidableEq, Inhabited

/-- What is said of a text that is no binding. -/
def BindingError.message : BindingError → String
  | malformed text => "expected NAME=INTEGER, got " ++ Text.quoted text
  | tooLong cause => cause.message

/-- A text without the white space it starts with. -/
def skipBlank (text : List Char) : List Char := text.dropWhile Text.isBlank

/-- The sign that a text starts with, if any, and the text behind it. -/
def splitSign : List Char → Bool × List Char
  | '-' :: rest => (true, rest)
  | '+' :: rest => (false, rest)
  | rest => (false, rest)

/-- The parts of a binding: the name, whether the sign is a minus, and the digits. -/
structure Parts where
  name : List Char
  negative : Bool
  digits : List Char
deriving DecidableEq, Inhabited

/-- The sign and the digits that make up a text, white space at its end aside. -/
def splitInteger (text : List Char) : Option (Bool × List Char) :=
  let signed := splitSign text
  let digits := signed.2.takeWhile Char.isDigit
  if digits.isEmpty then none
  else if (skipBlank (signed.2.drop digits.length)).isEmpty then some (signed.1, digits)
  else none

/-- The parts of a text that has the form of a binding. -/
def split (text : List Char) : Option Parts :=
  let text := skipBlank text
  let name := text.takeWhile isWordPart
  match name, skipBlank (text.drop name.length) with
  | first :: _, '=' :: rest =>
    if isWordStart first then
      (splitInteger (skipBlank rest)).map fun integer => ⟨name, integer.1, integer.2⟩
    else none
  | _, _ => none

/-- The name and the value of a binding. -/
def read (text : String) : Except BindingError (String × Int) :=
  match split text.toList with
  | none => .error (.malformed text)
  | some parts =>
    match Decimal.read parts.digits with
    | .error cause => .error (.tooLong cause)
    | .ok magnitude =>
      .ok (String.ofList parts.name, if parts.negative then -(magnitude : Int) else magnitude)

end IntExpr.Binding
