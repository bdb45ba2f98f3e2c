/-
This file converts between integers and decimal text. Arithmetic is unbounded, but a conversion
refuses a number of more than 4300 digits, in either direction. Reading counts every digit of
the text, leading zeros included; the sign counts in neither direction.
-/

namespace IntExpr

/-- The most digits that a conversion between integer and text accepts. -/
def digitLimit : Nat := 4300

/-- A conversion that was refused for its size. -/
inductive DigitLimitError where
  /-- A numeral of so many digits was to be read. -/
  | reading (digits : Nat)
  /-- An integer with too many digits was to be written. -/
  | writing
deriving DecidableEq, Inhabited

/-- What is said of a refused conversion. -/
def DigitLimitError.message : DigitLimitError → String
  | .reading digits =>
    "Exceeds the limit (4300 digits) for integer string conversion: value has " ++
      Nat.repr digits ++ " digits; use sys.set_int_max_str_digits() to increase the limit"
  | .writing =>
    "Exceeds the limit (4300 digits) for integer string conversion; " ++
      "use sys.set_int_max_str_digits() to increase the limit"

namespace Decimal

/-- The value of an ASCII digit. -/
def digitValue (digit : Char) : Nat := digit.toNat - 48

/-- The number that a row of digits stands for; a row of none stands for zero. -/
def value (digits : List Char) : Nat :=
  digits.foldl (fun total digit => 10 * total + digitValue digit) 0

/-- An integer in decimal, of whatever size. -/
def text : Int → String
  | .ofNat magnitude => Nat.repr magnitude
  | .negSucc predecessor => "-" ++ Nat.repr (predecessor + 1)

/-- An integer short enough to be written. -/
def Writable (number : Int) : Prop := number.natAbs < Nat.pow 10 digitLimit

instance (number : Int) : Decidable (Writable number) :=
  inferInstanceAs (Decidable (number.natAbs < Nat.pow 10 digitLimit))

/-- An integer in decimal, unless it is too long. -/
def write (number : Int) : Except DigitLimitError String :=
  if Writable number then .ok (text number) else .error .writing

/-- The number that a row of digits stands for, unless the row is too long. -/
def read (digits : List Char) : Except DigitLimitError Nat :=
  if digits.length ≤ digitLimit then .ok (value digits) else .error (.reading digits.length)

/-- A row of digits after an optional sign, read without a limit. -/
def signedValue : List Char → Int
  | '-' :: digits => -(value digits : Int)
  | '+' :: digits => value digits
  | digits => value digits

end Decimal

end IntExpr
