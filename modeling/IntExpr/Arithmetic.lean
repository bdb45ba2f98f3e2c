/-
This file gives the integer operations behind the binary operators. Integers are unbounded.
Division goes toward zero, the bitwise operators see a negative integer as an endless row of
ones to the left, comparisons and logical operators give one or zero, and a shift to the right
rounds down. Division by zero, a negative shift count, and a shift to the left that would make
a nonzero integer far too long are refused.
-/

import IntExpr.Token

namespace IntExpr

namespace Arithmetic

/-- The largest count by which a nonzero integer is shifted to the left. -/
def shiftLimit : Nat := 4096

/-- Bits that are set in both. A negative integer has the bits of its predecessor's magnitude
flipped. -/
def bitAnd : Int → Int → Int
  | .ofNat first, .ofNat second => .ofNat (first &&& second)
  | .ofNat first, .negSucc second => .ofNat (first ^^^ (first &&& second))
  | .negSucc first, .ofNat second => .ofNat (second ^^^ (second &&& first))
  | .negSucc first, .negSucc second => .negSucc (first ||| second)

/-- Bits that are set in one of the two or in both. -/
def bitOr : Int → Int → Int
  | .ofNat first, .ofNat second => .ofNat (first ||| second)
  | .ofNat first, .negSucc second => .negSucc (second ^^^ (second &&& first))
  | .negSucc first, .ofNat second => .negSucc (first ^^^ (first &&& second))
  | .negSucc first, .negSucc second => .negSucc (first &&& second)

/-- The number of binary digits of the magnitude. -/
def bitLength (value : Int) : Nat :=
  if value = 0 then 0 else value.natAbs.log2 + 1

/-- A shift to the right, which stops looking once every digit is gone. -/
def shiftRight (value : Int) (count : Nat) : Int :=
  if bitLength value ≤ count then if value < 0 then -1 else 0
  else value.fdiv (Nat.pow 2 count)

/-- A quotient toward zero: that of the magnitudes, negated unless the signs are the same. -/
def truncatingDivide (dividend divisor : Int) : Int :=
  let quotient : Int := dividend.natAbs / divisor.natAbs
  if decide (dividend < 0) = decide (divisor < 0) then quotient else -quotient

/-- A truth value as an integer. -/
def truth (condition : Bool) : Int := if condition then 1 else 0

end Arithmetic

/-- Why an operation has no value. -/
inductive Refusal where
  | zeroDivisor
  | negativeShift (count : Int)
  | shiftTooLarge (count : Int)
deriving DecidableEq, Inhabited

open Arithmetic in
/-- The value of an operation. -/
def Operator.apply : Operator → Int → Int → Except Refusal Int
  | plus, left, right => .ok (left + right)
  | minus, left, right => .ok (left - right)
  | times, left, right => .ok (left * right)
  | divide, left, right =>
    if right = 0 then .error .zeroDivisor else .ok (truncatingDivide left right)
  | bitAnd, left, right => .ok (Arithmetic.bitAnd left right)
  | bitOr, left, right => .ok (Arithmetic.bitOr left right)
  | shiftLeft, left, right =>
    if right < 0 then .error (.negativeShift right)
    else if left = 0 then .ok 0
    else if (shiftLimit : Int) < right then .error (.shiftTooLarge right)
    else .ok (left * Nat.pow 2 right.toNat)
  | shiftRight, left, right =>
    if right < 0 then .error (.negativeShift right)
    else .ok (Arithmetic.shiftRight left right.toNat)
  | less, left, right => .ok (truth (left < right))
  | greater, left, right => .ok (truth (left > right))
  | equal, left, right => .ok (truth (left = right))
  | and, left, right => .ok (truth (left ≠ 0 && right ≠ 0))
  | or, left, right => .ok (truth (left ≠ 0 || right ≠ 0))

end IntExpr
