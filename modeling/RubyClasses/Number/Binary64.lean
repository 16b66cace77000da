import RubyClasses.Number.Power
import RubyClasses.Number.Rounding

/-! # Binary64 numbers

Numbers with a point or an exponent are read as binary floating-point numbers of sixty-four bits.
They are kept exactly, as a sign, a significand and a power of two; reading rounds the decimal
value to the nearest representable one, a half to the even significand.
-/

namespace RubyClasses.Number

/-- A binary64 number. A finite one is `significand * 2 ^ exponent` with its sign, where the
significand has fifty-three bits, or fewer at the least exponent. -/
inductive Binary64 where
  | finite (negative : Bool) (significand : Nat) (exponent : Int)
  | infinite (negative : Bool)
  | nan
  deriving DecidableEq, Repr, Inhabited

namespace Binary64

/-- The exponent of the last bit of the least numbers. -/
def leastExponent : Int := -1074

/-- The exponent of the last bit of the greatest numbers. -/
def greatestExponent : Int := 971

/-- The exponent of the leading bit of `num / den`, both positive. -/
def leadingBit (num den : Nat) : Int :=
  let e : Int := (Nat.log2 num : Int) - Nat.log2 den
  if den * twoTo e ≤ num * twoTo (-e) then e else e - 1

/-- The number nearest to `num / den`. -/
def ofRatio (negative : Bool) (num den : Nat) : Binary64 :=
  if num = 0 then finite negative 0 leastExponent
  else
    let exponent := max (leadingBit num den - 52) leastExponent
    let significand := roundDiv (num * twoTo (-exponent)) (den * twoTo exponent)
    let (significand, exponent) :=
      if significand = twoTo 53 then (twoTo 52, exponent + 1) else (significand, exponent)
    if greatestExponent < exponent then infinite negative
    else finite negative significand exponent

/-- The number nearest to `digits * 10 ^ scale`. Scales beyond the range of the format are cut
off first, which leaves the result unchanged. -/
def ofDecimal (negative : Bool) (digits : Nat) (scale : Int) : Binary64 :=
  if digits = 0 then finite negative 0 leastExponent
  else
    let magnitude := (digitCount digits : Int) + scale
    if 400 < magnitude then infinite negative
    else if magnitude < -400 then finite negative 0 leastExponent
    else ofRatio negative (digits * tenTo scale) (tenTo (-scale))

/-- The number nearest to an integer. -/
def ofInt (n : Int) : Binary64 := ofRatio (n < 0) n.natAbs 1

/-- Zero, of either sign. -/
def isZero : Binary64 → Bool
  | finite _ 0 _ => true
  | _ => false

/-- The integer part of a finite number, its fraction dropped. -/
def truncate? : Binary64 → Option Int
  | finite negative significand exponent =>
      let n : Nat := significand * twoTo exponent / twoTo (-exponent)
      some (if negative then -(n : Int) else n)
  | _ => none

end Binary64

end RubyClasses.Number
