/-! # Powers and digits

The powers of two and ten that number formats scale by, and the decimal digits of natural numbers:
how many there are, what they spell and what the leading one counts.
-/

namespace RubyClasses.Number

/-- A power of two; exponents below zero count as zero. -/
def twoTo (exponent : Int) : Nat := Nat.pow 2 exponent.toNat

/-- A power of ten; exponents below zero count as zero. -/
def tenTo (exponent : Int) : Nat := Nat.pow 10 exponent.toNat

/-- The number of decimal digits of a number; zero has one. -/
def digitCount (n : Nat) : Nat := (Nat.toDigits 10 n).length

/-- The exponent of the leading decimal digit of `num / den`, both positive. -/
def leadingPower (num den : Nat) : Int :=
  let e : Int := (digitCount num : Int) - digitCount den
  if den * tenTo e ≤ num * tenTo (-e) then e else e - 1

/-- The number that decimal digits spell. -/
def ofDigits (ds : List Char) : Nat := ds.foldl (fun n d => 10 * n + (d.toNat - '0'.toNat)) 0

end RubyClasses.Number
