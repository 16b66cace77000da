import RubyClasses.Number.Binary64

/-! # Decimal texts of binary64 numbers

The digits of a number are chosen in exact arithmetic: the fewest that read back to it, or a given
count of them, or a given count of places. How digits are laid out, with a point or with an
exponent, is decided afterwards.
-/

namespace RubyClasses.Number

/-- Decimal digits, the leading one counting units of ten to the given power. -/
structure Digits where
  /-- The digits, the leading one first. -/
  digits : List Char
  /-- The power of ten that the leading digit counts. -/
  power : Int
  deriving DecidableEq, Repr

namespace Digits

/-- Leave out the zeros at the end, except a leading one. -/
def trim (d : Digits) : Digits :=
  match (d.digits.reverse.dropWhile (· == '0')).reverse with
  | [] => { d with digits := ['0'] }
  | kept => { d with digits := kept }

/-- The value `n * 10 ^ scale` as digits without zeros at the end. -/
def ofScaled (n : Nat) (scale : Int) : Digits :=
  let ds := Nat.toDigits 10 n
  trim ⟨ds, scale + (ds.length : Int) - 1⟩

/-- The digits before the point. -/
def whole (d : Digits) : List Char :=
  if d.power < 0 then ['0']
  else
    let n := d.power.toNat + 1
    d.digits.take n ++ List.replicate (n - d.digits.length) '0'

/-- The digits after the point. -/
def fraction (d : Digits) : List Char :=
  if d.power < 0 then List.replicate (-d.power - 1).toNat '0' ++ d.digits
  else d.digits.drop (d.power.toNat + 1)

/-- Whole and fractional digits with a point between them. Without fractional digits the point is
written only on request. -/
def pointed (keepPoint : Bool) (whole fraction : List Char) : List Char :=
  if fraction = [] && !keepPoint then whole else whole ++ '.' :: fraction

/-- An exponent: a sign and at least two digits. -/
def exponentText (power : Int) : List Char :=
  let ds := Nat.toDigits 10 power.natAbs
  'e' :: (if power < 0 then '-' else '+') :: List.replicate (2 - ds.length) '0' ++ ds

/-- Digits with zeros behind them, so that there are at least `count`. -/
def padTo (count : Nat) (d : Digits) : Digits :=
  { d with digits := d.digits ++ List.replicate (count - d.digits.length) '0' }

/-- Digits written with a point and without an exponent. -/
def positional (keepPoint : Bool) (d : Digits) : List Char :=
  pointed keepPoint d.whole d.fraction

/-- Digits written with one of them before the point, and with an exponent. -/
def scientific (keepPoint : Bool) (d : Digits) : List Char :=
  pointed keepPoint (d.digits.take 1) (d.digits.drop 1) ++ exponentText d.power

end Digits

namespace Binary64

/-- A magnitude divided by `10 ^ scale`, as a quotient of natural numbers. -/
def scaledRatio (significand : Nat) (exponent scale : Int) : Nat × Nat :=
  (significand * twoTo exponent * tenTo (-scale), twoTo (-exponent) * tenTo scale)

/-- Whether the magnitude `n * 10 ^ scale` rounds to the given one. The interval of magnitudes that
do contains its ends when the significand is even, and it is narrower below a power of two. -/
def readsBack (significand : Nat) (exponent : Int) (n : Nat) (scale : Int) : Bool :=
  let narrow := significand == twoTo 52 && leastExponent < exponent
  let low := 4 * significand - (if narrow then 1 else 2)
  let high := 4 * significand + 2
  let value := 4 * n * tenTo scale * twoTo (-exponent)
  let place := twoTo exponent * tenTo (-scale)
  if significand % 2 = 0 then low * place ≤ value && value ≤ high * place
  else low * place < value && value < high * place

/-- The multiple of `10 ^ scale` that reads back, the nearer one if two neighbours do. -/
def onGrid? (significand : Nat) (exponent scale : Int) : Option Nat :=
  let (num, den) := scaledRatio significand exponent scale
  let nearest := roundDiv num den
  let other := if nearest = num / den then nearest + 1 else nearest - 1
  [nearest, other].find? fun n => readsBack significand exponent n scale

/-- The exponent of the leading decimal digit of a positive magnitude. -/
def decimalPower (significand : Nat) (exponent : Int) : Int :=
  let (num, den) := scaledRatio significand exponent 0
  leadingPower num den

/-- The fewest digits that read back to a magnitude. Seventeen always do. -/
def shortest (significand : Nat) (exponent : Int) : Digits :=
  if significand = 0 then ⟨['0'], 0⟩
  else
    let power := decimalPower significand exponent
    let found := (List.range 17).findSome? fun (k : Nat) =>
      (onGrid? significand exponent (power - k)).map fun n => Digits.ofScaled n (power - k)
    found.getD (Digits.ofScaled significand exponent)

/-- The number of places behind the point that write a magnitude exactly. -/
def exactPlaces (exponent : Int) : Nat := (-exponent).toNat

/-- A magnitude rounded to `count` digits; when fewer digits write it exactly, these. -/
def rounded (significand : Nat) (exponent : Int) (count : Nat) : Digits :=
  if significand = 0 then ⟨['0'], 0⟩
  else
    let power := decimalPower significand exponent
    let count := min count (power + 1 + exactPlaces exponent).toNat
    let (num, den) := scaledRatio significand exponent (power - ((count : Int) - 1))
    let n := roundDiv num den
    if n = tenTo count then ⟨'1' :: List.replicate (count - 1) '0', power + 1⟩
    else ⟨Nat.toDigits 10 n, power⟩

/-- A magnitude rounded to a number of places, written with a point. Places behind the exact ones
are zeros. -/
def fixedText (keepPoint : Bool) (places significand : Nat) (exponent : Int) : List Char :=
  let kept := min places (exactPlaces exponent)
  let (num, den) := scaledRatio significand exponent (-(kept : Int))
  let ds := Nat.toDigits 10 (roundDiv num den)
  let ds := List.replicate (kept + 1 - ds.length) '0' ++ ds
  let fraction := ds.drop (ds.length - kept) ++ List.replicate (places - kept) '0'
  Digits.pointed keepPoint (ds.take (ds.length - kept)) fraction

/-- A magnitude rounded to one digit before the point and `places` after it, with an exponent. -/
def scientificText (keepPoint : Bool) (places significand : Nat) (exponent : Int) : List Char :=
  ((rounded significand exponent (places + 1)).padTo (places + 1)).scientific keepPoint

/-- A magnitude rounded to `count` digits, with an exponent when it is small or has more than
`count` digits before the point. Zeros at the end are written only on request. -/
def generalText (keepZeros : Bool) (count significand : Nat) (exponent : Int) : List Char :=
  let count := max count 1
  let d := rounded significand exponent count
  let d := if keepZeros then d.padTo count else d.trim
  if -4 ≤ d.power && d.power < count then d.positional keepZeros else d.scientific keepZeros

/-- The text of a number in messages: the fewest digits that read back, written positionally with
at least one place from `0.0001` up to `10 ^ 16`, otherwise with an exponent. -/
def toText : Binary64 → List Char
  | nan => ['n', 'a', 'n']
  | infinite negative => (if negative then ['-'] else []) ++ ['i', 'n', 'f']
  | finite negative significand exponent =>
      let d := shortest significand exponent
      let magnitude :=
        if -4 ≤ d.power && d.power < 16 then
          Digits.pointed true d.whole (if d.fraction = [] then ['0'] else d.fraction)
        else d.scientific false
      (if negative then ['-'] else []) ++ magnitude

end Binary64

end RubyClasses.Number
