/-! Double-precision numbers as their 64-bit patterns, and the nearest one to a decimal. All
arithmetic is on natural numbers, so nothing depends on a machine's rounding. -/
namespace LeastGrant.Decimal

/-- A double-precision number, by its bits. -/
structure Double where
  bits : UInt64
  deriving DecidableEq, Repr

namespace Double

def negative (x : Double) : Bool := x.bits.toNat ≥ Nat.pow 2 63

/-- The bits without the sign. -/
def magnitude (x : Double) : Nat := x.bits.toNat % Nat.pow 2 63

def ofMagnitude (isNegative : Bool) (magnitude : Nat) : Double :=
  ⟨UInt64.ofNat (magnitude + if isNegative then Nat.pow 2 63 else 0)⟩

/-- The bits of infinity without the sign; all larger patterns are no numbers. -/
def infinite : Nat := 2047 * Nat.pow 2 52

def infinity (isNegative : Bool) : Double := ofMagnitude isNegative infinite

def notANumber : Double := ofMagnitude false (infinite + Nat.pow 2 51)

def isNaN (x : Double) : Bool := infinite < x.magnitude

def isInfinite (x : Double) : Bool := x.magnitude == infinite

def isZero (x : Double) : Bool := x.magnitude == 0

/-- A finite number is `m · 2 ^ q`, up to its sign: the pair `(m, q)`. -/
def parts (x : Double) : Nat × Int :=
  let field : Nat := x.magnitude / Nat.pow 2 52
  let fraction : Nat := x.magnitude % Nat.pow 2 52
  if field == 0 then (fraction, -1074) else (fraction + Nat.pow 2 52, (field : Int) - 1075)

end Double

/-- The quotient rounded to the nearest natural number, a half to the even neighbour. -/
def roundDiv (num den : Nat) : Nat :=
  let q := num / den
  let r := num % den
  if 2 * r < den then q
  else if den < 2 * r then q + 1
  else if q % 2 == 0 then q else q + 1

theorem roundDiv_one (n : Nat) : roundDiv n 1 = n := by
  simp [roundDiv, Nat.mod_one]

/-- The largest `k` with `2 ^ k * den ≤ num`, for positive numbers. -/
def floorLog2 (num den : Nat) : Int :=
  let k : Int := (num.log2 : Int) - den.log2
  let below := if k ≥ 0 then decide (num < den * Nat.pow 2 k.toNat) else decide (num * Nat.pow 2 (-k).toNat < den)
  if below then k - 1 else k

/-- The double nearest to `num / den`, up to the sign; beyond the largest one, infinity. -/
def nearestMagnitude (num den : Nat) : Nat :=
  if num == 0 then 0
  else
    let q := max (floorLog2 num den - 52) (-1074)
    let m := if q ≥ 0 then roundDiv num (den * Nat.pow 2 q.toNat) else roundDiv (num * Nat.pow 2 (-q).toNat) den
    if m < Nat.pow 2 52 then m
    else min Double.infinite ((q + 1075).toNat * Nat.pow 2 52 + (m - Nat.pow 2 52))

/-- How many decimal digits a number has. -/
def digitCount (n : Nat) : Nat := (Nat.toDigits 10 n).length

/-- The double nearest to `digits · 10 ^ exponent`. Exponents far outside the range of doubles are
decided by the number of digits alone. -/
def Double.ofDecimal (isNegative : Bool) (digits : Nat) (exponent : Int) : Double :=
  let size : Int := (digitCount digits : Int) + exponent
  if digits == 0 || size < -400 then .ofMagnitude isNegative 0
  else if size > 400 then .infinity isNegative
  else if exponent ≥ 0 then
    .ofMagnitude isNegative (nearestMagnitude (digits * Nat.pow 10 exponent.toNat) 1)
  else .ofMagnitude isNegative (nearestMagnitude digits (Nat.pow 10 (-exponent).toNat))

/-- Whether a double is the whole number `n`. -/
def Double.equalsInt (x : Double) (n : Int) : Bool :=
  if x.isNaN || x.isInfinite then false
  else
    let (m, q) := x.parts
    let sign : Int := if x.negative then -1 else 1
    if q ≥ 0 then sign * (m * Nat.pow 2 q.toNat : Nat) == n
    else sign * (m : Int) == n * (Nat.pow 2 (-q).toNat : Nat)

/-- Equality of numbers: both zeros are equal, and what is no number equals nothing. -/
def Double.equals (x y : Double) : Bool :=
  !x.isNaN && !y.isNaN && (x.bits == y.bits || (x.isZero && y.isZero))

end LeastGrant.Decimal
