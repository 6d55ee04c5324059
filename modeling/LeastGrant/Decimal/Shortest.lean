import LeastGrant.Decimal.Double

/-! The shortest decimal that reads back as a given double, and its text. Of the decimals with the
fewest digits between the two half-way points around the double, the nearest one is taken. -/
namespace LeastGrant.Decimal

/-- The rational numbers that round to a double: the double itself and both bounds, as numerators
over one denominator, and whether the bounds themselves round to it. -/
structure RoundingInterval where
  value : Nat
  low : Nat
  high : Nat
  den : Nat
  closed : Bool

/-- The interval of a positive finite double `m · 2 ^ q`. -/
def RoundingInterval.of (m : Nat) (q : Int) : RoundingInterval :=
  let scale := if q ≥ 2 then Nat.pow 2 (q - 2).toNat else 1
  let den := if q ≥ 2 then 1 else Nat.pow 2 (2 - q).toNat
  let below := if m == Nat.pow 2 52 && q > -1074 then 1 else 2
  ⟨4 * m * scale, (4 * m - below) * scale, (4 * m + 2) * scale, den, m % 2 == 0⟩

/-- Whether `digits · 10 ^ exponent` lies in the interval. -/
def RoundingInterval.holds (i : RoundingInterval) (digits : Nat) (exponent : Int) : Bool :=
  let up := if exponent ≥ 0 then Nat.pow 10 exponent.toNat else 1
  let down := if exponent ≥ 0 then 1 else Nat.pow 10 (-exponent).toNat
  let point := digits * up * i.den
  if i.closed then i.low * down ≤ point && point ≤ i.high * down
  else i.low * down < point && point < i.high * down

/-- The largest `k` with `10 ^ k ≤ value / den`, for positive numbers. -/
def floorLog10 (num den : Nat) : Int :=
  let k : Int := (digitCount num : Int) - digitCount den
  let below := if k ≥ 0 then decide (num < den * Nat.pow 10 k.toNat) else decide (num * Nat.pow 10 (-k).toNat < den)
  if below then k - 1 else k

/-- The multiple of `10 ^ exponent` in the interval that is nearest to its value, if there is one:
the value's neighbours on that grid are tried. -/
def RoundingInterval.onGrid (i : RoundingInterval) (exponent : Int) : Option Nat :=
  let up := if exponent ≥ 0 then Nat.pow 10 exponent.toNat else 1
  let down := if exponent ≥ 0 then 1 else Nat.pow 10 (-exponent).toNat
  let unit := up * i.den
  let scaled := i.value * down
  let floor := scaled / unit
  let rest := scaled % unit
  match i.holds floor exponent, i.holds (floor + 1) exponent with
  | true, true => some (if 2 * rest < unit || (2 * rest == unit && floor % 2 == 0) then floor else floor + 1)
  | true, false => some floor
  | false, true => some (floor + 1)
  | false, false => none

/-- The first grid, from `tries` digits upwards, that meets the interval. -/
def RoundingInterval.search (i : RoundingInterval) (top : Int) : (tries digits : Nat) → Nat × Int
  | 0, digits => (0, top + 1 - digits)
  | tries + 1, digits =>
    let exponent := top + 1 - digits
    match i.onGrid exponent with
    | some found => (found, exponent)
    | none => i.search top tries (digits + 1)

/-- The shortest decimal `digits · 10 ^ exponent` of a positive finite double. -/
def shortest (m : Nat) (q : Int) : Nat × Int :=
  let i := RoundingInterval.of m q
  i.search (floorLog10 i.value i.den) 17 1

/-- A number's digits without the zeros at its end. -/
def stripZeros : List Char → List Char := fun digits =>
  (digits.reverse.dropWhile (· == '0')).reverse

/-- The text of a double. From 0.0001 up to below 10 ^ 16 it is written without exponent and
always with a fraction; otherwise with an exponent of at least two digits and its sign. -/
def Double.text (x : Double) : String :=
  if x.isNaN then "nan"
  else
    let sign := if x.negative then "-" else ""
    if x.isInfinite then sign ++ "inf"
    else if x.isZero then sign ++ "0.0"
    else
      let (m, q) := x.parts
      let (number, exponent) := shortest m q
      let all := Nat.toDigits 10 number
      let digits := stripZeros all
      let point : Int := (all.length : Int) + exponent
      let body :=
        if -4 < point && point ≤ 16 then
          if point ≤ 0 then
            "0." ++ String.ofList (List.replicate (-point).toNat '0' ++ digits)
          else
            let whole := digits.take point.toNat
            let fraction := digits.drop point.toNat
            String.ofList (whole ++ List.replicate (point.toNat - whole.length) '0') ++ "." ++
              (if fraction.isEmpty then "0" else String.ofList fraction)
        else
          let power := point - 1
          let size := toString power.natAbs
          let padded := if size.length < 2 then "0" ++ size else size
          String.ofList (digits.take 1) ++
            (if digits.length ≤ 1 then "" else "." ++ String.ofList (digits.drop 1)) ++
            "e" ++ (if power < 0 then "-" else "+") ++ padded
      sign ++ body

end LeastGrant.Decimal
