import RouteAtlas.Json.Number

/-!
# Decimal text of numbers

A finite floating-point number is written with the fewest decimal digits that read back as the same
number, and of those with the digits nearest to it. The digits are found on the grids of one, two,
and up to seventeen significant digits: on each grid the two neighbours of the value are tested
against the interval of reals that round to it. How the digits are laid out is a separate choice:
positional up to sixteen places before the point and three zeros behind it, with an exponent
otherwise.
-/

set_option autoImplicit false

namespace RouteAtlas.Binary64

/-- A value and the ends of its rounding interval as numerators over one denominator, and whether the
ends belong to the interval. -/
structure Interval where
  value : Nat
  low : Nat
  high : Nat
  denominator : Nat
  closed : Bool

/-- The reals that round to `significand · 2 ^ exponent`. -/
def interval (significand : Nat) (exponent : Int) : Interval :=
  let below := if significand = twoTo 52 && exponent > minExponent then 1 else 2
  let factor := if exponent < 2 then 1 else twoTo (exponent - 2).natAbs
  let denominator := if exponent < 2 then twoTo (exponent - 2).natAbs else 1
  { value := 4 * significand * factor
    low := (4 * significand - below) * factor
    high := (4 * significand + 2) * factor
    denominator := denominator
    closed := significand % 2 == 0 }

/-- The interval measured in units of `10 ^ power`. -/
def Interval.inUnits (i : Interval) (power : Int) : Interval :=
  if power < 0 then
    let scale := tenTo power.natAbs
    { i with value := i.value * scale, low := i.low * scale, high := i.high * scale }
  else { i with denominator := i.denominator * tenTo power.natAbs }

/-- A whole number of units lies in the interval. -/
def Interval.contains (i : Interval) (units : Nat) : Bool :=
  let scaled := units * i.denominator
  if i.closed then i.low ≤ scaled && scaled ≤ i.high else i.low < scaled && scaled < i.high

/-- The neighbour of the value on the grid of whole units that lies in the interval; of two, the
nearer one, and the even one of two equally near. -/
def Interval.neighbour? (i : Interval) : Option Nat :=
  let down := i.value / i.denominator
  let up := down + 1
  match i.contains down, i.contains up with
  | false, false => none
  | true, false => some down
  | false, true => some up
  | true, true =>
      let twice := 2 * (i.value % i.denominator)
      if twice < i.denominator then some down
      else if twice > i.denominator then some up
      else some (if down % 2 = 0 then down else up)

/-- The power of ten of the leading digit of a positive quotient. -/
def leadingPower (numerator denominator : Nat) : Int :=
  if numerator ≥ denominator then (Nat.toDigits 10 (numerator / denominator)).length - 1
  else
    match (List.range 400).find? fun s => numerator * tenTo s ≥ denominator with
    | some s => -(s : Int)
    | none => -400

/-- The fewest digits that read back as a positive number, and the power of ten of the last one. -/
def shortest (significand : Nat) (exponent : Int) : Nat × Int :=
  let i := interval significand exponent
  let lead := leadingPower i.value i.denominator
  let attempt := fun (count : Nat) =>
    let power := lead - count + 1
    (i.inUnits power).neighbour?.map fun digits => (digits, power)
  match ((List.range 17).map (· + 1)).findSome? attempt with
  | some found => found
  | none => (significand, 0)

/-- Digits without the zeros at their end, and the power of ten of the last digit kept. -/
def dropZeros : Nat → Nat → Int → Nat × Int
  | 0, digits, power => (digits, power)
  | fuel + 1, digits, power =>
      if digits % 10 = 0 && digits ≠ 0 then dropZeros fuel (digits / 10) (power + 1)
      else (digits, power)

/-- The layout of digits `d₁d₂…` whose point stands behind the first `point` of them. -/
def layout (digits : String) (point : Int) : String :=
  let count := digits.length
  if point > 16 || point ≤ -4 then
    let exponent := point - 1
    let body := if count ≤ 1 then digits
      else (digits.take 1).toString ++ "." ++ (digits.drop 1).toString
    let magnitude := toString exponent.natAbs
    let padded := if magnitude.length < 2 then "0" ++ magnitude else magnitude
    body ++ (if exponent < 0 then "e-" else "e+") ++ padded
  else if point ≤ 0 then
    "0." ++ String.ofList (List.replicate point.natAbs '0') ++ digits
  else if point.natAbs ≥ count then
    digits ++ String.ofList (List.replicate (point.natAbs - count) '0') ++ ".0"
  else
    (digits.take point.natAbs).toString ++ "." ++ (digits.drop point.natAbs).toString

/-- The decimal text of a floating-point number. -/
def text : Binary64 → String
  | .undefined => "nan"
  | .infinite negative => if negative then "-inf" else "inf"
  | .finite negative significand exponent =>
      let sign := if negative then "-" else ""
      if significand = 0 then sign ++ "0.0"
      else
        let (digits, power) := shortest significand exponent
        let (digits, power) := dropZeros 20 digits power
        let shown := String.ofList (Nat.toDigits 10 digits)
        sign ++ layout shown (power + shown.length)

end RouteAtlas.Binary64

namespace RouteAtlas.Number

/-- The decimal text of a number. -/
def text : Number → String
  | .int value => toString value
  | .float value => value.text

end RouteAtlas.Number
