/-!
# Numbers of JSON documents

A document number is an integer of any size or a binary floating-point number with 53 significant
bits. A finite floating-point number is held exactly, as a sign, a significand and a power of two.
Reading a decimal rounds it to the nearest such number, ties going to the even significand. Two
numbers are alike when they have the same value, whatever their kind.
-/

set_option autoImplicit false

namespace RouteAtlas

/-- A power of two. -/
def twoTo (exponent : Nat) : Nat := Nat.pow 2 exponent

/-- A power of ten. -/
def tenTo (exponent : Nat) : Nat := Nat.pow 10 exponent

/-- A binary floating-point number; a finite one is `± significand · 2 ^ exponent`. -/
inductive Binary64 where
  | finite (negative : Bool) (significand : Nat) (exponent : Int)
  | infinite (negative : Bool)
  | undefined
  deriving DecidableEq, Repr, Inhabited

namespace Binary64

/-- The quotient rounded to the nearest integer, a half going to the even neighbour. -/
def roundDiv (numerator denominator : Nat) : Nat :=
  let quotient := numerator / denominator
  let twice := 2 * (numerator % denominator)
  if twice > denominator || (twice == denominator && quotient % 2 == 1) then quotient + 1
  else quotient

/-- The least exponent of a finite number. -/
def minExponent : Int := -1074

/-- The greatest exponent of a finite number. -/
def maxExponent : Int := 971

/-- `numerator / (denominator · 2 ^ exponent)` as a pair of natural numbers. -/
def scaled (numerator denominator : Nat) (exponent : Int) : Nat × Nat :=
  if exponent < 0 then (numerator * twoTo exponent.natAbs, denominator)
  else (numerator, denominator * twoTo exponent.natAbs)

/-- The exponent that gives a quotient 53 significant bits, or the least one. -/
def exponentFor (numerator denominator : Nat) : Int :=
  let guess : Int := (numerator.log2 : Int) - denominator.log2 - 52
  let (n, d) := scaled numerator denominator guess
  let fitted :=
    if n / d < twoTo 52 then guess - 1 else if n / d ≥ twoTo 53 then guess + 1 else guess
  max fitted minExponent

/-- The floating-point number nearest to a quotient. -/
def ofQuotient (negative : Bool) (numerator denominator : Nat) : Binary64 :=
  if numerator = 0 then .finite negative 0 minExponent
  else
    let exponent := exponentFor numerator denominator
    let (n, d) := scaled numerator denominator exponent
    let rounded := roundDiv n d
    let (significand, exponent) :=
      if rounded = twoTo 53 then (twoTo 52, exponent + 1) else (rounded, exponent)
    if exponent > maxExponent then .infinite negative else .finite negative significand exponent

/-- The power of ten from which on every positive integer times that power is out of range, and below
whose negative, less the bits of the integer, every such number rounds to zero. -/
def powerLimit : Nat := 400

/-- The floating-point number nearest to `± digits · 10 ^ power`. -/
def ofDecimal (negative : Bool) (digits : Nat) (power : Int) : Binary64 :=
  if digits = 0 || power < -((powerLimit + digits.log2 : Nat) : Int) then
    .finite negative 0 minExponent
  else if power > powerLimit then .infinite negative
  else if power < 0 then ofQuotient negative digits (tenTo power.natAbs)
  else ofQuotient negative (digits * tenTo power.natAbs) 1

/-- A finite value as a signed integer times a power of two. -/
def signed (negative : Bool) (significand : Nat) : Int :=
  if negative then -(significand : Int) else significand

end Binary64

/-- `a · 2 ^ p` and `b · 2 ^ q` are the same number. -/
def sameScaled (a : Int) (p : Int) (b : Int) (q : Int) : Bool :=
  let least := min p q
  a * Int.ofNat (twoTo (p - least).natAbs) == b * Int.ofNat (twoTo (q - least).natAbs)

/-- A document number. -/
inductive Number where
  | int (value : Int)
  | float (value : Binary64)
  deriving DecidableEq, Repr, Inhabited

namespace Number

/-- Two numbers have the same value. -/
def alike : Number → Number → Bool
  | .int a, .int b => a == b
  | .int a, .float (.finite s m e) => sameScaled a 0 (Binary64.signed s m) e
  | .float (.finite s m e), .int b => sameScaled (Binary64.signed s m) e b 0
  | .float (.finite s m e), .float (.finite t n f) =>
      sameScaled (Binary64.signed s m) e (Binary64.signed t n) f
  | .float (.infinite s), .float (.infinite t) => s == t
  | _, _ => false

/-- The value is zero. -/
def isZero : Number → Bool
  | .int a => a == 0
  | .float (.finite _ m _) => m == 0
  | .float _ => false

end Number

end RouteAtlas
