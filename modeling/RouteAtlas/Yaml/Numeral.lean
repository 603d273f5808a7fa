import RouteAtlas.Json.Parser
import RouteAtlas.Text.Case
import RouteAtlas.Text.Digit
import RouteAtlas.Text.Quoted
import RouteAtlas.Yaml.Token

/-!
# Numbers of YAML documents

Underscores in a number do not count. An integer is binary, octal, decimal or hexadecimal by its first
characters, and one with colons is written in base sixty, as is a floating-point number with colons. A
number that does not read is reported with the part at fault. Blanks around a part and digits of other
scripts are taken as numbers take them everywhere.
-/

set_option autoImplicit false

namespace RouteAtlas.Yaml

open Text

/-! ## Integers -/

/-- The length up to which an integer at fault is shown. -/
def shownDigits : Nat := 200

/-- A fault in the digits of an integer. -/
def badInteger (base : Nat) (text : Text) : Fault :=
  .outOfRange ("invalid literal for int() with base " ++ toString base ++ ": "
    ++ String.ofList ((quoted text).take shownDigits))

/-- An integer with too many digits. -/
def longInteger (count : Nat) : Fault :=
  .outOfRange ("Exceeds the limit (" ++ toString maxIntegerDigits
    ++ " digits) for integer string conversion: value has " ++ toString count
    ++ " digits; use sys.set_int_max_str_digits() to increase the limit")

/-- The value of an integer in a base other than ten, which a letter may announce. -/
def inBase (base : Nat) (letter : Char) (text : Text) : Except Fault Int :=
  match integerIn? base letter text with
  | some value => .ok value
  | none => .error (badInteger base text)

/-- The value of a decimal integer. The digits it starts with are counted before what stands behind
them is looked at. -/
def inDecimal (text : Text) : Except Fault Int :=
  let digits := (splitSign (trimNumber text)).2.takeWhile fun c => (decimalValue? c).isSome
  if digits.length > maxIntegerDigits then .error (longInteger digits.length)
  else
    match integer? text with
    | some value => .ok value
    | none => .error (badInteger 10 text)

/-- Parts in base sixty, most significant first. -/
def inSixty (parts : List Text) : Except Fault Int :=
  parts.foldlM (fun total part => (inDecimal part).map (total * 60 + ·)) 0

/-- The value of an integer without its sign. -/
def unsignedInteger (text : Text) : Except Fault Int :=
  match text with
  | [] => .error .emptyNumber
  | ['0'] => .ok 0
  | '0' :: 'b' :: digits => inBase 2 'b' digits
  | '0' :: 'x' :: digits => inBase 16 'x' digits
  | '0' :: digits => inBase 8 'o' ('0' :: digits)
  | text => if text.contains ':' then inSixty (partsBy ':' text) else inDecimal text

/-- A number without its underscores, and whether it is negative. -/
def splitNumber (text : Text) : Except Fault (Bool × Text) :=
  match text.filter (· ≠ '_') with
  | [] => .error .emptyNumber
  | c :: rest => .ok (splitSign (c :: rest))

/-- The value of an integer. -/
def integerValue (text : Text) : Except Fault Number := do
  let (isNegative, rest) ← splitNumber text
  let value ← unsignedInteger rest
  pure (.int (if isNegative then -value else value))

/-! ## Floating-point numbers -/

/-- A fault in a floating-point number. -/
def badFloat (text : Text) : Fault :=
  .outOfRange ("could not convert string to float: " ++ String.ofList (quoted text))

/-- The ASCII digit with the value of a decimal digit. -/
def asciiDigit (c : Char) : Char :=
  match decimalValue? c with
  | some value => Char.ofNat (48 + value)
  | none => c

/-- The exponent of a decimal number, whose digits are not bounded. -/
def exponent? (text : Text) : Option Int :=
  let (isNegative, digits) := splitSign text
  if digits.isEmpty || !digits.all Char.isDigit then none
  else
    let value := Json.ofDigits digits
    some (if isNegative then -(value : Int) else value)

/-- A decimal number with an optional point and exponent. -/
def decimal? (isNegative : Bool) (text : Text) : Option Binary64 :=
  let whole := text.takeWhile Char.isDigit
  let rest := text.dropWhile Char.isDigit
  let (fraction, rest) := match rest with
    | '.' :: behind => (behind.takeWhile Char.isDigit, behind.dropWhile Char.isDigit)
    | rest => ([], rest)
  if whole.isEmpty && fraction.isEmpty then none
  else
    let value := fun (exponent : Int) =>
      Binary64.ofDecimal isNegative (Json.ofDigits (whole ++ fraction))
        (exponent - fraction.length)
    match rest with
    | [] => some (value 0)
    | 'e' :: exponent => (exponent? exponent).map value
    | _ => none

/-- Words for the numbers that are not finite. -/
def wordNumber? (isNegative : Bool) (text : Text) : Option Binary64 :=
  if text = "inf".toList || text = "infinity".toList then some (.infinite isNegative)
  else if text = "nan".toList then some .undefined
  else none

/-- The value of a floating-point number in lower case, with or without a sign of its own. -/
def signedDecimal (text : Text) : Except Fault Binary64 :=
  let (isNegative, rest) := splitSign ((trimNumber text).map asciiDigit)
  match wordNumber? isNegative rest <|> decimal? isNegative rest with
  | some value => .ok value
  | none => .error (badFloat text)

/-- The floating-point number nearest to a signed integer times a power of two. -/
def ofScaled (value exponent : Int) : Binary64 :=
  if exponent < 0 then Binary64.ofQuotient (value < 0) value.natAbs (twoTo exponent.natAbs)
  else Binary64.ofQuotient (value < 0) (value.natAbs * twoTo exponent.natAbs) 1

/-- The sum of two floating-point numbers. -/
def plus : Binary64 → Binary64 → Binary64
  | .finite s m e, .finite t n f =>
      let least := min e f
      ofScaled (Binary64.signed s m * Int.ofNat (twoTo (e - least).natAbs)
        + Binary64.signed t n * Int.ofNat (twoTo (f - least).natAbs)) least
  | .infinite s, .infinite t => if s = t then .infinite s else .undefined
  | .infinite s, .finite _ _ _ => .infinite s
  | .finite _ _ _, .infinite t => .infinite t
  | _, _ => .undefined

/-- The product of a floating-point number and the one nearest to a positive integer. -/
def timesNat (value : Binary64) (factor : Nat) : Binary64 :=
  match value, Binary64.ofQuotient false factor 1 with
  | .finite s m e, .finite _ n f => ofScaled (Binary64.signed s m * n) (e + f)
  | value, _ => value

/-- The number of parts in base sixty up to which every place has a floating-point number. -/
def maxSixtyParts : Nat := 174

/-- Parts in base sixty, least significant first, each times its place, from a place on. -/
def sumSixty : Nat → Binary64 → List Binary64 → Binary64
  | _, total, [] => total
  | place, total, part :: rest => sumSixty (place * 60) (plus total (timesNat part place)) rest

/-- The same number with the other sign. -/
def negated : Binary64 → Binary64
  | .finite s m e => .finite (!s) m e
  | .infinite s => .infinite (!s)
  | .undefined => .undefined

/-- The value of a floating-point number. -/
def floatValue (text : Text) : Except Fault Number := do
  let (isNegative, rest) ← splitNumber (lower text)
  let value ←
    if rest = ".inf".toList then pure (Binary64.infinite false)
    else if rest = ".nan".toList then pure .undefined
    else if rest.contains ':' then
      let parts ← (partsBy ':' rest).mapM signedDecimal
      if parts.length > maxSixtyParts then throw .tooLarge
      pure (sumSixty 1 (.finite false 0 Binary64.minExponent) parts.reverse)
    else signedDecimal rest
  pure (.float (if isNegative then negated value else value))

end RouteAtlas.Yaml
