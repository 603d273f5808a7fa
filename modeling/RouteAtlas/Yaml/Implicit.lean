import RouteAtlas.Text.Basic

/-!
# Implicit types of plain scalars

A plain scalar of YAML 1.1 stands for null, a truth value, a number, a timestamp or one of two special
keys when it is written like one, and for its text otherwise. Digits are those of ASCII.
-/

set_option autoImplicit false

namespace RouteAtlas.Yaml

open Text

/-- What a plain scalar stands for. -/
inductive Implicit where
  | null
  | boolean (value : Bool)
  | integer
  | float
  | timestamp
  | merge
  | value
  | text
  deriving DecidableEq, Repr, Inhabited

/-- The spellings of truth. -/
def trueWords : List String :=
  ["yes", "Yes", "YES", "true", "True", "TRUE", "on", "On", "ON"]

/-- The spellings of falsehood. -/
def falseWords : List String :=
  ["no", "No", "NO", "false", "False", "FALSE", "off", "Off", "OFF"]

/-- The spellings of null. -/
def nullWords : List String := ["", "~", "null", "Null", "NULL"]

/-- A character that may stand in a decimal number: a digit or an underscore. -/
def isDecimalPart (c : Char) : Bool := c.isDigit || c == '_'

/-- Drops a sign. -/
def dropSign : Text → Text
  | [] => []
  | c :: rest => if c = '-' || c = '+' then rest else c :: rest

/-- A digit, then digits and underscores. -/
def isDecimal : Text → Bool
  | [] => false
  | c :: rest => c.isDigit && rest.all isDecimalPart

/-- A base-sixty digit: one digit, or two of which the first is below six. -/
def isSixty : Text → Bool
  | [c] => c.isDigit
  | [c, d] => '0' ≤ c && c ≤ '5' && d.isDigit
  | _ => false

/-- At least one character, all of a class. -/
def isRun (p : Char → Bool) (text : Text) : Bool := !text.isEmpty && text.all p

/-- A binary digit or an underscore. -/
def isBinaryPart (c : Char) : Bool := c == '0' || c == '1' || c == '_'

/-- An octal digit or an underscore. -/
def isOctalPart (c : Char) : Bool := ('0' ≤ c && c ≤ '7') || c == '_'

/-- A hexadecimal digit or an underscore. -/
def isHexPart (c : Char) : Bool :=
  c.isDigit || ('a' ≤ c && c ≤ 'f') || ('A' ≤ c && c ≤ 'F') || c == '_'

/-- A decimal number that does not start with zero. -/
def isPositiveDecimal : Text → Bool
  | [] => false
  | c :: rest => isDecimal (c :: rest) && c != '0'

/-- An integer without its sign: binary, octal, decimal, hexadecimal or in base sixty. -/
def isUnsignedInteger (text : Text) : Bool :=
  match text with
  | ['0'] => true
  | '0' :: 'b' :: digits => isRun isBinaryPart digits
  | '0' :: 'x' :: digits => isRun isHexPart digits
  | '0' :: digits => isRun isOctalPart digits
  | text =>
      match partsBy ':' text with
      | first :: rest => isPositiveDecimal first && rest.all isSixty
      | [] => false

/-- An exponent with its sign, or nothing. -/
def isExponent : Text → Bool
  | [] => true
  | e :: sign :: digits =>
      (e = 'e' || e = 'E') && (sign = '-' || sign = '+') && isRun Char.isDigit digits
  | _ => false

/-- The part of a floating-point number behind its point. -/
def isFraction (text : Text) : Bool := isExponent (text.dropWhile isDecimalPart)

/-- A number in base sixty with a point, cut at its colons. -/
def isSixtyFloat : List Text → Bool
  | first :: second :: rest =>
      let groups := second :: rest
      match cut? ['.'] (groups.getLast?.getD []) with
      | some (last, fraction) =>
          isDecimal first && groups.dropLast.all isSixty && isSixty last
            && fraction.all isDecimalPart
      | none => false
  | _ => false

/-- A floating-point number. -/
def isFloat (text : Text) : Bool :=
  let unsigned := dropSign text
  let pointed := match cut? ['.'] unsigned with
    | some (whole, fraction) => isDecimal whole && isFraction fraction
    | none => false
  let bare := match text with
    | '.' :: c :: rest => c.isDigit && isFraction (c :: rest)
    | _ => false
  pointed || bare || isSixtyFloat (partsBy ':' unsigned)
    || [".inf", ".Inf", ".INF"].any (fun word => unsigned == word.toList)
    || [".nan", ".NaN", ".NAN"].any fun word => text == word.toList

/-- A run of digits of one of some lengths. -/
def isDigits (lengths : List Nat) (text : Text) : Bool :=
  lengths.contains text.length && text.all Char.isDigit

/-- The zone of a timestamp, or nothing. -/
def isZone (text : Text) : Bool :=
  match text.dropWhile (fun c => c == ' ' || c == '\t') with
  | [] => text.isEmpty
  | ['Z'] => true
  | sign :: rest =>
      (sign = '-' || sign = '+') &&
        match partsBy ':' rest with
        | [hours] => isDigits [1, 2] hours
        | [hours, minutes] => isDigits [1, 2] hours && isDigits [2] minutes
        | _ => false

/-- The seconds of a timestamp, with an optional fraction and zone. -/
def isSeconds (text : Text) : Bool :=
  let rest := text.drop 2
  let behind := match rest with
    | '.' :: fraction => fraction.dropWhile Char.isDigit
    | rest => rest
  isDigits [2] (text.take 2) && isZone behind

/-- The time of a timestamp. -/
def isTime (text : Text) : Bool :=
  match cut? [':'] text with
  | some (hours, rest) =>
      match cut? [':'] rest with
      | some (minutes, seconds) => isDigits [1, 2] hours && isDigits [2] minutes && isSeconds seconds
      | none => false
  | none => false

/-- The day of a timestamp and its time. -/
def isDayTime (text : Text) : Bool :=
  let day := text.takeWhile Char.isDigit
  isDigits [1, 2] day &&
    match text.drop day.length with
    | [] => false
    | mark :: rest =>
        if mark = 'T' || mark = 't' then isTime rest
        else (mark = ' ' || mark = '\t') && isTime (rest.dropWhile fun c => c == ' ' || c == '\t')

/-- A date, or a date with a time. -/
def isTimestamp (text : Text) : Bool :=
  match cut? ['-'] text with
  | some (year, rest) =>
      match cut? ['-'] rest with
      | some (month, day) =>
          isDigits [4] year &&
            ((isDigits [2] month && isDigits [2] day) || (isDigits [1, 2] month && isDayTime day))
      | none => false
  | none => false

/-- A word is one of some spellings. -/
def isSpelling (words : List String) (text : Text) : Bool :=
  words.any fun word => text == word.toList

/-- What a plain scalar stands for. -/
def implicit (text : Text) : Implicit :=
  if isSpelling nullWords text then .null
  else if isSpelling trueWords text then .boolean true
  else if isSpelling falseWords text then .boolean false
  else if isFloat text then .float
  else if isUnsignedInteger (dropSign text) then .integer
  else if isTimestamp text then .timestamp
  else if text = ['<', '<'] then .merge
  else if text = ['='] then .value
  else .text

end RouteAtlas.Yaml
