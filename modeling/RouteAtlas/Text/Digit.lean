import RouteAtlas.Text.Blank

/-!
# Digits of every script and the integers written with them

A digit is a character with a digit value, superscripts included. A decimal digit belongs to one of
the runs of ten consecutive code points listed below and counts from the start of its run. An
integer may stand between blanks, carry a sign and separate its digits by single underscores; it may
have at most 4300 digits. In a base other than ten there is no such limit, and the base may be
announced by a zero and a letter.
-/

set_option autoImplicit false

namespace RouteAtlas.Text

/-- Digits outside ASCII, as code point ranges in ascending order. -/
def digitRanges : List (Nat × Nat) :=
  [(0xB2, 0xB3), (0xB9, 0xB9), (0x660, 0x669), (0x6F0, 0x6F9), (0x7C0, 0x7C9), (0x966, 0x96F),
   (0x9E6, 0x9EF), (0xA66, 0xA6F), (0xAE6, 0xAEF), (0xB66, 0xB6F), (0xBE6, 0xBEF), (0xC66, 0xC6F),
   (0xCE6, 0xCEF), (0xD66, 0xD6F), (0xDE6, 0xDEF), (0xE50, 0xE59), (0xED0, 0xED9), (0xF20, 0xF29),
   (0x1040, 0x1049), (0x1090, 0x1099), (0x1369, 0x1371), (0x17E0, 0x17E9), (0x1810, 0x1819), (0x1946, 0x194F),
   (0x19D0, 0x19DA), (0x1A80, 0x1A89), (0x1A90, 0x1A99), (0x1B50, 0x1B59), (0x1BB0, 0x1BB9), (0x1C40, 0x1C49),
   (0x1C50, 0x1C59), (0x2070, 0x2070), (0x2074, 0x2079), (0x2080, 0x2089), (0x2460, 0x2468), (0x2474, 0x247C),
   (0x2488, 0x2490), (0x24EA, 0x24EA), (0x24F5, 0x24FD), (0x24FF, 0x24FF), (0x2776, 0x277E), (0x2780, 0x2788),
   (0x278A, 0x2792), (0xA620, 0xA629), (0xA8D0, 0xA8D9), (0xA900, 0xA909), (0xA9D0, 0xA9D9), (0xA9F0, 0xA9F9),
   (0xAA50, 0xAA59), (0xABF0, 0xABF9), (0xFF10, 0xFF19), (0x104A0, 0x104A9), (0x10A40, 0x10A43), (0x10D30, 0x10D39),
   (0x10E60, 0x10E68), (0x11052, 0x1105A), (0x11066, 0x1106F), (0x110F0, 0x110F9), (0x11136, 0x1113F), (0x111D0, 0x111D9),
   (0x112F0, 0x112F9), (0x11450, 0x11459), (0x114D0, 0x114D9), (0x11650, 0x11659), (0x116C0, 0x116C9), (0x11730, 0x11739),
   (0x118E0, 0x118E9), (0x11950, 0x11959), (0x11C50, 0x11C59), (0x11D50, 0x11D59), (0x11DA0, 0x11DA9), (0x16A60, 0x16A69),
   (0x16AC0, 0x16AC9), (0x16B50, 0x16B59), (0x1D7CE, 0x1D7FF), (0x1E140, 0x1E149), (0x1E2F0, 0x1E2F9), (0x1E950, 0x1E959),
   (0x1F100, 0x1F10A), (0x1FBF0, 0x1FBF9)]

/-- The zero of every run of ten decimal digits outside ASCII, in ascending order. -/
def decimalZeros : List Nat :=
  [0x660, 0x6F0, 0x7C0, 0x966, 0x9E6, 0xA66, 0xAE6, 0xB66, 0xBE6, 0xC66,
   0xCE6, 0xD66, 0xDE6, 0xE50, 0xED0, 0xF20, 0x1040, 0x1090, 0x17E0, 0x1810,
   0x1946, 0x19D0, 0x1A80, 0x1A90, 0x1B50, 0x1BB0, 0x1C40, 0x1C50, 0xA620, 0xA8D0,
   0xA900, 0xA9D0, 0xA9F0, 0xAA50, 0xABF0, 0xFF10, 0x104A0, 0x10D30, 0x11066, 0x110F0,
   0x11136, 0x111D0, 0x112F0, 0x11450, 0x114D0, 0x11650, 0x116C0, 0x11730, 0x118E0, 0x11950,
   0x11C50, 0x11D50, 0x11DA0, 0x16A60, 0x16AC0, 0x16B50, 0x1D7CE, 0x1D7D8, 0x1D7E2, 0x1D7EC,
   0x1D7F6, 0x1E140, 0x1E2F0, 0x1E950, 0x1FBF0]

/-- Characters with a digit value. -/
def isDigit (c : Char) : Bool :=
  if c.toNat < 128 then c.isDigit else inRanges digitRanges c

/-- The value of a decimal digit. -/
def decimalValue? (c : Char) : Option Nat :=
  if c.toNat < 128 then
    if c.isDigit then some (c.toNat - 48) else none
  else
    (decimalZeros.find? fun start => start ≤ c.toNat && c.toNat < start + 10).map (c.toNat - ·)

/-- The longest run of digits an integer may have. -/
def maxIntegerDigits : Nat := 4300

/-- Digit values in groups joined by single underscores; `afterDigit` tells whether a digit came last. -/
def digitValues? : Bool → Text → Option (List Nat)
  | afterDigit, [] => if afterDigit then some [] else none
  | afterDigit, c :: rest =>
      if c = '_' then
        if afterDigit then digitValues? false rest else none
      else do
        let value ← decimalValue? c
        let values ← digitValues? true rest
        pure (value :: values)

/-- The number that a list of decimal digit values denotes, most significant first. -/
def ofDigitValues (values : List Nat) : Nat :=
  values.foldl (fun total value => total * 10 + value) 0

/-- The natural number written by a text of decimal digits. -/
def natural? (text : Text) : Option Nat := do
  let values ← digitValues? false text
  if values.length ≤ maxIntegerDigits then pure (ofDigitValues values) else none

/-- A text without the blanks around it, as numbers are read: the separator controls do not count. -/
def trimNumber (text : Text) : Text := trimWhile isSpace text

/-- Whether a number is negative, and the text behind its sign. -/
def splitSign : Text → Bool × Text
  | '-' :: rest => (true, rest)
  | '+' :: rest => (false, rest)
  | rest => (false, rest)

/-- The integer that a text denotes. -/
def integer? (text : Text) : Option Int :=
  let (isNegative, digits) := splitSign (trimNumber text)
  (natural? digits).map fun n => if isNegative then -(n : Int) else n

/-- The value of a digit in a base up to thirty-six: a decimal digit of any script or an ASCII
letter. -/
def digitIn? (base : Nat) (c : Char) : Option Nat :=
  let value? := match decimalValue? c with
    | some value => some value
    | none =>
        if 'a' ≤ c && c ≤ 'z' then some (c.toNat - 87)
        else if 'A' ≤ c && c ≤ 'Z' then some (c.toNat - 55)
        else none
  value?.filter (· < base)

/-- The natural number that digits denote in a base, most significant first. -/
def naturalIn? (base : Nat) (digits : Text) : Option Nat :=
  if digits.isEmpty then none
  else digits.foldlM (fun total c => (digitIn? base c).map (total * base + ·)) 0

/-- Digits without the zero and the letter that may announce their base. -/
def dropBaseMark (letter : Char) (digits : Text) : Text :=
  match digits with
  | '0' :: c :: rest => if c = letter || c = letter.toUpper then rest else digits
  | digits => digits

/-- The integer that a text denotes in a base that a letter may announce. -/
def integerIn? (base : Nat) (letter : Char) (text : Text) : Option Int :=
  let (isNegative, digits) := splitSign (trimNumber text)
  (naturalIn? base (dropBaseMark letter digits)).map fun n =>
    if isNegative then -(n : Int) else n

end RouteAtlas.Text
