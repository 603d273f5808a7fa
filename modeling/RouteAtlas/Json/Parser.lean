import RouteAtlas.Json.Basic
import RouteAtlas.Text.Basic

/-!
# Reading JSON text

A recursive-descent reader over the characters of a text. Every nested value takes one unit of fuel,
and a text cannot nest deeper than it is long, so the wrapper `parse?` starts with the length of the
text. A number with a point or an exponent is a floating-point number and any other is an integer. A
key given twice keeps its first place and its last value.
-/

set_option autoImplicit false

namespace RouteAtlas.Json

/-- Drops the blanks JSON allows between tokens. -/
def skipSpace (text : Text) : Text :=
  text.dropWhile fun c => c = ' ' || c = '\n' || c = '\r' || c = '\t'

/-- The value of a hexadecimal digit. -/
def hexValue? (c : Char) : Option Nat :=
  if '0' ≤ c && c ≤ '9' then some (c.toNat - 48)
  else if 'a' ≤ c && c ≤ 'f' then some (c.toNat - 87)
  else if 'A' ≤ c && c ≤ 'F' then some (c.toNat - 55)
  else none

/-- The number written by four hexadecimal digits, and the rest. -/
def hex4? : Text → Option (Nat × Text)
  | a :: b :: c :: d :: rest => do
      let a ← hexValue? a
      let b ← hexValue? b
      let c ← hexValue? c
      let d ← hexValue? d
      pure (((a * 16 + b) * 16 + c) * 16 + d, rest)
  | _ => none

/-- The character of an escape letter. -/
def simpleEscape? (c : Char) : Option Char :=
  match c with
  | '"' => some '"'
  | '\\' => some '\\'
  | '/' => some '/'
  | 'b' => some '\x08'
  | 'f' => some '\x0c'
  | 'n' => some '\n'
  | 'r' => some '\r'
  | 't' => some '\t'
  | _ => none

/-- A code unit escape; a high unit takes the low unit behind it along. -/
def unitEscape? (text : Text) : Option (Char × Text) := do
  let (high, rest) ← hex4? text
  if 0xD800 ≤ high && high < 0xDC00 then
    match rest with
    | '\\' :: 'u' :: rest => do
        let (low, rest) ← hex4? rest
        pure (Char.ofNat (0x10000 + (high - 0xD800) * 0x400 + (low - 0xDC00)), rest)
    | _ => none
  else pure (Char.ofNat high, rest)

/-- The characters of a string up to its closing quote, and the rest behind it. -/
def stringBody? : Nat → Text → Option (Text × Text)
  | 0, _ => none
  | fuel + 1, text =>
      match text with
      | [] => none
      | '"' :: rest => some ([], rest)
      | '\\' :: 'u' :: rest => do
          let (c, rest) ← unitEscape? rest
          let (body, rest) ← stringBody? fuel rest
          pure (c :: body, rest)
      | '\\' :: letter :: rest => do
          let c ← simpleEscape? letter
          let (body, rest) ← stringBody? fuel rest
          pure (c :: body, rest)
      | c :: rest => do
          let (body, rest) ← stringBody? fuel rest
          pure (c :: body, rest)

/-- The number that a text of decimal digits denotes. -/
def ofDigits (digits : Text) : Nat :=
  digits.foldl (fun total c => total * 10 + (c.toNat - 48)) 0

/-- An exponent mark with its signed digits, and the rest; zero when there is none. -/
def exponent? (text : Text) : Option Int × Text :=
  match text with
  | e :: rest =>
      if e = 'e' || e = 'E' then
        let (negative, rest) := match rest with
          | '-' :: rest => (true, rest)
          | '+' :: rest => (false, rest)
          | rest => (false, rest)
        let digits := rest.takeWhile Char.isDigit
        let value : Int := ofDigits digits
        (some (if negative then -value else value), rest.dropWhile Char.isDigit)
      else (none, text)
  | [] => (none, [])

/-- The number at the head of a text, and the rest. -/
def number? (text : Text) : Option (Number × Text) :=
  let (negative, text) := match text with
    | '-' :: rest => (true, rest)
    | text => (false, text)
  let whole := text.takeWhile Char.isDigit
  let rest := text.dropWhile Char.isDigit
  if whole.isEmpty then none
  else
    let (fraction, rest) := match rest with
      | '.' :: rest => (some (rest.takeWhile Char.isDigit), rest.dropWhile Char.isDigit)
      | rest => (none, rest)
    match fraction, exponent? rest with
    | none, (none, rest) =>
        let value : Int := ofDigits whole
        some (.int (if negative then -value else value), rest)
    | fraction, (exponent, rest) =>
        let decimals := fraction.getD []
        let power := exponent.getD 0 - decimals.length
        some (.float (Binary64.ofDecimal negative (ofDigits (whole ++ decimals)) power), rest)

mutual

/-- The value at the head of a text, and the rest. -/
def value? : Nat → Text → Option (Json × Text)
  | 0, _ => none
  | fuel + 1, text =>
      match skipSpace text with
      | '"' :: rest => do
          let (body, rest) ← stringBody? (rest.length + 1) rest
          pure (.str (String.ofList body), rest)
      | '[' :: rest =>
          match skipSpace rest with
          | ']' :: rest => some (.arr [], rest)
          | rest => do
              let (items, rest) ← items? fuel rest
              pure (.arr items, rest)
      | '\x7b' :: rest =>
          match skipSpace rest with
          | '\x7d' :: rest => some (.obj [], rest)
          | rest => do
              let (fields, rest) ← fields? fuel rest
              pure (.obj (Table.ofList fields), rest)
      | 'n' :: 'u' :: 'l' :: 'l' :: rest => some (.null, rest)
      | 't' :: 'r' :: 'u' :: 'e' :: rest => some (.bool true, rest)
      | 'f' :: 'a' :: 'l' :: 's' :: 'e' :: rest => some (.bool false, rest)
      | rest => (number? rest).map fun (number, rest) => (.num number, rest)

/-- The items of a list up to its closing bracket, and the rest. -/
def items? : Nat → Text → Option (List Json × Text)
  | 0, _ => none
  | fuel + 1, text => do
      let (item, rest) ← value? fuel text
      match skipSpace rest with
      | ',' :: rest => do
          let (items, rest) ← items? fuel rest
          pure (item :: items, rest)
      | ']' :: rest => pure ([item], rest)
      | _ => none

/-- The entries of an object up to its closing brace, and the rest. -/
def fields? : Nat → Text → Option (List (String × Json) × Text)
  | 0, _ => none
  | fuel + 1, text =>
      match skipSpace text with
      | '"' :: rest => do
          let (key, rest) ← stringBody? (rest.length + 1) rest
          match skipSpace rest with
          | ':' :: rest => do
              let (value, rest) ← value? fuel rest
              match skipSpace rest with
              | ',' :: rest => do
                  let (fields, rest) ← fields? fuel rest
                  pure ((String.ofList key, value) :: fields, rest)
              | '\x7d' :: rest => pure ([(String.ofList key, value)], rest)
              | _ => none
          | _ => none
      | _ => none

end

/-- The value that a whole text denotes. -/
def parse? (text : String) : Option Json := do
  let chars := text.toList
  let (value, rest) ← value? (chars.length + 1) chars
  if (skipSpace rest).isEmpty then pure value else none

end RouteAtlas.Json
