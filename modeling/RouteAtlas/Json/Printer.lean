import RouteAtlas.Json.Basic
import RouteAtlas.Json.Decimal
import RouteAtlas.Text.Quoted

/-!
# Compact JSON text

A value is written on one line without blanks, objects in the order of their entries. Inside strings
the quote, the backslash, the control characters and surrogates are escaped. A value without a
representation is written as null.
-/

set_option autoImplicit false

namespace RouteAtlas.Json

/-- One code point inside a JSON string. -/
def escapePoint (code : Nat) : Text :=
  let c := Char.ofNat code
  if code < 32 || Text.isSurrogate code then
    match c with
    | '\n' => ['\\', 'n']
    | '\r' => ['\\', 'r']
    | '\t' => ['\\', 't']
    | _ => '\\' :: 'u' :: Text.padZeros 4 (Nat.toDigits 16 code)
  else if c = '"' then ['\\', '"']
  else if c = '\\' then ['\\', '\\']
  else [c]

/-- A JSON string literal. -/
def quote (value : String) : String :=
  "\"" ++ String.ofList ((Text.codePoints value.toList).flatMap escapePoint) ++ "\""

mutual

/-- The compact text of a value. -/
def compress : Json → String
  | .null => "null"
  | .bool value => if value then "true" else "false"
  | .num value => value.text
  | .str value => quote value
  | .arr items => "[" ++ compressItems items ++ "]"
  | .obj fields => "\x7b" ++ compressFields fields ++ "\x7d"
  | .foreign => "null"

/-- The items of a list, separated by commas. -/
def compressItems : List Json → String
  | [] => ""
  | [item] => compress item
  | item :: rest => compress item ++ "," ++ compressItems rest

/-- The entries of an object, separated by commas. -/
def compressFields : List (String × Json) → String
  | [] => ""
  | [(key, value)] => quote key ++ ":" ++ compress value
  | (key, value) :: rest => quote key ++ ":" ++ compress value ++ "," ++ compressFields rest

end

end RouteAtlas.Json
