import RouteAtlas.Json.Decimal
import RouteAtlas.Text.Quoted
import RouteAtlas.Yaml.Character
import RouteAtlas.Yaml.Implicit

/-!
# Writing scalars

A string is written plain where nothing in it could be read as something else, in single quotes where
these can hold it, and in double quotes otherwise. Lines are folded at single blanks once they are
longer than eighty characters; a folded line goes on at a given indentation. A scalar that serves as a
simple key is not folded.
-/

set_option autoImplicit false

namespace RouteAtlas.Yaml

open Text

/-- The length behind which lines are folded. -/
def foldWidth : Nat := 80

/-- Characters that no plain or single-quoted scalar can hold. -/
def isSpecial (c : Char) : Bool :=
  let n := c.toNat
  !(n == 0x0A || (0x20 ≤ n && n ≤ 0x7E)
    || ((n == 0x85 || (0xA0 ≤ n && n ≤ 0xD7FF) || (0xE000 ≤ n && n ≤ 0xFFFD)
      || (0x10000 ≤ n && n < 0x10FFFF)) && n != 0xFEFF))

/-- Indicators that count wherever a scalar starts with them. -/
def leadingIndicators : Text := "#,[]\x7b\x7d&*!|>'\"%@\x60".toList

/-- The scalar starts with an indicator. -/
def startsWithIndicator (text : Text) : Bool :=
  startsWith text "---".toList || startsWith text "...".toList ||
    match text with
    | [] => false
    | c :: rest =>
        leadingIndicators.contains c
          || ((c == '?' || c == ':' || c == '-') && meetsSeparator rest)

/-- An indicator stands behind the first character of a scalar. -/
def holdsIndicator (previous : Char) : Text → Bool
  | [] => false
  | c :: rest =>
      (c == ':' && meetsSeparator rest) || (c == '#' && isSeparator previous)
        || holdsIndicator c rest

/-- The scalar holds an indicator that forbids the plain style in a block. -/
def hasIndicator (text : Text) : Bool :=
  startsWithIndicator text ||
    match text with
    | [] => false
    | c :: rest => holdsIndicator c rest

/-- Two characters of given classes stand side by side. -/
def hasPair (p q : Char → Bool) : Text → Bool
  | c :: d :: rest => (p c && q d) || hasPair p q (d :: rest)
  | _ => false

/-- The ways of writing a string. -/
inductive Style where
  | plain
  | single
  | double
  deriving DecidableEq, Repr, Inhabited

/-- The text holds line breaks. -/
def isMultiline (text : Text) : Bool := text.any isBreak

/-- A blank or a break stands at one of the ends. -/
def hasLooseEnd (text : Text) : Bool :=
  let loose := fun (c : Option Char) => (c.map fun c => isSpace c || isBreak c).getD false
  loose text.head? || loose text.getLast?

/-- A string can be written plain. -/
def allowsPlain (text : Text) : Bool :=
  implicit text == .text && !hasIndicator text && !text.any isSpecial && !isMultiline text
    && !hasLooseEnd text

/-- A string can be written in single quotes. -/
def allowsSingle (text : Text) : Bool :=
  !text.any isSpecial && !hasPair isBreak isSpace text && !hasPair isSpace isBreak text

/-- A string can serve as a simple key: it is short, not empty, and on one line. -/
def isSimpleKey (text : Text) : Bool :=
  !text.isEmpty && !isMultiline text && (codePoints text).length + 5 < 128

/-- The style of a string. -/
def styleOf (text : Text) : Style :=
  if allowsPlain text then .plain else if allowsSingle text then .single else .double

/-- A run of like characters in a scalar. -/
inductive Piece where
  | spaces (count : Nat)
  | breaks (text : Text)
  | word (text : Text)
  deriving DecidableEq, Repr, Inhabited

/-- Puts a character in front of the pieces behind it. -/
def consPiece (c : Char) (pieces : List Piece) : List Piece :=
  if isSpace c then
    match pieces with
    | .spaces count :: rest => .spaces (count + 1) :: rest
    | rest => .spaces 1 :: rest
  else if isBreak c then
    match pieces with
    | .breaks text :: rest => .breaks (c :: text) :: rest
    | rest => .breaks [c] :: rest
  else
    match pieces with
    | .word text :: rest => .word (c :: text) :: rest
    | rest => .word [c] :: rest

/-- A scalar cut into blanks, breaks and words. -/
def pieces : Text → List Piece
  | [] => []
  | c :: rest => consPiece c (pieces rest)

/-- A new line with an indentation. -/
def newline (indent : Nat) : Text := '\n' :: List.replicate indent ' '

/-- Doubles single quotes. -/
def doubleQuotes (text : Text) : Text :=
  text.flatMap fun c => if c = '\'' then ['\'', '\''] else [c]

/-- The breaks of a single-quoted scalar: a run that starts with a newline gets one more. -/
def writeBreaks (indent : Nat) (text : Text) : Text :=
  (if text.head? == some '\n' then ['\n'] else []) ++ text ++ List.replicate indent ' '

/-- The pieces of a plain or single-quoted scalar from a column on. Only a single blank between other
pieces is folded. -/
def writePieces (fold : Bool) (indent : Nat) : Bool → Nat → List Piece → Text
  | _, _, [] => []
  | first, column, piece :: rest =>
      match piece with
      | .spaces count =>
          if fold && count = 1 && column > foldWidth && !first && !rest.isEmpty then
            newline indent ++ writePieces fold indent false indent rest
          else
            List.replicate count ' ' ++ writePieces fold indent false (column + count) rest
      | .breaks text => writeBreaks indent text ++ writePieces fold indent false indent rest
      | .word text => text ++ writePieces fold indent false (column + text.length) rest

/-- The letter of an escape in double quotes. -/
def escapeLetter? (code : Nat) : Option Char :=
  match code with
  | 0x00 => some '0'
  | 0x07 => some 'a'
  | 0x08 => some 'b'
  | 0x09 => some 't'
  | 0x0A => some 'n'
  | 0x0B => some 'v'
  | 0x0C => some 'f'
  | 0x0D => some 'r'
  | 0x1B => some 'e'
  | 0x22 => some '"'
  | 0x5C => some '\\'
  | 0x85 => some 'N'
  | 0xA0 => some '_'
  | 0x2028 => some 'L'
  | 0x2029 => some 'P'
  | _ => none

/-- A number in upper-case hexadecimal of a given width. -/
def upperHex (width n : Nat) : Text :=
  padZeros width ((Nat.toDigits 16 n).map Char.toUpper)

/-- The escape of a code point in double quotes. -/
def escape (code : Nat) : Text :=
  match escapeLetter? code with
  | some letter => ['\\', letter]
  | none =>
      if code ≤ 0xFF then '\\' :: 'x' :: upperHex 2 code
      else if code ≤ 0xFFFF then '\\' :: 'u' :: upperHex 4 code
      else '\\' :: 'U' :: upperHex 8 code

/-- Code points that are escaped in double quotes. -/
def needsEscape (code : Nat) : Bool :=
  code == 0x22 || code == 0x5C || code == 0x85 || code == 0x2028 || code == 0x2029
    || code == 0xFEFF
    || !((0x20 ≤ code && code ≤ 0x7E) || (0xA0 ≤ code && code ≤ 0xD7FF)
      || (0xE000 ≤ code && code ≤ 0xFFFD))

/-- The text of a double-quoted scalar, given by its code points. `started` tells whether one came
before, `column` is that of the line as written, and `pending` holds the characters read but not
written, in reverse. A line is folded at a blank or behind an escape, and not before the first or the
last code point. -/
def writeDouble (fold : Bool) (indent : Nat) : Bool → Nat → Text → List Nat → Text
  | _, _, pending, [] => pending.reverse
  | started, column, pending, code :: rest =>
      let c := Char.ofNat code
      let escaped := needsEscape code
      let written := if escaped then pending.reverse ++ escape code else []
      let column := column + written.length
      let pending := if escaped then [] else pending
      let mayFold := fold && started && !rest.isEmpty && (c == ' ' || pending.isEmpty)
      let width := if escaped then column - 1 else column + pending.length
      if mayFold && width > foldWidth then
        let upcoming := if escaped then rest.head? else some code
        let mark := if upcoming == some 0x20 then ['\\'] else []
        written ++ pending.reverse ++ '\\' :: newline indent ++ mark
          ++ writeDouble fold indent true (indent + mark.length) (if escaped then [] else [c]) rest
      else
        written ++ writeDouble fold indent true column (if escaped then [] else c :: pending) rest

/-- A string in its style from a column on; folded lines go on at the indentation. -/
def writeString (fold : Bool) (indent column : Nat) (text : Text) : Text :=
  match styleOf text with
  | .plain => writePieces fold indent false column (pieces text)
  | .single =>
      let body := (pieces text).map fun
        | .word word => Piece.word (doubleQuotes word)
        | piece => piece
      '\'' :: (writePieces fold indent true (column + 1) body ++ ['\''])
  | .double => '"' :: (writeDouble fold indent false (column + 1) [] (codePoints text) ++ ['"'])

/-- A number; an exponent without a point gets one. -/
def writeNumber (number : Number) : Text :=
  match number with
  | .float .undefined => ".nan".toList
  | .float (.infinite negative) => if negative then "-.inf".toList else ".inf".toList
  | number =>
      let text := number.text.toList
      if text.contains '.' || !text.contains 'e' then text
      else text.flatMap fun c => if c = 'e' then ".0e".toList else [c]

end RouteAtlas.Yaml
