import RouteAtlas.Text.Basic

/-!
# Blanks

The white space of every script: the ASCII blanks and separator controls, the next-line control, the
no-break space and the spaces and separators above. A text is trimmed by dropping blanks from its
ends, and it is blank when nothing is left.
-/

set_option autoImplicit false

namespace RouteAtlas.Text

/-- Blanks outside ASCII, as code point ranges in ascending order. -/
def blankRanges : List (Nat × Nat) :=
  [(0x85, 0x85), (0xA0, 0xA0), (0x1680, 0x1680), (0x2000, 0x200A), (0x2028, 0x2029),
   (0x202F, 0x202F), (0x205F, 0x205F), (0x3000, 0x3000)]

/-- White space of every script. -/
def isBlank (c : Char) : Bool :=
  if c.toNat < 128 then
    (0x09 ≤ c.toNat && c.toNat ≤ 0x0D) || (0x1C ≤ c.toNat && c.toNat ≤ 0x20)
  else inRanges blankRanges c

/-- White space without the four separator controls of ASCII. -/
def isSpace (c : Char) : Bool := isBlank c && !(0x1C ≤ c.toNat && c.toNat ≤ 0x1F)

/-- Drops the blanks a text starts with. -/
def trimLeft (text : Text) : Text := text.dropWhile isBlank

/-- Drops the blanks at both ends of a text. -/
def trim (text : Text) : Text := trimWhile isBlank text

/-- A text of blanks only. -/
def isBlankText (text : Text) : Bool := text.all isBlank

/-- The rest of a text behind at least one blank and all that follow it. -/
def skipBlanks1? : Text → Option Text
  | [] => none
  | c :: rest => if isBlank c then some (trimLeft rest) else none

end RouteAtlas.Text
