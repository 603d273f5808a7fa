import RouteAtlas.Text.Basic

/-!
# Characters of YAML documents

Line breaks, the separators that end an indicator, and the characters a document may hold. A line
ending of one or two control characters has become a newline before a document is read; the next-line
control counts as a newline too, and the line and paragraph separators break a line but stay as they
are.
-/

set_option autoImplicit false

namespace RouteAtlas.Yaml

/-- Characters that break a line in a scalar. -/
def isBreak (c : Char) : Bool :=
  c == '\n' || c == '\u0085' || c == '\u2028' || c == '\u2029'

/-- What a line break reads as. -/
def breakValue (c : Char) : Char := if c = '\u0085' then '\n' else c

/-- A blank. -/
def isSpace (c : Char) : Bool := c == ' '

/-- A blank or a tab. -/
def isPadding (c : Char) : Bool := c == ' ' || c == '\t'

/-- Characters that separate an indicator from what follows. -/
def isSeparator (c : Char) : Bool :=
  c == '\x00' || c == ' ' || c == '\t' || c == '\r' || isBreak c

/-- A separator or the end of the text comes next. -/
def meetsSeparator (rest : Text) : Bool :=
  match rest with
  | [] => true
  | c :: _ => isSeparator c

/-- A blank, a line break or the end of the text comes next. -/
def meetsGap (rest : Text) : Bool :=
  match rest with
  | [] => true
  | c :: _ => isSpace c || isBreak c

/-- Characters that a document may hold. -/
def isReadable (c : Char) : Bool :=
  let n := c.toNat
  n == 0x09 || n == 0x0A || n == 0x0D || (0x20 ≤ n && n ≤ 0x7E) || n == 0x85
    || (0xA0 ≤ n && n ≤ 0xD7FF) || (0xE000 ≤ n && n ≤ 0xFFFD) || 0x10000 ≤ n

/-- Characters of the names of anchors and directives. -/
def isNameChar (c : Char) : Bool := c.isAlphanum || c == '-' || c == '_'

/-- A marker of three equal characters that stands alone. -/
def meetsMark (c : Char) (text : Text) : Bool :=
  match text with
  | a :: b :: d :: rest => a == c && b == c && d == c && meetsSeparator rest
  | _ => false

/-- The marker of a document's start or end, which must not stand at the start of a line in a
scalar. -/
def meetsDocumentMark (text : Text) : Bool := meetsMark '-' text || meetsMark '.' text

/-- The byte order mark, which takes no column. -/
def byteOrderMark : Char := '\uFEFF'

end RouteAtlas.Yaml
