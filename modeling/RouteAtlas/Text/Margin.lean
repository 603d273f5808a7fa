import RouteAtlas.Text.Blank

/-!
# Texts without their margin

A text that is written over several indented lines is taken without the indentation that its lines
share. Tabs are first widened to blanks up to the next multiple of eight columns. The first line loses
all of its indentation; the others lose as much as the least indented of them has, where lines of blanks
do not count. Empty lines at both ends are dropped.
-/

set_option autoImplicit false

namespace RouteAtlas.Text

/-- The distance between two tab stops. -/
def tabWidth : Nat := 8

/-- A text with blanks for its tabs, from a column on. -/
def expandTabs : Nat → Text → Text
  | _, [] => []
  | column, c :: rest =>
      if c = '\t' then
        let width := tabWidth - column % tabWidth
        List.replicate width ' ' ++ expandTabs (column + width) rest
      else if c = '\n' || c = '\r' then c :: expandTabs 0 rest
      else c :: expandTabs (column + 1) rest

/-- The indentation of a line that is not blank. -/
def indentation? (line : Text) : Option Nat :=
  if isBlankText line then none else some (line.takeWhile isBlank).length

/-- The indentation that lines share; there is none if they are all blank. -/
def sharedIndentation? (lines : List Text) : Option Nat :=
  (lines.filterMap indentation?).min?

/-- Drops the empty lines at both ends. -/
def trimLines (lines : List Text) : List Text :=
  ((lines.dropWhile List.isEmpty).reverse.dropWhile List.isEmpty).reverse

/-- A text without the indentation of its lines. -/
def withoutMargin (text : Text) : Text :=
  match partsBy '\n' (expandTabs 0 text) with
  | [] => []
  | first :: others =>
      let margin := (sharedIndentation? others).getD 0
      join ['\n'] (trimLines (trimLeft first :: others.map (List.drop margin)))

end RouteAtlas.Text
