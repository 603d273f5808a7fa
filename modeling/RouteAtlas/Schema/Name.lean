import RouteAtlas.Text.Surrogate

/-!
# Names of definitions

A nested model is defined under a name made from its own. Brackets and commas cut the name of a model
into pieces. In a piece, of several words joined by points only the last one is kept, and in every piece
but the last one whatever stands behind its last colon is left out, with the colon. Of the characters
letters, digits, points, hyphens and underscores of ASCII stay, and any other becomes an underscore; a
point becomes two. The full name of a model is made from its home and its name in the same way, with all
words kept.
-/

set_option autoImplicit false

namespace RouteAtlas.Schema

open Text

/-- The pieces of a name, each with the mark behind it. -/
def namePieces : Text → List (Text × Option Char)
  | [] => [([], none)]
  | c :: rest =>
      if c = '[' || c = ']' || c = ',' then ([], some c) :: namePieces rest
      else
        match namePieces rest with
        | (piece, mark) :: pieces => (c :: piece, mark) :: pieces
        | [] => [([c], none)]

/-- A text up to its last colon. -/
def beforeLastColon (text : Text) : Text :=
  if text.contains ':' then
    ((text.reverse.dropWhile (· ≠ ':')).drop 1).reverse
  else text

/-- The words that stay, of words that points join: the last one of every run of words that are not
empty. -/
def lastWords : List Text → List Text
  | [] => []
  | [word] => [word]
  | word :: next :: rest =>
      if word.isEmpty || next.isEmpty then word :: lastWords (next :: rest)
      else lastWords (next :: rest)

/-- A piece with the last words of its runs. -/
def shortPiece (piece : Text) : Text := join ['.'] (lastWords (partsBy '.' piece))

/-- The characters that a name keeps. -/
def plainCharacter (c : Char) : Text :=
  if c.isAlphanum || c = '-' || c = '_' then [c]
  else if c = '.' then ['_', '_']
  else ['_']

/-- The name of the definition of a model. -/
def definitionName (name : String) : String :=
  let pieces := (namePieces (pointChars name.toList)).map fun (piece, mark) =>
    match mark with
    | some mark => shortPiece (beforeLastColon piece) ++ [mark]
    | none => shortPiece piece
  String.ofList (pieces.flatten.flatMap plainCharacter)

/-- The full name of a model with a home. -/
def fullName (home name : String) : String :=
  let pieces := (namePieces (pointChars (home ++ "." ++ name).toList)).map fun (piece, mark) =>
    match mark with
    | some mark => beforeLastColon piece ++ [mark]
    | none => piece
  String.ofList (pieces.flatten.flatMap plainCharacter)

end RouteAtlas.Schema
