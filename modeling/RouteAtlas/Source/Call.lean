import RouteAtlas.Source.Arguments
import RouteAtlas.Source.Delimited
import RouteAtlas.Text.Word

/-!
# Mentions, calls and dotted names

A name is mentioned where it stands as a whole identifier. A call of a name is a mention on its left
side, followed by blanks and an opening parenthesis; the first such place counts, wherever it stands.
A dotted name is a run of identifiers joined by dots at the start of an expression.
-/

set_option autoImplicit false

namespace RouteAtlas.Source

open Text

/-- The character does not continue an identifier. -/
def isBoundary : Option Char → Bool
  | none => true
  | some c => !isIdentifierPart c

/-- A name stands as a whole identifier in a text that follows the given character. -/
def mentionsFrom (name : Text) (previous : Option Char) : Text → Bool
  | [] => name.isEmpty && isBoundary previous
  | c :: rest =>
      (isBoundary previous &&
        match dropStart? name (c :: rest) with
        | some behind => isBoundary behind.head?
        | none => false)
      || mentionsFrom name (some c) rest

/-- A name stands in an expression as a whole identifier. -/
def mentions (expression name : Text) : Bool :=
  mentionsFrom name none expression

/-- The number of characters up to and with the opening parenthesis of the first call of a name. -/
def callStart? (callee : Text) (previous : Option Char) : Text → Option Nat
  | [] => none
  | c :: rest =>
      let here :=
        if isBoundary previous then
          match (dropStart? callee (c :: rest)).map trimLeft with
          | some ('(' :: behind) => some (rest.length + 1 - behind.length)
          | _ => none
        else none
      match here with
      | some count => some count
      | none => (callStart? callee (some c) rest).map (· + 1)

/-- The arguments of the first call of a name in an expression. -/
def argumentsOfCall (expression callee : Text) : Except Fault (Option (List Text)) :=
  match callStart? callee none expression with
  | none => .ok none
  | some start => do
      let call ← delimited expression start .round
      let parts ← arguments call.content
      pure (some parts)

/-- The identifiers at the heads of the parts between dots, as long as nothing but blanks stands
between an identifier and the next dot. -/
def leadingNames : List Text → List Text
  | [] => []
  | part :: parts =>
      match identifier? (trimLeft part) with
      | none => []
      | some (name, rest) => name :: if isBlankText rest then leadingNames parts else []

/-- The segments of the dotted name an expression starts with. -/
def dottedName (expression : Text) : List Text :=
  leadingNames (partsBy '.' (trim expression))

end RouteAtlas.Source
