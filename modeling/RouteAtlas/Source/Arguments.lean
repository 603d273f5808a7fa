import RouteAtlas.Source.Lexeme

/-!
# Argument lists

An argument list is cut at the commas that stand outside literals, comments and brackets. All three
kinds of brackets have to nest properly. The arguments are trimmed, and a last argument that is blank
is left out.
-/

set_option autoImplicit false

namespace RouteAtlas.Source

open Text

/-- Puts a text in front of the first part. -/
def prependFirst (text : Text) : List Text → List Text
  | [] => [text]
  | part :: parts => (text ++ part) :: parts

/-- The parts of a text between its outer commas, untrimmed. `offset` is that of the first lexeme and
`stack` holds the brackets still open, innermost first. -/
def outerParts : Nat → List Bracket → List Lexeme → Except Fault (List Text)
  | _, [], [] => .ok [[]]
  | _, bracket :: _, [] => .error (.unclosed bracket)
  | offset, _, .broken _ :: _ => .error (.unterminated offset)
  | offset, stack, .literal raw :: rest =>
      (outerParts (offset + raw.length) stack rest).map (prependFirst raw)
  | offset, stack, .comment raw :: rest =>
      (outerParts (offset + raw.length) stack rest).map (prependFirst raw)
  | offset, stack, .code c :: rest =>
      match Bracket.ofOpener? c, Bracket.ofCloser? c with
      | some bracket, _ => (outerParts (offset + 1) (bracket :: stack) rest).map (prependFirst [c])
      | none, some bracket =>
          match stack with
          | [] => .error (.unbalanced bracket offset)
          | top :: below =>
              if top = bracket then (outerParts (offset + 1) below rest).map (prependFirst [c])
              else .error (.unbalanced bracket offset)
      | none, none =>
          if c = ',' && stack.isEmpty then (outerParts (offset + 1) stack rest).map ([] :: ·)
          else (outerParts (offset + 1) stack rest).map (prependFirst [c])

/-- Leaves out a blank last part. -/
def dropBlankLast : List Text → List Text
  | [] => []
  | [last] => if last.isEmpty then [] else [last]
  | part :: parts => part :: dropBlankLast parts

/-- The arguments of an argument list. -/
def arguments (content : Text) : Except Fault (List Text) :=
  (outerParts 0 [] (lex content)).map fun parts => dropBlankLast (parts.map trim)

end RouteAtlas.Source
