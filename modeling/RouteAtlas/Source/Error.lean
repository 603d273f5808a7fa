import RouteAtlas.Text.Quoted

/-!
# Brackets and the faults of source text

The three kinds of brackets of route sources, and the ways in which a piece of source text can fail
to have the shape of a call, an argument list, an object literal or an endpoint. Each fault carries
what its message needs; offsets count from the start of the text that was read, and negative ones from
its end.
-/

set_option autoImplicit false

namespace RouteAtlas.Source

/-- The kinds of brackets. -/
inductive Bracket where
  | round
  | square
  | curly
  deriving DecidableEq, Repr, Inhabited

namespace Bracket

/-- The character that opens a bracket. -/
def opener : Bracket → Char
  | .round => '('
  | .square => '['
  | .curly => '\x7b'

/-- The character that closes a bracket. -/
def closer : Bracket → Char
  | .round => ')'
  | .square => ']'
  | .curly => '\x7d'

/-- The bracket a character opens. -/
def ofOpener? (c : Char) : Option Bracket :=
  if c = '(' then some .round
  else if c = '[' then some .square
  else if c = '\x7b' then some .curly
  else none

/-- The bracket a character closes. -/
def ofCloser? (c : Char) : Option Bracket :=
  if c = ')' then some .round
  else if c = ']' then some .square
  else if c = '\x7d' then some .curly
  else none

/-- A character opens a bracket exactly when it is its opener. -/
theorem ofOpener?_eq_some {c : Char} {b : Bracket} : ofOpener? c = some b ↔ c = b.opener := by
  constructor
  · intro h
    simp only [ofOpener?] at h
    split at h
    · cases h; assumption
    · split at h
      · cases h; assumption
      · split at h
        · cases h; assumption
        · simp at h
  · rintro rfl
    cases b <;> decide

/-- A character closes a bracket exactly when it is its closer. -/
theorem ofCloser?_eq_some {c : Char} {b : Bracket} : ofCloser? c = some b ↔ c = b.closer := by
  constructor
  · intro h
    simp only [ofCloser?] at h
    split at h
    · cases h; assumption
    · split at h
      · cases h; assumption
      · split at h
        · cases h; assumption
        · simp at h
  · rintro rfl
    cases b <;> decide

end Bracket

/-- The ways in which source text can miss an expected shape. -/
inductive Fault where
  /-- A string literal that starts at the offset is never closed. -/
  | unterminated (offset : Int)
  /-- The bracket opened before the offset is never closed. -/
  | noCloser (bracket : Bracket) (offset : Int)
  /-- The closer at the offset does not match the innermost open bracket. -/
  | unbalanced (bracket : Bracket) (offset : Nat)
  /-- The bracket is still open at the end of an argument list. -/
  | unclosed (bracket : Bracket)
  /-- The text is not enclosed in braces. -/
  | notObject (text : Text)
  /-- A route call has no arguments. -/
  | emptyCall (verb : Text)
  /-- The first argument of a route call is not a string literal. -/
  | pathNotLiteral (verb : Text) (argument : Text)
  deriving DecidableEq, Repr, Inhabited

/-- The number of characters a message shows of a text that is no object literal. -/
def shownLength : Nat := 40

/-- The wording of a fault. -/
def Fault.message : Fault → String
  | .unterminated offset => "unterminated string literal at offset " ++ toString offset
  | .noCloser bracket offset =>
      "no closing '" ++ bracket.closer.toString ++ "' for '" ++ bracket.opener.toString
        ++ "' opened before offset " ++ toString offset
  | .unbalanced bracket offset =>
      "unbalanced '" ++ bracket.closer.toString ++ "' at offset " ++ toString offset
  | .unclosed bracket => "unclosed '" ++ bracket.opener.toString ++ "' in argument list"
  | .notObject text =>
      "not an object literal: " ++ String.ofList (Text.quoted (text.take shownLength))
  | .emptyCall verb => "." ++ String.ofList verb ++ "() call has no arguments"
  | .pathNotLiteral verb argument =>
      "." ++ String.ofList verb ++ "() path is not a string literal: "
        ++ String.ofList (Text.quoted argument)

end RouteAtlas.Source
