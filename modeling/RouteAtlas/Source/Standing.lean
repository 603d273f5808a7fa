import RouteAtlas.Source.Delimited

/-!
# What stands at an offset

An offset that is not negative counts from the start of a text, a negative one from its end: the last
character stands at minus one. A literal that starts at a negative offset goes on across the end of the
text at its start, and so does the search for a closing bracket. A comment does not: it ends where it
ends for a reader who came to it from the start of the text, with one exception. A block comment whose
opening mark is the end of the text is looked for its closing mark from the start of the text on.
-/

set_option autoImplicit false

namespace RouteAtlas.Source

open Text

/-- What stands at an offset of a text. -/
inductive Standing where
  /-- The offset lies outside the text. -/
  | outside
  /-- A code character. -/
  | code
  /-- A literal or a comment that ends before the given offset. -/
  | skipped (behind : Int)
  /-- A literal that is never closed. -/
  | broken (fault : Fault)
  deriving DecidableEq, Repr, Inhabited

/-- What stands at an offset that is not negative. -/
def standingFromStart (text : Text) (offset : Nat) : Standing :=
  match text.drop offset with
  | [] => .outside
  | c :: rest =>
      match (next c rest).1 with
      | .code _ => .code
      | .literal raw => .skipped (offset + raw.length)
      | .comment raw => .skipped (offset + raw.length)
      | .broken _ => .broken (.unterminated offset)

/-- What stands in front of an end of a text. Whatever is left behind a literal or a comment ends with
the text, so its length gives the offset at which it starts. -/
def standingFromEnd (text : Text) : Text → Standing
  | [] => .outside
  | c :: rest =>
      let skippedTo := fun (behind : Text) => Standing.skipped (text.length - behind.length)
      if isQuote c then
        match closeLiteral c (rest ++ text) with
        | some (_, behind) => skippedTo behind
        | none => .broken (.unterminated (-(rest.length + 1)))
      else if c = '/' then
        match rest with
        | '/' :: line => skippedTo (line.dropWhile (· ≠ '\n'))
        | '*' :: inner =>
            match cut? ['*', '/'] (if inner.isEmpty then text else inner) with
            | some (_, behind) => skippedTo behind
            | none => skippedTo []
        | _ => .code
      else .code

/-- The end of a text that starts at a negative offset. -/
def fromEnd (text : Text) (offset : Int) : Text := text.drop (text.length + offset).toNat

/-- An offset lies before the start of a text. -/
def isBefore (text : Text) (offset : Int) : Bool := (text.length : Int) + offset < 0

/-- What stands at an offset of a text, with the offset behind a literal or comment. -/
def standingAt (text : Text) (offset : Int) : Standing :=
  if 0 ≤ offset then standingFromStart text offset.toNat
  else if isBefore text offset then .outside
  else standingFromEnd text (fromEnd text offset)

/-- The offset of the closer that matches, looked for from an offset that is not negative. -/
def closerAhead (bracket : Bracket) (text : Text) (start : Int) (offset depth : Nat) :
    Except Fault Int :=
  (splitAtCloser bracket start offset depth (lex (text.drop offset))).map fun (_, behind) =>
    (text.length : Int) - (raw behind).length - 1

/-- The offset of the closer that matches, looked for from any offset. Every step goes on by a character
at least until the offset is no longer negative, so one step more than there are characters before the
end is enough `fuel`. -/
def closerFrom (bracket : Bracket) (text : Text) (start : Int) :
    Nat → Int → Nat → Except Fault Int
  | 0, _, _ => .error (.noCloser bracket start)
  | fuel + 1, offset, depth =>
      if 0 ≤ offset then closerAhead bracket text start offset.toNat depth
      else
        match standingAt text offset with
        | .outside => .error (.noCloser bracket start)
        | .broken fault => .error fault
        | .skipped behind => closerFrom bracket text start fuel behind depth
        | .code =>
            let c := (fromEnd text offset).head?
            if c = some bracket.closer then
              match depth with
              | 0 => .ok offset
              | depth + 1 => closerFrom bracket text start fuel (offset + 1) depth
            else
              closerFrom bracket text start fuel (offset + 1)
                (if c = some bracket.opener then depth + 1 else depth)

/-- The text between brackets, from behind an opener, and the offset behind the closer. There is none
if the text is to be read from before its start. -/
def delimitedAt? (text : Text) (start : Int) (bracket : Bracket) :
    Option (Except Fault (Text × Int)) :=
  if 0 ≤ start then
    some ((delimited text start.toNat bracket).map fun found => (found.content, found.behind))
  else if isBefore text start then none
  else
    some ((closerFrom bracket text start (start.natAbs + 1) start 0).map fun (closer : Int) =>
      let stop : Int := if closer < 0 then text.length + closer else closer
      let first : Int := text.length + start
      ((text.take stop.toNat).drop first.toNat, closer + 1))

end RouteAtlas.Source
