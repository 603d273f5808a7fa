import RouteAtlas.Text.Digit

/-!
# Tables of code points

The characters with a property are listed in tables of code points in hexadecimal. An entry of a table
is a single code point, a first and a last one with a hyphen between them, or such a range with a slash
and a step behind it, of which only every so many code points count.
-/

set_option autoImplicit false

namespace RouteAtlas.Text

/-- Code points from a first to a last one at a fixed distance. -/
structure CodeRange where
  first : Nat
  last : Nat
  step : Nat := 1
  deriving DecidableEq, Repr, Inhabited

/-- A code point is in a range. -/
def CodeRange.has (range : CodeRange) (code : Nat) : Bool :=
  range.first ≤ code && code ≤ range.last && (code - range.first) % range.step == 0

/-- The range that an entry of a table states. -/
def codeRange? (entry : Text) : Option CodeRange :=
  match partsBy '/' entry with
  | range :: steps =>
      match (partsBy '-' range).mapM (naturalIn? 16), steps.mapM (naturalIn? 16) with
      | some [code], some [] => some { first := code, last := code }
      | some [first, last], some [] => some { first := first, last := last }
      | some [first, last], some [step] => some { first := first, last := last, step := step }
      | _, _ => none
  | [] => none

/-- The ranges that the lines of a table list. -/
def codeRanges (lines : List String) : List CodeRange :=
  lines.flatMap fun line => (partsBy ' ' line.toList).filterMap codeRange?

/-- The parts of a range without gaps. -/
def CodeRange.parts (range : CodeRange) : List (Nat × Nat) :=
  if range.step ≤ 1 then [(range.first, range.last)]
  else (List.range ((range.last - range.first) / range.step + 1)).map fun i =>
    (range.first + i * range.step, range.first + i * range.step)

/-- Puts a part behind parts that start no later, the last one first; parts that meet are joined. -/
def joinPart (parts : List (Nat × Nat)) (part : Nat × Nat) : List (Nat × Nat) :=
  match parts with
  | [] => [part]
  | last :: before =>
      if part.1 ≤ last.2 + 1 then (last.1, max last.2 part.2) :: before else part :: last :: before

/-- The same code points in as few ranges without gaps as possible, in ascending order. -/
def joinRanges (ranges : List CodeRange) : List CodeRange :=
  let parts := (ranges.flatMap CodeRange.parts).mergeSort fun a b => a.1 ≤ b.1
  (parts.foldl joinPart []).reverse.map fun part => { first := part.1, last := part.2 }

/-- Tables under the names of properties. -/
abbrev PropertyTables := List (String × List String)

/-- The ranges under a name. -/
def PropertyTables.ranges? (tables : PropertyTables) (name : String) : Option (List CodeRange) :=
  (tables.lookup name).map codeRanges

end RouteAtlas.Text
