import RouteAtlas.Text.CharacterClass

/-!
# Patterns

A pattern describes texts: characters and places between characters, one behind another, with choices
and repetitions. A text matches a pattern if the pattern describes some part of it. How such a part is
found makes no difference, so a pattern is read as a function from the places where a part may start to
the places where it may end.

The places of a text are counted from zero, and a set of places is the number whose binary digits are
set at them. Before a text is looked at, every class of characters becomes the set of places in front of
its characters, and every kind of place the set of places of that kind.
-/

set_option autoImplicit false

namespace RouteAtlas.Text

/-- A description of texts, over kinds of characters and kinds of places. -/
inductive Pattern (κ π : Type) where
  /-- The empty text. -/
  | empty
  | character (kind : κ)
  | place (kind : π)
  | sequence (first second : Pattern κ π)
  | choice (first second : Pattern κ π)
  /-- A number of times in a row, and up to a further number of times more. -/
  | repetition (inner : Pattern κ π) (least : Nat) (more : Option Nat)
  deriving Repr, Inhabited

/-- Where words start and end. -/
inductive WordEdge where
  | boundary
  | inside
  | start
  | stop
  /-- No letter stands before the place. -/
  | halfStart
  /-- No letter stands behind the place. -/
  | halfStop
  deriving DecidableEq, Repr, Inhabited

/-- Kinds of places. -/
inductive Anchor where
  | textStart
  | textEnd
  /-- Behind a newline, or at the start of the text. -/
  | lineStart
  /-- Before a newline, or at the end of the text. -/
  | lineEnd
  /-- The start of a line that a return, a newline or both of them end. -/
  | returnLineStart
  /-- The end of a line that a return, a newline or both of them end. -/
  | returnLineEnd
  | word (edge : WordEdge) (letters : CharacterClass)
  deriving Repr, Inhabited

namespace Anchor

/-- The code point of the newline. -/
def newline : Nat := 10

/-- The code point of the return. -/
def carriageReturn : Nat := 13

/-- A place between two code points is of a kind; at an end of the text there is none. -/
def holds (anchor : Anchor) (before behind : Option Nat) : Bool :=
  match anchor with
  | .textStart => before.isNone
  | .textEnd => behind.isNone
  | .lineStart => before.isNone || before == some newline
  | .lineEnd => behind.isNone || behind == some newline
  | .returnLineStart =>
      before.isNone || before == some newline
        || (before == some carriageReturn && behind != some newline)
  | .returnLineEnd =>
      behind.isNone || behind == some carriageReturn
        || (behind == some newline && before != some carriageReturn)
  | .word edge letters =>
      let isBefore := before.any letters.has
      let isBehind := behind.any letters.has
      match edge with
      | .boundary => isBefore != isBehind
      | .inside => isBefore == isBehind
      | .start => !isBefore && isBehind
      | .stop => isBefore && !isBehind
      | .halfStart => !isBefore
      | .halfStop => !isBehind

end Anchor

/-- A pattern as it is written: over classes of characters and kinds of places. -/
abbrev TextPattern := Pattern CharacterClass Anchor

/-! ## Places -/

/-- A set of places of a text, by the binary digits of a number. -/
abbrev Places := Nat

/-- The places in front of the code points of a class. -/
def placesBefore (characters : CharacterClass) : List Nat → Places
  | [] => 0
  | code :: rest => (if characters.has code then 1 else 0) ||| (placesBefore characters rest <<< 1)

/-- The places of a kind, of a text behind a code point. -/
def placesOf (anchor : Anchor) (before : Option Nat) : List Nat → Places
  | [] => if anchor.holds before none then 1 else 0
  | code :: rest =>
      (if anchor.holds before (some code) then 1 else 0)
        ||| (placesOf anchor (some code) rest <<< 1)

/-- All places of a text of some length. -/
def allPlaces : Nat → Places
  | 0 => 1
  | length + 1 => 1 ||| (allPlaces length <<< 1)

namespace Pattern

/-- A pattern with other kinds in place of its own. -/
def map {κ π κ' π' : Type} (f : κ → κ') (g : π → π') : Pattern κ π → Pattern κ' π'
  | .empty => .empty
  | .character kind => .character (f kind)
  | .place kind => .place (g kind)
  | .sequence first second => .sequence (first.map f g) (second.map f g)
  | .choice first second => .choice (first.map f g) (second.map f g)
  | .repetition inner least more => .repetition (inner.map f g) least more

/-- Takes a step from places a number of times. Once nothing changes, nothing will. -/
def takeSteps (step : Places → Places) : Nat → Places → Places
  | 0, places => places
  | times + 1, places =>
      let next := step places
      if next = places then places else takeSteps step times next

/-- Takes a step from places up to a number of times. -/
def takeSomeSteps (step : Places → Places) : Nat → Places → Places
  | 0, places => places
  | times + 1, places =>
      let next := places ||| step places
      if next = places then places else takeSomeSteps step times next

/-- The places where a part may end that starts at one of some places. A part takes up at most
`length` characters, so that it holds at most that many repetitions that are not empty. -/
def ends (length : Nat) : Pattern Places Places → Places → Places
  | .empty, places => places
  | .character kind, places => (places &&& kind) <<< 1
  | .place kind, places => places &&& kind
  | .sequence first second, places => second.ends length (first.ends length places)
  | .choice first second, places => first.ends length places ||| second.ends length places
  | .repetition inner least more, places =>
      takeSomeSteps (inner.ends length) (more.getD (length + 1))
        (takeSteps (inner.ends length) least places)

/-- A pattern describes some part of a text that is given by its code points. -/
def occursInCodes (pattern : TextPattern) (codes : List Nat) : Bool :=
  let placed := pattern.map (fun kind => placesBefore kind codes) (fun kind => placesOf kind none codes)
  placed.ends codes.length (allPlaces codes.length) != 0

/-- A pattern describes some part of a text. -/
def occursIn (pattern : TextPattern) (text : Text) : Bool :=
  pattern.occursInCodes (text.map Char.toNat)

/-! ## Weight -/

/-- The weight of one step of a pattern. -/
def stepWeight : Nat := 32

/-- The weight of a class: one step for ASCII characters, and a number of them for every further range
of characters, as characters take up to four bytes. -/
def classWeight (characters : CharacterClass) : Nat :=
  let ranges := characters.ranges
  if ranges.all (fun range => range.last < 128) && !characters.hasComplement then
    stepWeight + if ranges.length ≤ 1 then 0 else 8 * ranges.length
  else
    match ranges, characters.hasComplement with
    | [{ first := first, last := last, step := _ }], false =>
        if first = last then stepWeight * (Char.ofNat first).utf8Size else 100 + 60
    | ranges, isComplement => 60 * ranges.length + if isComplement then 900 else 100

/-- The weight of a pattern: a repetition weighs as much as what is repeated, as often as it is
counted. -/
def weight : TextPattern → Nat
  | .empty => stepWeight
  | .character characters => classWeight characters
  | .place _ => stepWeight
  | .sequence first second => first.weight + second.weight
  | .choice first second => first.weight + second.weight + stepWeight
  | .repetition inner least more =>
      match more with
      | none => max least 1 * inner.weight + stepWeight
      | some more => least * inner.weight + more * (inner.weight + stepWeight)

/-- The greatest weight of a pattern that can be used. -/
def maxWeight : Nat := 10485760

end Pattern

end RouteAtlas.Text
