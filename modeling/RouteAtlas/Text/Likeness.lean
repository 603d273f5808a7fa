import RouteAtlas.Text.Basic

/-!
# Likeness of words

How much two words have in common is measured by their blocks: the longest run of characters that
stands in both of them, and then the blocks of what is left before it and behind it. Two words are
alike if at least three fifths of their characters stand in such blocks. Of many words the three most
alike to a given one are chosen.
-/

set_option autoImplicit false

namespace RouteAtlas.Text

/-- The length of the longest common start of two texts. -/
def commonStart : Text → Text → Nat
  | a :: as, b :: bs => if a = b then commonStart as bs + 1 else 0
  | _, _ => 0

/-- A run of characters that stands in two texts: where it starts in each of them, and its length. -/
structure CommonRun where
  first : Nat := 0
  second : Nat := 0
  length : Nat := 0
  deriving DecidableEq, Repr, Inhabited

/-- The longest run of two texts; of several the one that stands first in the first text, and of these
the one that stands first in the second. -/
def longestRun (a b : Text) : CommonRun :=
  (List.range a.length).foldl (fun best i =>
    (List.range b.length).foldl (fun best j =>
      let length := commonStart (a.drop i) (b.drop j)
      if best.length < length then ⟨i, j, length⟩ else best) best) {}

/-- The number of characters in the common blocks of two texts. Every block shortens the first text, so
one more than its length is enough `fuel`. -/
def commonSizeWithin : Nat → Text → Text → Nat
  | 0, _, _ => 0
  | fuel + 1, a, b =>
      let run := longestRun a b
      if run.length = 0 then 0
      else
        commonSizeWithin fuel (a.take run.first) (b.take run.second) + run.length
          + commonSizeWithin fuel (a.drop (run.first + run.length))
              (b.drop (run.second + run.length))

/-- The number of characters in the common blocks of two texts. -/
def commonSize (a b : Text) : Nat := commonSizeWithin (a.length + 1) a b

/-- A word comes before another one in the alphabet, or is the same. -/
def comesBefore (a b : Text) : Bool := decide (String.ofList a ≤ String.ofList b)

/-- A word beside the share of its characters, and those of the word it is compared with, that stand in
common blocks. -/
structure Likeness where
  word : Text
  common : Nat
  total : Nat
  deriving DecidableEq, Repr, Inhabited

namespace Likeness

/-- The likeness of a word to another one. -/
def of (other word : Text) : Likeness :=
  ⟨word, commonSize word other, word.length + other.length⟩

/-- At least three fifths of the characters are common. -/
def isClose (likeness : Likeness) : Bool := 3 * likeness.total ≤ 10 * likeness.common

/-- The first is at least as alike as the second; of two that are equally alike the word that comes
later in the alphabet counts for more. -/
def isAtLeast (a b : Likeness) : Bool :=
  b.common * a.total < a.common * b.total
    || (a.common * b.total == b.common * a.total && comesBefore b.word a.word)

end Likeness

/-- Of the given words the three that are most alike to a word, in alphabetical order. -/
def closeMatches (word : Text) (words : List Text) : List Text :=
  let close := (words.map (Likeness.of word)).filter Likeness.isClose
  let best := (close.mergeSort Likeness.isAtLeast).take 3
  (best.map Likeness.word).mergeSort comesBefore

end RouteAtlas.Text
