import RouteAtlas.Text.Unicode.Folding

/-!
# Classes of characters

A class is a set of code points. Classes are made from listed ranges by union, intersection and
complement, and a class can be widened by all characters that differ from its own only in case.

Main statement: a class is closed under a change of case once it is widened.
-/

set_option autoImplicit false

namespace RouteAtlas.Text

/-- A class of characters. -/
inductive CharacterClass where
  | nothing
  | listed (ranges : List CodeRange)
  | not (inner : CharacterClass)
  | either (first second : CharacterClass)
  | both (first second : CharacterClass)
  /-- Everything that differs from a member only in case. -/
  | anyCase (inner : CharacterClass)
  deriving Repr, Inhabited

namespace CharacterClass

/-- A code point belongs to a class. -/
def has : CharacterClass → Nat → Bool
  | .nothing, _ => false
  | .listed ranges, code => ranges.any fun range => range.has code
  | .not inner, code => !inner.has code
  | .either first second, code => first.has code || second.has code
  | .both first second, code => first.has code && second.has code
  | .anyCase inner, code => (caseVariants code).any fun variant => inner.has variant

/-- The class of the code points from a first to a last one. -/
def range (first last : Nat) : CharacterClass := .listed [{ first := first, last := last }]

/-- The class of one character. -/
def single (c : Char) : CharacterClass := range c.toNat c.toNat

/-- The class of the characters of a text. -/
def among (text : Text) : CharacterClass :=
  .listed (text.map fun c => { first := c.toNat, last := c.toNat })

/-- The union of classes. -/
def unionAll (classes : List CharacterClass) : CharacterClass := classes.foldl .either .nothing

/-- The members of one class that are not in another. -/
def without (first second : CharacterClass) : CharacterClass := .both first (.not second)

/-- The members of one of two classes that are not in both. -/
def apart (first second : CharacterClass) : CharacterClass :=
  .either (first.without second) (second.without first)

/-- The ranges that a class is made from. -/
def ranges : CharacterClass → List CodeRange
  | .nothing => []
  | .listed ranges => ranges
  | .not inner => inner.ranges
  | .either first second => first.ranges ++ second.ranges
  | .both first second => first.ranges ++ second.ranges
  | .anyCase inner =>
      inner.ranges.flatMap fun range =>
        range :: (caseVariants range.first).map fun code => { first := code, last := code }

/-- A complement takes part in a class. -/
def hasComplement : CharacterClass → Bool
  | .nothing => false
  | .listed _ => false
  | .not _ => true
  | .either first second => first.hasComplement || second.hasComplement
  | .both first second => first.hasComplement || second.hasComplement
  | .anyCase inner => inner.hasComplement

/-- What differs only in case is alike to a class that is widened by it. -/
theorem has_anyCase_congr (inner : CharacterClass) {a b : Nat} (h : foldCase a = foldCase b) :
    (CharacterClass.anyCase inner).has a = (CharacterClass.anyCase inner).has b := by
  simp [has, caseVariants, h]

end CharacterClass

end RouteAtlas.Text
