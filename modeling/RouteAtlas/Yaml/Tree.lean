import RouteAtlas.Json.Basic

/-!
# Trees of documents

A document that is to be written is a tree. A collection that occurs in it twice carries a number at its
first place, and the second place only refers to that number.
-/

set_option autoImplicit false

namespace RouteAtlas.Yaml

/-- A document as it is written. -/
inductive Tree where
  | null
  | bool (value : Bool)
  | num (value : Number)
  | str (value : String)
  | list (number : Option Nat) (items : List Tree)
  | mapping (number : Option Nat) (entries : List (String × Tree))
  /-- A collection that was written before. -/
  | again (number : Nat)
  deriving Repr, Inhabited

namespace Tree

mutual

/-- The tree of a value in which nothing is shared. -/
def ofJson : Json → Tree
  | .null => .null
  | .foreign => .null
  | .bool value => .bool value
  | .num value => .num value
  | .str value => .str value
  | .arr items => .list none (ofItems items)
  | .obj fields => .mapping none (ofFields fields)

/-- The trees of the items of a list. -/
def ofItems : List Json → List Tree
  | [] => []
  | item :: rest => ofJson item :: ofItems rest

/-- The trees of the entries of an object. -/
def ofFields : List (String × Json) → List (String × Tree)
  | [] => []
  | (key, value) :: rest => (key, ofJson value) :: ofFields rest

end

/-- The tree with a number, if it is a collection. -/
def withNumber (number : Nat) : Tree → Tree
  | .list _ items => .list (some number) items
  | .mapping _ entries => .mapping (some number) entries
  | tree => tree

end Tree

end RouteAtlas.Yaml
