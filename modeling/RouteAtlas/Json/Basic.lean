import RouteAtlas.Table
import RouteAtlas.Json.Number

/-!
# JSON values

A value is null, a truth value, a number, a string, a list or an object whose entries keep their
order. One further value stands for a thing no document format can represent; it may sit anywhere in
a document and is found only when the document is written. Values are compared by `alike`: the order
of an object's entries does not count, numbers compare by value, a truth value counts as one or zero,
and no two things without a representation are equal.
-/

set_option autoImplicit false

namespace RouteAtlas

/-- A JSON value with ordered objects. -/
inductive Json where
  | null
  | bool (value : Bool)
  | num (value : Number)
  | str (value : String)
  | arr (items : List Json)
  | obj (fields : List (String × Json))
  | foreign
  deriving Repr, Inhabited

namespace Json

/-- The number a value counts as in comparisons. -/
def asNumber? : Json → Option Number
  | .bool value => some (.int (if value then 1 else 0))
  | .num value => some value
  | _ => none

mutual

/-- Two values are equal up to the order of object entries and the kind of numbers. -/
def alike : Json → Json → Bool
  | .null, .null => true
  | .str a, .str b => a == b
  | .arr xs, .arr ys => alikeItems xs ys
  | .obj xs, .obj ys => xs.length == ys.length && alikeFields xs ys
  | .bool a, b => match b.asNumber? with
      | some n => Number.alike (.int (if a then 1 else 0)) n
      | none => false
  | .num a, b => match b.asNumber? with
      | some n => Number.alike a n
      | none => false
  | _, _ => false

/-- Two lists of values are equal item by item. -/
def alikeItems : List Json → List Json → Bool
  | [], [] => true
  | x :: xs, y :: ys => alike x y && alikeItems xs ys
  | _, _ => false

/-- Every entry of the first list has an equal one in the second. -/
def alikeFields : List (String × Json) → Table String Json → Bool
  | [], _ => true
  | (key, value) :: rest, ys =>
      (match ys.get? key with
        | some other => alike value other
        | none => false) && alikeFields rest ys

end

/-- The entry of an object under a key. -/
def get? : Json → String → Option Json
  | .obj fields, key => Table.get? fields key
  | _, _ => none

/-- The text of a string value. -/
def str? : Json → Option String
  | .str value => some value
  | _ => none

/-- The entries of an object. -/
def obj? : Json → Option (Table String Json)
  | .obj fields => some fields
  | _ => none

/-- The items of a list. -/
def arr? : Json → Option (List Json)
  | .arr items => some items
  | _ => none

/-- An integer value. -/
def ofInt (value : Int) : Json := .num (.int value)

/-- A value counts as nothing: null, false, zero, and empty strings, lists and objects. -/
def isVoid : Json → Bool
  | .null => true
  | .bool value => !value
  | .num value => value.isZero
  | .str value => value.isEmpty
  | .arr items => items.isEmpty
  | .obj fields => fields.isEmpty
  | .foreign => false

end Json

end RouteAtlas
