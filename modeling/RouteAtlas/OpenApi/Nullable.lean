import RouteAtlas.Schema.Render

/-!
# Nullable schemas

A union with null becomes, at every depth, the rest of the union marked as nullable. A rest of
one member is merged into the schema that held the union, whose own entries win; such a member has to
be an object.
-/

set_option autoImplicit false

namespace RouteAtlas.OpenApi

open Schema

/-- The ways in which a value can have the wrong shape. -/
inductive Misshape where
  /-- A mapping was expected. -/
  | notMapping
  /-- A value of another kind was expected. -/
  | wrongKind
  /-- A parameter has no name, or a reference names nothing. -/
  | nameless
  deriving DecidableEq, Repr, Inhabited

/-- The schema that accepts null alone. -/
def nullSchema : Json := .obj nullEntries

/-- The schema without its union with null, marked as nullable. -/
def withoutNull (fields : Table String Json) (variants : List Json) :
    Except Misshape (Table String Json) :=
  let others := variants.filter fun variant => !variant.alike nullSchema
  let plain := fields.drop "anyOf"
  match others with
  | [.obj member] => .ok ((Table.putAll member plain).put "nullable" (.bool true))
  | [_] => .error .wrongKind
  | others => .ok ((plain.put "anyOf" (.arr others)).put "nullable" (.bool true))

/-- Resolves the union of one schema whose parts have been resolved. -/
def nullableFields (fields : Table String Json) : Except Misshape (Table String Json) :=
  match fields.get? "anyOf" with
  | some (.arr variants) =>
      if variants.any fun variant => nullSchema.alike variant then withoutNull fields variants
      else .ok fields
  | _ => .ok fields

mutual

/-- Resolves the unions with null of a schema, innermost first. -/
def nullable : Json → Except Misshape Json
  | .arr items => do pure (.arr (← nullableItems items))
  | .obj fields => do
      let resolved ← nullableEntries fields
      pure (.obj (← nullableFields resolved))
  | value => pure value

/-- Resolves the items of a list. -/
def nullableItems : List Json → Except Misshape (List Json)
  | [] => pure []
  | item :: rest => do
      let first ← nullable item
      let others ← nullableItems rest
      pure (first :: others)

/-- Resolves the values of an object. -/
def nullableEntries : List (String × Json) → Except Misshape (List (String × Json))
  | [] => pure []
  | (key, value) :: rest => do
      let first ← nullable value
      let others ← nullableEntries rest
      pure ((key, first) :: others)

end

end RouteAtlas.OpenApi
