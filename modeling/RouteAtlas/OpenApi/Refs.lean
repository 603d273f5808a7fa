import RouteAtlas.OpenApi.Nullable

/-!
# References

A component schema is referred to by a fixed beginning and its name. Renaming components changes the
references to them, each once, and leaves everything else alone. A reference that is a list or an
object cannot be looked up.
-/

set_option autoImplicit false

namespace RouteAtlas.OpenApi

/-- The reference to a component schema. -/
def refTo (name : String) : String := "#/components/schemas/" ++ name

/-- Renames the reference of one object. -/
def renameRef (renames : Table String String) (fields : Table String Json) :
    Except Misshape (Table String Json) :=
  match fields.get? "$ref" with
  | some (.str target) =>
      match renames.get? target with
      | some renamed => .ok (fields.put "$ref" (.str renamed))
      | none => .ok fields
  | some (.arr _) => .error .wrongKind
  | some (.obj _) => .error .wrongKind
  | _ => .ok fields

mutual

/-- Renames the references of a schema, innermost first. -/
def retarget (renames : Table String String) : Json → Except Misshape Json
  | .arr items => do pure (.arr (← retargetItems renames items))
  | .obj fields => do
      let retargeted ← retargetEntries renames fields
      pure (.obj (← renameRef renames retargeted))
  | value => pure value

/-- Renames the references of the items of a list. -/
def retargetItems (renames : Table String String) : List Json → Except Misshape (List Json)
  | [] => pure []
  | item :: rest => do
      let first ← retarget renames item
      let others ← retargetItems renames rest
      pure (first :: others)

/-- Renames the references of the values of an object. -/
def retargetEntries (renames : Table String String) :
    List (String × Json) → Except Misshape (List (String × Json))
  | [] => pure []
  | (key, value) :: rest => do
      let first ← retarget renames value
      let others ← retargetEntries renames rest
      pure ((key, first) :: others)

end

/-- The changes of references that a naming of definitions brings about. -/
def renamedTargets (names : Table String String) : Table String String :=
  Table.ofList ((names.filter fun (old, new) => old ≠ new).map fun (old, new) =>
    (refTo old, refTo new))

end RouteAtlas.OpenApi
