import RouteAtlas.Event
import RouteAtlas.OpenApi.Refs

/-!
# Component schemas

The definitions nested in a schema are hoisted into the components of the document. A definition whose
name is taken by a different one gets the first free numbered name. Renaming one definition changes
the references of those that embed it, so naming is repeated until it settles, at most once more than
there are definitions. A component once registered is never changed.
-/

set_option autoImplicit false

namespace RouteAtlas.OpenApi

open Schema

/-- The components registered so far and the events reported. -/
structure Assembly where
  components : Table String Json := []
  events : List Event := []
  deriving Inhabited

/-- A step of assembling a document. -/
abbrev Assemble := ExceptT Misshape (StateM Assembly)

/-- Takes the outcome of a pure step as a step of assembling. -/
def Assemble.ofOutcome {α : Type} (outcome : Except Misshape α) : Assemble α :=
  match outcome with
  | .ok value => pure value
  | .error misshape => throw misshape

/-- The numbered form of a name; the first is the name itself. -/
def numbered (name : String) (number : Nat) : String :=
  if number ≤ 1 then name else name ++ toString number

/-- A name is free for a definition: unused, or holding an equal definition. -/
def isFree (components : Table String Json) (definition : Json) (name : String) : Bool :=
  match components.get? name with
  | none => true
  | some registered => registered.alike definition

/-- The first free numbered name from a number on; `fuel` bounds the numbers tried. -/
def vacantNameFrom (components : Table String Json) (definition : Json) (name : String) :
    Nat → Nat → String
  | 0, number => numbered name number
  | fuel + 1, number =>
      if isFree components definition (numbered name number) then numbered name number
      else vacantNameFrom components definition name fuel (number + 1)

/-- The first free name for a definition. There are more numbers than components, so one is free. -/
def vacantName (components : Table String Json) (definition : Json) (name : String) : String :=
  vacantNameFrom components definition name (components.length + 1) 1

/-- A naming of definitions: the component name of each. -/
abbrev Naming := Table String String

/-- Names every definition after its references have been renamed. -/
def nameAll (components : Table String Json) (names : Naming) :
    List (String × Json) → Except Misshape Naming
  | [] => pure []
  | (name, definition) :: rest => do
      let retargeted ← retarget (renamedTargets names) definition
      let others ← nameAll components names rest
      pure ((name, vacantName components retargeted name) :: others)

/-- Repeats the naming until it settles or the rounds are used up. -/
def settle (components : Table String Json) (definitions : List (String × Json)) :
    Nat → Naming → Except Misshape Naming
  | 0, names => pure names
  | rounds + 1, names => do
      let settled ← nameAll components names definitions
      if settled = names then pure names else settle components definitions rounds settled

/-- The naming of the definitions of a schema. -/
def naming (components : Table String Json) (definitions : List (String × Json)) :
    Except Misshape Naming :=
  settle components definitions (definitions.length + 1)
    (definitions.map fun (name, _) => (name, name))

/-- Registers a component unless its name is taken. -/
def Assemble.register (name : String) (definition : Json) : Assemble Unit :=
  modify fun assembly =>
    if assembly.components.has name then assembly
    else { assembly with components := assembly.components ++ [(name, definition)] }

/-- Registers the definitions of a schema under their names. -/
def registerAll (owner : String) (names : Naming) : List (String × Json) → Assemble Unit
  | [] => pure ()
  | (name, definition) :: rest => do
      let given := (names.get? name).getD name
      if given ≠ name then
        modify fun assembly =>
          { assembly with events := assembly.events ++ [.nestedRenamed name owner given] }
      let retargeted ← Assemble.ofOutcome (retarget (renamedTargets names) definition)
      Assemble.register given retargeted
      registerAll owner names rest

/-- Splits a rendered schema into its definitions and the rest. -/
def splitDefinitions : Json → Except Misshape (List (String × Json) × List (String × Json))
  | .obj fields =>
      match Table.get? fields "$defs" with
      | none => .ok ([], fields)
      | some (.obj definitions) => .ok (definitions, Table.drop fields "$defs")
      | some _ => .error .notMapping
  | .arr _ => .error .wrongKind
  | _ => .error .notMapping

/-- The schema of a model with references to components. -/
def rendered (model : Model) : Except Misshape Json :=
  (model.schema refTo).mapError fun
    | .dangling => .nameless
    | .misplaced => .wrongKind

/-- The schema of a model as it stands in the document, with its definitions hoisted. -/
def component (model : Model) : Assemble Json := do
  let (nested, fields) ← Assemble.ofOutcome (rendered model >>= splitDefinitions)
  let definitions ← Assemble.ofOutcome (nullableEntries nested)
  let names ← Assemble.ofOutcome (naming (← get).components definitions)
  registerAll model.name names definitions
  let plain ← Assemble.ofOutcome (nullable (.obj fields))
  Assemble.ofOutcome (retarget (renamedTargets names) plain)

end RouteAtlas.OpenApi
