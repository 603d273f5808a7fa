import RouteAtlas.Yaml.Tree

/-!
# The document as a tree

A parameter shares the description of its schema. Where that is a list or an object it is written once,
in the schema, and the parameter refers to it. Shared descriptions are numbered from one in the order of
their parameters.
-/

set_option autoImplicit false

namespace RouteAtlas.OpenApi

open Yaml

/-- A step of making a tree; the state is the number of descriptions shared so far. -/
abbrev Share := StateM Nat

/-- A list or an object. -/
def isCollection : Json → Bool
  | .arr _ => true
  | .obj _ => true
  | _ => false

/-- Entries as trees, with the one for the description made by `describe`. -/
def withDescription (describe : Json → Tree) (fields : List (String × Json)) :
    List (String × Tree) :=
  fields.map fun (key, value) =>
    (key, if key = "description" then describe value else Tree.ofJson value)

/-- The tree of a parameter. -/
def parameterTree (parameter : Json) : Share Tree := do
  match parameter with
  | .obj fields =>
      match Table.get? fields "schema", Table.get? fields "description" with
      | some (.obj schema), some description =>
          if isCollection description then
            let number := (← get) + 1
            set number
            let numbered := withDescription (fun value => (Tree.ofJson value).withNumber number) schema
            pure (.mapping none (fields.map fun (key, value) =>
              (key,
                if key = "schema" then .mapping none numbered
                else if key = "description" then .again number
                else Tree.ofJson value)))
          else pure (Tree.ofJson parameter)
      | _, _ => pure (Tree.ofJson parameter)
  | parameter => pure (Tree.ofJson parameter)

/-- The trees of parameters. -/
def parameterTrees : List Json → Share (List Tree)
  | [] => pure []
  | parameter :: rest => do
      let first ← parameterTree parameter
      let others ← parameterTrees rest
      pure (first :: others)

/-- The tree of a value under a key: the items of a list of parameters are parameters. -/
def operationEntry (key : String) (value : Json) : Share Tree := do
  match value with
  | .arr items =>
      if key = "parameters" then pure (.list none (← parameterTrees items))
      else pure (Tree.ofJson value)
  | value => pure (Tree.ofJson value)

/-- The entries of an object as trees, each made by `make`. -/
def entryTrees (make : String → Json → Share Tree) :
    List (String × Json) → Share (List (String × Tree))
  | [] => pure []
  | (key, value) :: rest => do
      let first ← make key value
      let others ← entryTrees make rest
      pure ((key, first) :: others)

/-- The tree of an object whose entries are made by `make`, and of any other value. -/
def objectTree (make : String → Json → Share Tree) (value : Json) : Share Tree := do
  match value with
  | .obj fields => pure (.mapping none (← entryTrees make fields))
  | value => pure (Tree.ofJson value)

/-- The tree of the path items of a document. -/
def pathsTree : Json → Share Tree :=
  objectTree fun _ item => objectTree (fun _ operation => objectTree operationEntry operation) item

/-- The tree of a document. -/
def documentTree (document : Json) : Tree :=
  let make := fun (key : String) (value : Json) =>
    if key = "paths" then pathsTree value else pure (Tree.ofJson value)
  ((objectTree make document).run 0).1

end RouteAtlas.OpenApi
