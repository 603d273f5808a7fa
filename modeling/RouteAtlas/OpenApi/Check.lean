import RouteAtlas.OpenApi.Nullable
import RouteAtlas.Route.Template
import RouteAtlas.Route.Verb

/-!
# Checking a document

Every name in braces of a path has to be declared as a path parameter by each operation of the path,
and the other way round. A document with a value that has no representation cannot be written. The
findings are kept under the operation or the document they concern.
-/

set_option autoImplicit false

namespace RouteAtlas.OpenApi

open Route

/-- The items a list of parameters stands for. A text stands for its characters and an object for its
keys. -/
def parameterItems : Option Json → Except Misshape (List Json)
  | none => .ok []
  | some (.arr items) => .ok items
  | some (.str text) => .ok (text.toList.map fun c => .str c.toString)
  | some (.obj fields) => .ok (fields.map fun (key, _) => .str key)
  | some _ => .error .wrongKind

/-- The name of a parameter, if it is a path parameter. -/
def pathParameter? : Json → Except Misshape (Option Json)
  | .obj fields =>
      match Table.get? fields "in" with
      | some (.str "path") =>
          match Table.get? fields "name" with
          | none => .error .nameless
          | some (.arr _) => .error .wrongKind
          | some (.obj _) => .error .wrongKind
          | some name => .ok (some name)
      | _ => .ok none
  | _ => .error .notMapping

/-- The names of the path parameters of a list. -/
def declaredNames : List Json → Except Misshape (List Json)
  | [] => pure []
  | item :: rest => do
      let first ← pathParameter? item
      let others ← declaredNames rest
      pure (first.toList ++ others)

/-- Names in ascending order, each once. -/
def sortedNames (names : List String) : List String :=
  (names.mergeSort fun a b => a ≤ b).eraseDups

/-- The names of one list that the other lacks. -/
def missingNames (names others : List String) : List String :=
  sortedNames (names.filter fun name => !others.contains name)

/-- A clause of a finding, if it names anything. -/
def findingClause (lead : String) (names : List String) : List String :=
  if names.isEmpty then [] else [lead ++ ", ".intercalate names]

/-- The finding about one operation. -/
def operationFinding (expected : List String) (operation : Json) :
    Except Misshape (Option String) := do
  match operation with
  | .obj fields => do
      let items ← parameterItems (Table.get? fields "parameters")
      let declared ← declaredNames items
      let names := declared.filterMap Json.str?
      if names.length ≠ declared.length then .error .wrongKind
      else
        match findingClause "undeclared path parameters: " (missingNames expected names)
            ++ findingClause "path parameters not in template: " (missingNames names expected) with
        | [] => pure none
        | clauses => pure (some ("; ".intercalate clauses))
  | _ => .error .notMapping

/-- The findings about the operations of a path, in the order of the verbs. -/
def itemFindings (path : String) (expected : List String) (item : Table String Json) :
    List Verb → Except Misshape (List (String × String))
  | [] => pure []
  | verb :: rest => do
      let first ← match item.get? verb.name with
        | none => pure none
        | some .null => pure none
        | some operation => operationFinding expected operation
      let others ← itemFindings path expected item rest
      pure ((first.map fun finding => (verb.upperName ++ " " ++ path, finding)).toList ++ others)

/-- The findings about all paths. -/
def pathFindings : List (String × Json) → Except Misshape (List (String × String))
  | [] => pure []
  | (path, .obj item) :: rest => do
      let expected := (placeholders path.toList).map String.ofList
      let first ← itemFindings path expected item Verb.all
      let others ← pathFindings rest
      pure (first ++ others)
  | _ :: _ => .error .notMapping

/-- The findings about the path parameters of a document. -/
def checkPaths : Json → Except Misshape (List (String × String))
  | .obj fields =>
      match Table.get? fields "paths" with
      | none => .ok []
      | some (.obj paths) => pathFindings paths
      | some _ => .error .notMapping
  | _ => .error .notMapping

mutual

/-- A value holds something without a representation. -/
def hasForeign : Json → Bool
  | .foreign => true
  | .arr items => itemsHaveForeign items
  | .obj fields => entriesHaveForeign fields
  | _ => false

/-- An item holds something without a representation. -/
def itemsHaveForeign : List Json → Bool
  | [] => false
  | item :: rest => hasForeign item || itemsHaveForeign rest

/-- An entry holds something without a representation. -/
def entriesHaveForeign : List (String × Json) → Bool
  | [] => false
  | (_, value) :: rest => hasForeign value || entriesHaveForeign rest

end

/-- The wording of a value without a representation. -/
def foreignMessage : String := "('cannot represent an object', <Opaque>)"

/-- The finding about a document that cannot be written. -/
def checkForeign (document : Json) : List (String × String) :=
  if hasForeign document then [("_document", "YAMLError: " ++ foreignMessage)] else []

/-- All findings about a document. -/
def check (document : Json) : Except Misshape (List (String × String)) := do
  let findings ← checkPaths document
  pure (findings ++ checkForeign document)

end RouteAtlas.OpenApi
