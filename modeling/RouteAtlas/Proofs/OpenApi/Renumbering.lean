import RouteAtlas.OpenApi.Document
import RouteAtlas.Proofs.Api.Numbering
import RouteAtlas.Proofs.Table

/-!
# Serial numbers do not show

The OpenAPI document is made from names, fields and given schemas. Which model is meant has no part in
it, so documents that are equal up to serial numbers are written alike, with the same events on the way
(`buildDocument_of_eqUpToSerials`).
-/

set_option autoImplicit false

namespace RouteAtlas.OpenApi

open Api Schema

/-! ## Schemas -/

section

variable (model : Model) (identity : Identity)

@[simp] theorem nested_withIdentity : (model.withIdentity identity).nested = model.nested := by
  cases model <;> simp only [Model.withIdentity, Model.nested]

@[simp] theorem data_withIdentity : (model.withIdentity identity).data = model.data := by
  rw [Model.data, Model.data, Model.fields_withIdentity]

@[simp] theorem description?_withIdentity :
    (model.withIdentity identity).description? = model.description? := by
  cases model with
  | record own name doc extra fields => cases doc <;> rfl
  | given own name schema => rfl

@[simp] theorem body_withIdentity (refTo : String → String) :
    (model.withIdentity identity).body refTo = model.body refTo := by
  cases model with
  | record own name doc extra fields =>
      have hdescription :=
        description?_withIdentity (.record own name doc extra fields) identity
      rw [Model.withIdentity] at hdescription ⊢
      simp only [Model.body, hdescription]
  | given own name schema => cases schema <;> rfl

theorem checkReferences_withIdentity :
    (model.withIdentity identity).checkReferences = model.checkReferences := by
  simp [Model.checkReferences]

/-- The schema of a model does not tell its identity. -/
theorem schema_withIdentity (refTo : String → String) :
    (model.withIdentity identity).schema refTo = model.schema refTo := by
  cases model with
  | record own name doc extra fields =>
      have hreferences :=
        checkReferences_withIdentity (.record own name doc extra fields) identity
      have hbody := body_withIdentity (.record own name doc extra fields) identity refTo
      have hnested := nested_withIdentity (.record own name doc extra fields) identity
      rw [Model.withIdentity] at hreferences hbody hnested ⊢
      simp only [Model.schema, Model.definitions, hreferences, hbody, hnested]
  | given own name schema => rfl

end

/-- A model is hoisted in the same way under all serial numbers. -/
theorem component_renumbered (rename : Nat → Nat) (model : Model) :
    component (model.renumbered rename) = component model := by
  rw [component, component, rendered, rendered, Model.renumbered, schema_withIdentity,
    Model.name_withIdentity]

/-! ## Operations -/

theorem requestParameters_renumbered (rename : Nat → Nat) (request : Request) (slots : List Slot) :
    requestParameters (request.renumbered rename) slots = requestParameters request slots := by
  induction slots with
  | nil => rfl
  | cons slot rest ih =>
      rw [requestParameters, requestParameters, ih, Request.get?_renumbered]
      cases request.get? slot with
      | none => rfl
      | some model =>
          simp only [Option.map_some, parameters, component_renumbered]

theorem operation_renumbered (rename : Nat → Nat) (record : Record) :
    operation (record.renumbered rename) = operation record := by
  have hbody : (record.renumbered rename).request.body =
      record.request.body.map (Model.renumbered rename) := rfl
  rw [operation, operation, hbody]
  cases record.request.body with
  | none =>
      simp only [Option.map_none, Record.renumbered, requestParameters_renumbered]
  | some model =>
      simp only [Option.map_some, component_renumbered, Record.renumbered,
        requestParameters_renumbered]
      rfl

/-! ## Documents -/

/-- Groups of records with the serial numbers changed. -/
def renumberedGroups (rename : Nat → Nat) (groups : Table String (List Record)) :
    Table String (List Record) :=
  groups.map (Prod.map id (List.map (Record.renumbered rename)))

theorem addToGroup_renumbered (rename : Nat → Nat) (groups : Table String (List Record))
    (record : Record) :
    Document.addToGroup (renumberedGroups rename groups) (record.renumbered rename) =
      renumberedGroups rename (Document.addToGroup groups record) := by
  have hpath : (record.renumbered rename).path = record.path := rfl
  rw [Document.addToGroup, Document.addToGroup, renumberedGroups, renumberedGroups, hpath,
    ← Table.put_map, Table.get?_map]
  cases groups.get? record.path <;> simp

theorem paths_renumbered (rename : Nat → Nat) (document : Document) :
    (document.renumbered rename).paths = renumberedGroups rename document.paths := by
  have hrecords : (document.renumbered rename).records =
      document.records.map (Record.renumbered rename) := by
    simp [Document.records, Document.renumbered, Table.values]
  have hfold : ∀ (records : List Record) (groups : Table String (List Record)),
      (records.map (Record.renumbered rename)).foldl Document.addToGroup
          (renumberedGroups rename groups) =
        renumberedGroups rename (records.foldl Document.addToGroup groups) := by
    intro records
    induction records with
    | nil =>
        intro groups
        rfl
    | cons record rest ih =>
        intro groups
        rw [List.map_cons, List.foldl_cons, List.foldl_cons, addToGroup_renumbered, ih]
  rw [Document.paths, Document.paths, hrecords]
  exact hfold document.records []

theorem pathItem_renumbered (rename : Nat → Nat) (records : List Record) :
    pathItem (records.map (Record.renumbered rename)) = pathItem records := by
  induction records with
  | nil => rfl
  | cons record rest ih =>
      rw [List.map_cons, pathItem, pathItem, operation_renumbered, ih]
      rfl

theorem pathItems_renumbered (rename : Nat → Nat) (groups : Table String (List Record)) :
    pathItems (renumberedGroups rename groups) = pathItems groups := by
  induction groups with
  | nil => rfl
  | cons group rest ih =>
      rcases group with ⟨path, records⟩
      rw [renumberedGroups] at ih ⊢
      rw [List.map_cons, Prod.map_apply, id, pathItems, pathItems, pathItem_renumbered, ih]

/-- **Serial numbers do not show**: documents that are equal up to serial numbers are written alike. -/
theorem buildDocument_of_eqUpToSerials {document other : Document} (h : document.EqUpToSerials other)
    (info : Info) : buildDocument other info = buildDocument document info := by
  obtain ⟨rename, rfl, -⟩ := h
  rw [buildDocument, buildDocument, build, build, paths_renumbered, pathItems_renumbered]
  rfl

end RouteAtlas.OpenApi
