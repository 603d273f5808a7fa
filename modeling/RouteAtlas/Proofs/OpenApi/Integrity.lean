import RouteAtlas.OpenApi.Document
import RouteAtlas.Proofs.OpenApi.Assembly
import RouteAtlas.Proofs.OpenApi.Naming

/-!
# Referential integrity of documents

A schema is closed when all its references lead to definitions that it brings along. Every name that
a definition has, and every name that it is given, is the name of a component as soon as the schema is
in the document. So it does not matter which references the renaming reaches, nor whether the naming
has come to rest: each of them leads to a component. `Renders` says of a step which models it renders
and that the references of what it gives lead to components; it holds of every step of building a
document, down to the document as a whole (`buildDocument_refs_named`).
-/

set_option autoImplicit false

namespace RouteAtlas.OpenApi

open Schema Step Api

/-! ## Closed schemas -/

/-- The definitions that a rendered schema brings along. -/
def definitionsOf (schema : Json) : Table String Json :=
  ((schema.get? "$defs").bind Json.obj?).getD []

/-- A schema refers to nothing but its own definitions, which are those of an object, one under each
name. -/
structure IsClosed (schema : Json) : Prop where
  distinct : (definitionsOf schema).keys.Nodup
  named : ∀ ref ∈ refs schema, ∃ name ∈ (definitionsOf schema).keys, ref = refTo name

/-- The rendered schema of a model is closed. -/
def RendersClosed (model : Model) : Prop := ∀ schema, rendered model = .ok schema → IsClosed schema

/-- Every reference of a list leads to a component. -/
def Named (components : Table String Json) (references : List String) : Prop :=
  ∀ ref ∈ references, ∃ name, ref = refTo name ∧ components.has name = true

theorem Named.grow {components grown : Table String Json} {references : List String}
    (h : Named components references) (hgrown : components <+: grown) : Named grown references := by
  intro ref href
  obtain ⟨name, rfl, hname⟩ := h ref href
  exact ⟨name, rfl, Table.has_of_grown hgrown hname⟩

theorem splitDefinitions_eq {schema : Json} {nested fields : List (String × Json)}
    (h : splitDefinitions schema = .ok (nested, fields)) :
    nested = definitionsOf schema ∧ (∀ ref ∈ entryRefs nested, ref ∈ refs schema) ∧
      ∀ ref ∈ refs (.obj fields), ref ∈ refs schema := by
  cases schema with
  | obj entries =>
      simp only [splitDefinitions] at h
      simp only [definitionsOf, Json.get?, refs]
      split at h
      · rename_i hnone
        cases h
        simp [hnone, entryRefs]
      · rename_i definitions hdefinitions
        cases h
        refine ⟨by simp [hdefinitions, Json.obj?], ?_, ?_⟩
        · intro ref href
          exact mem_refs_of_mem (Table.mem_of_get? hdefinitions) (by simpa only [refs] using href)
        · exact entryRefs_mono fun _ hentry => Table.mem_of_mem_drop hentry
      · cases h
  | arr items => cases h
  | null => cases h
  | bool value => cases h
  | num value => cases h
  | str value => cases h
  | foreign => cases h

theorem keys_nullableEntries {fields result : List (String × Json)}
    (h : nullableEntries fields = .ok result) : Table.keys result = Table.keys fields := by
  induction fields generalizing result with
  | nil =>
      cases h
      rfl
  | cons entry rest ih =>
      rcases entry with ⟨key, value⟩
      simp only [nullableEntries, bind_eq_ok, pure, Except.pure, Except.ok.injEq] at h
      obtain ⟨first, -, others, hothers, rfl⟩ := h
      simpa only [Table.keys, List.map_cons] using congrArg (key :: ·) (ih hothers)

/-! ## One schema -/

section Call

variable {model : Model} {start stop : Assembly} {value : Json}

/-- The definitions of a hoisting have the names that the schema defines. -/
theorem Hoisting.keys_definitions (hoisting : Hoisting model start.components) :
    Table.keys hoisting.definitions = (definitionsOf hoisting.schema).keys := by
  rw [keys_nullableEntries hoisting.definitions_eq, (splitDefinitions_eq hoisting.split_eq).1]

theorem Hoisting.keys_names (hoisting : Hoisting model start.components) :
    Table.keys hoisting.names = (definitionsOf hoisting.schema).keys := by
  rw [keys_naming hoisting.names_eq, hoisting.keys_definitions]

theorem Hoisting.given_of_mem (hoisting : Hoisting model start.components)
    (hclosed : IsClosed hoisting.schema) {name given : String}
    (h : (name, given) ∈ hoisting.names) : hoisting.names.given name = given := by
  have hdistinct : (Table.keys hoisting.names).Nodup := by
    rw [hoisting.keys_names]
    exact hclosed.distinct
  rw [Naming.given, Table.get?_of_mem hdistinct h, Option.getD_some]

/-- Every defined name, old and new, is the name of a component in the end. -/
theorem Hoisting.has_name (hoisting : Hoisting model start.components)
    (hregister : Yields (registerAll model.name hoisting.names hoisting.definitions) start () stop)
    (hclosed : IsClosed hoisting.schema) {name given : String} (h : (name, given) ∈ hoisting.names) :
    stop.components.has name = true ∧ stop.components.has given = true := by
  have hkey : name ∈ Table.keys hoisting.definitions := by
    rw [← keys_naming hoisting.names_eq]
    exact List.mem_map_of_mem h
  have hgiven := has_of_registerAll hregister hkey
  rw [hoisting.given_of_mem hclosed h] at hgiven
  refine ⟨?_, hgiven⟩
  -- a name that is given up was taken before
  rcases naming_eq_or_has hoisting.names_eq _ h with heq | htaken
  · exact (show given = name from heq) ▸ hgiven
  · exact Table.has_of_grown (grows_of_yields (grows_registerAll _ _ _) hregister) htaken

/-- The references of a part of the schema lead to components, whether they are renamed or not. -/
theorem Hoisting.named_of_renamed (hoisting : Hoisting model start.components)
    (hregister : Yields (registerAll model.name hoisting.names hoisting.definitions) start () stop)
    (hclosed : IsClosed hoisting.schema) {before : List String} {ref : String}
    (hbefore : ∀ old ∈ before, old ∈ refs hoisting.schema)
    (h : Renamed hoisting.renames before ref) :
    ∃ name, ref = refTo name ∧ stop.components.has name = true := by
  rcases h with hmem | ⟨old, -, hrename⟩
  · obtain ⟨name, hname, rfl⟩ := hclosed.named ref (hbefore ref hmem)
    rw [← hoisting.keys_names] at hname
    obtain ⟨⟨_, given⟩, hentry, rfl⟩ := List.mem_map.1 hname
    exact ⟨_, rfl, (hoisting.has_name hregister hclosed hentry).1⟩
  · obtain ⟨_, new, hentry, -, rfl⟩ := mem_of_get?_renamedTargets hrename
    exact ⟨new, rfl, (hoisting.has_name hregister hclosed hentry).2⟩

/-- The definition that a component comes from refers to what the schema refers to, also where the
component stands under the reference key. -/
theorem Hoisting.ownRef_given (hoisting : Hoisting model start.components)
    (hclosed : IsClosed hoisting.schema) {name ref : String} {definition retargeted : Json}
    (hdefinition : (name, definition) ∈ hoisting.definitions)
    (hretarget : retarget hoisting.renames definition = .ok retargeted)
    (h : ref ∈ ownRef (hoisting.names.given name) retargeted) : ref ∈ ownRef name definition := by
  obtain ⟨hkey, rfl⟩ := mem_ownRef.1 h
  have hname : name ∈ Table.keys hoisting.names := by
    rw [keys_naming hoisting.names_eq]
    exact List.mem_map_of_mem hdefinition
  obtain ⟨⟨_, given⟩, hentry, rfl⟩ := List.mem_map.1 hname
  rw [hoisting.given_of_mem hclosed hentry] at hkey
  obtain ⟨number, hnumber⟩ := naming_numbered hoisting.names_eq _ hentry
  -- the reference key ends in a letter, so no other name is numbered to it
  have hletter : ∀ c, "$ref".toList.getLast? = some c → ¬ c.isDigit = true := by
    rintro _ ⟨⟩
    decide
  have hsame : _ = "$ref" := eq_of_numbered_eq (hnumber.symm.trans hkey) hletter
  exact mem_ownRef.2 ⟨hsame, eq_str_of_retarget hretarget⟩

/-- **One call of `component` keeps integrity**: where every reference of the components leads to a
component, it still does, and so does every reference of the schema that is given. -/
theorem component_named (hclosed : RendersClosed model)
    (hstart : Named start.components (entryRefs start.components))
    (h : Yields (component model) start value stop) :
    Named stop.components (entryRefs stop.components) ∧ Named stop.components (refs value) := by
  obtain ⟨hoisting, hregister, plain, hplain, hvalue⟩ := component_cases h
  have hschema : IsClosed hoisting.schema := hclosed _ hoisting.rendered_eq
  obtain ⟨-, hnested, hfields⟩ := splitDefinitions_eq hoisting.split_eq
  have hdefinitions : ∀ ref ∈ entryRefs hoisting.definitions, ref ∈ refs hoisting.schema := by
    intro ref href
    exact hnested ref (entryRefs_nullableEntries hoisting.definitions_eq ref href)
  have hgrown : start.components <+: stop.components :=
    grows_of_yields (grows_registerAll _ _ _) hregister
  constructor
  · intro ref href
    obtain ⟨entry, hentry, hmem⟩ := mem_entryRefs.1 href
    -- a component was there before or is a definition of this schema with its references renamed
    rcases mem_of_registerAll hregister hentry with hold | ⟨⟨name, definition⟩, hnew, hkey, hretarget⟩
    · exact hstart.grow hgrown ref (mem_entryRefs.2 ⟨entry, hold, hmem⟩)
    · have hrefs : ∀ old ∈ ownRef name definition ++ refs definition, old ∈ refs hoisting.schema := by
        intro old hold
        rw [List.mem_append] at hold
        exact hdefinitions old (mem_entryRefs.2 ⟨_, hnew, hold⟩)
      apply hoisting.named_of_renamed hregister hschema hrefs
      -- a definition named like the reference key is itself a reference in the table of components
      rcases hmem with hown | hinner
      · rw [hkey] at hown
        exact .inl (List.mem_append_left _ (hoisting.ownRef_given hschema hnew hretarget hown))
      · exact (refs_retarget hretarget ref hinner).mono fun _ => List.mem_append_right _
  · intro ref href
    apply hoisting.named_of_renamed hregister hschema _ (refs_retarget hvalue ref href)
    intro old hold
    exact hfields old (refs_nullable hplain old hold)

end Call

/-! ## Steps that render models -/

/-- The components refer to components only. -/
def Sound (assembly : Assembly) : Prop := Named assembly.components (entryRefs assembly.components)

/-- A step renders some models one after the other: it leaves the state that they leave, and where
these are closed and `known` lists references to components, the references of what the step gives,
listed by `out`, lead to components as well. -/
def Renders {α : Type} (step : Assemble α) (models : List Model) (known : List String)
    (out : α → List String) : Prop :=
  ∀ start value stop, Yields step start value stop →
    stop = assembled models start ∧
      ((∀ model ∈ models, RendersClosed model) → Sound start → Named start.components known →
        Sound stop ∧ Named stop.components (out value))

section Renders

variable {α β : Type} {known : List String} {out : α → List String}

theorem renders_pure {value : α} (h : ∀ ref ∈ out value, ref ∈ known) :
    Renders (pure value) [] known out := by
  intro start given stop hyields
  obtain ⟨rfl, rfl⟩ := yields_pure.1 hyields
  exact ⟨rfl, fun _ hsound hknown => ⟨hsound, fun ref href => hknown ref (h ref href)⟩⟩

theorem renders_throw {misshape : Misshape} :
    Renders (throw misshape : Assemble α) [] known out :=
  fun _ _ _ hyields => absurd hyields not_yields_throw

theorem renders_ofOutcome {outcome : Except Misshape α}
    (h : ∀ value, outcome = .ok value → ∀ ref ∈ out value, ref ∈ known) :
    Renders (Assemble.ofOutcome outcome) [] known out := by
  cases outcome with
  | ok value => exact renders_pure (h value rfl)
  | error misshape => exact renders_throw

theorem renders_component {model : Model} : Renders (component model) [model] known refs := by
  intro start value stop hyields
  refine ⟨hyields.final_eq.symm, fun hclosed hsound _ => ?_⟩
  exact component_named (hclosed model (List.mem_singleton_self _)) hsound hyields

/-- What one step makes known, the next may use. -/
theorem renders_bind (models others : List Model) {step : Assemble α} {next : α → Assemble β}
    {out' : β → List String} (hstep : Renders step models known out)
    (hnext : ∀ first, Renders (next first) others (known ++ out first) out') :
    Renders (step >>= next) (models ++ others) known out' := by
  intro start value stop hyields
  obtain ⟨first, middle, hfirst, hrest⟩ := yields_bind.1 hyields
  obtain ⟨rfl, hsound⟩ := hstep start first middle hfirst
  obtain ⟨rfl, hsound'⟩ := hnext first _ value stop hrest
  refine ⟨(assembled_append _ _ _).symm, fun hclosed hstart hknown => ?_⟩
  obtain ⟨hmiddle, hout⟩ :=
    hsound (fun model h => hclosed model (List.mem_append_left _ h)) hstart hknown
  apply hsound' (fun model h => hclosed model (List.mem_append_right _ h)) hmiddle
  -- components only grow, so what was known before the first step is still known
  intro ref href
  rcases List.mem_append.1 href with hold | hnew
  · exact hknown.grow (assembled_grows _ _) ref hold
  · exact hout ref hnew

end Renders

/-! ## Operations -/

theorem mem_refs_of_get? {json value : Json} {key ref : String} (h : json.get? key = some value)
    (href : ref ∈ refs value) : ref ∈ refs json := by
  cases json with
  | obj fields =>
      rw [refs]
      exact mem_refs_of_mem (Table.mem_of_get? h) href
  | null => cases h
  | bool value => cases h
  | num value => cases h
  | str value => cases h
  | arr items => cases h
  | foreign => cases h

/-- A parameter refers to what its property refers to. -/
theorem refs_parameter {location name : String} {required : List String} {property result : Json}
    (h : parameter location required name property = .ok result) :
    ∀ ref ∈ refs result, ref ∈ refs property := by
  simp only [parameter, bind_eq_ok, pure, Except.pure, Except.ok.injEq] at h
  obtain ⟨description, hdescription, rfl⟩ := h
  intro ref href
  simp only [refs, mem_entryRefs, List.mem_append, List.mem_cons, List.not_mem_nil, or_false] at href
  obtain ⟨entry, (rfl | rfl | rfl | rfl) | hentry, hmem⟩ := href
  · simp [ownRef, refs] at hmem
  · simp [ownRef, refs] at hmem
  · simp [ownRef, refs] at hmem
  · simpa [ownRef] using hmem
  · cases description with
    | none => simp [settingEntry] at hentry
    | some value =>
        obtain rfl : entry = ("description", value) := by simpa [settingEntry] using hentry
        have hvalue : ref ∈ refs value := by simpa [ownRef] using hmem
        -- only an object has a description
        cases property with
        | obj fields =>
            simp only [propertyDescription, Except.ok.injEq] at hdescription
            exact mem_refs_of_get? hdescription hvalue
        | str text =>
            simp only [propertyDescription] at hdescription
            split at hdescription <;> cases hdescription
        | arr items =>
            simp only [propertyDescription] at hdescription
            split at hdescription <;> cases hdescription
        | null => cases hdescription
        | bool value => cases hdescription
        | num value => cases hdescription
        | foreign => cases hdescription

theorem refs_propertyParameters {location : String} {required : List String} :
    ∀ {properties : List (String × Json)} {result : List Json},
      propertyParameters location required properties = .ok result →
        ∀ ref ∈ itemRefs result, ref ∈ entryRefs properties
  | [], result, h => by
      cases h
      simp [itemRefs]
  | (name, property) :: rest, result, h => by
      simp only [propertyParameters, bind_eq_ok, pure, Except.pure, Except.ok.injEq] at h
      obtain ⟨first, hfirst, others, hothers, rfl⟩ := h
      simp only [itemRefs, entryRefs, List.mem_append]
      rintro ref (href | href)
      · exact .inl (.inr (refs_parameter hfirst ref href))
      · exact .inr (refs_propertyParameters hothers ref href)

theorem renders_parameters {model : Model} {location : String} {known : List String} :
    Renders (parameters model location) [model] known itemRefs := by
  rw [parameters]
  apply renders_bind [model] [] renders_component
  intro schema
  have hrequired : Renders (Assemble.ofOutcome (requiredNames (schema.get? "required"))) []
      (known ++ refs schema) fun _ => [] :=
    renders_ofOutcome fun _ _ _ href => absurd href List.not_mem_nil
  apply renders_bind [] [] hrequired
  intro required
  split
  · exact renders_pure (by simp [itemRefs])
  · rename_i properties hproperties
    apply renders_ofOutcome
    intro result hresult ref href
    have hentry := refs_propertyParameters hresult ref href
    have hschema : ref ∈ refs schema :=
      mem_refs_of_get? hproperties (by simpa only [refs] using hentry)
    simp [hschema]
  · exact renders_throw

/-- The models in some slots of a request. -/
def slotModels (request : Request) (slots : List Slot) : List Model := slots.filterMap request.get?

theorem itemRefs_append (front back : List Json) :
    itemRefs (front ++ back) = itemRefs front ++ itemRefs back := by
  induction front with
  | nil => rfl
  | cons item rest ih => simp [itemRefs, ih]

theorem entryRefs_append (front back : List (String × Json)) :
    entryRefs (front ++ back) = entryRefs front ++ entryRefs back := by
  induction front with
  | nil => rfl
  | cons entry rest ih => simp [entryRefs, ih]

/-- An object is no reference under any key. -/
theorem entryRefs_object (key : String) (fields : List (String × Json)) :
    entryRefs [(key, .obj fields)] = entryRefs fields := by
  simp [entryRefs, ownRef, refs, Json.str?]

theorem renders_requestParameters {request : Request} {known : List String} {slots : List Slot} :
    Renders (requestParameters request slots) (slotModels request slots) known itemRefs := by
  induction slots generalizing known with
  | nil => exact renders_pure (by simp [itemRefs])
  | cons slot rest ih =>
      rw [requestParameters]
      have hrest : ∀ first, Renders (do
          let others ← requestParameters request rest
          pure (first ++ others)) (slotModels request rest) (known ++ itemRefs first) itemRefs := by
        intro first
        rw [← List.append_nil (slotModels request rest)]
        apply renders_bind _ [] ih
        intro others
        apply renders_pure
        simp only [itemRefs_append, List.mem_append]
        rintro ref (href | href)
        · exact .inl (.inr href)
        · exact .inr href
      cases hslot : request.get? slot with
      | none =>
          have hmodels : slotModels request (slot :: rest) = [] ++ slotModels request rest := by
            simp [slotModels, hslot]
          rw [hmodels]
          exact renders_bind [] _ (renders_pure (by simp [itemRefs])) hrest
      | some model =>
          have hmodels : slotModels request (slot :: rest) = [model] ++ slotModels request rest := by
            simp [slotModels, hslot]
          rw [hmodels]
          exact renders_bind [model] _ renders_parameters hrest

theorem refs_content {mediaType : String} {schema : Json} :
    ∀ ref ∈ refs (content mediaType schema), ref ∈ refs schema := by
  intro ref href
  simpa [content, refs, entryRefs, ownRef, Json.str?] using href

/-- A step that goes on with the entries of a body, if there is one. -/
theorem renders_body {β : Type} {body : Option Model} {others : List Model} {known : List String}
    {out : β → List String} {entries : Json → List (String × Json)}
    {next : List (String × Json) → Assemble β}
    (hentries : ∀ schema, ∀ ref ∈ entryRefs (entries schema), ref ∈ refs schema)
    (hnext : ∀ fields, Renders (next fields) others (known ++ entryRefs fields) out) :
    Renders (match body with
      | some model => do
          let schema ← component model
          let fields ← pure (entries schema)
          next fields
      | none => do
          let fields ← pure []
          next fields) (body.toList ++ others) known out := by
  cases body with
  | none => exact renders_bind [] others (renders_pure (by simp [entryRefs])) hnext
  | some model =>
      have hschema : Renders (do
          let schema ← component model
          pure (entries schema)) [model] known entryRefs := by
        apply renders_bind [model] [] renders_component
        intro schema
        apply renders_pure
        intro ref href
        exact List.mem_append_right _ (hentries schema ref href)
      have h := renders_bind [model] others hschema hnext
      rwa [bind_assoc] at h

/-- The models of the bodies of some responses. -/
def responseModels (responses : List (String × Response)) : List Model :=
  responses.flatMap fun entry => entry.2.body.toList

theorem renders_responseObjects {responses : List (String × Response)} {known : List String} :
    Renders (responseObjects responses) (responseModels responses) known entryRefs := by
  induction responses generalizing known with
  | nil => exact renders_pure (by simp [entryRefs])
  | cons entry rest ih =>
      rcases entry with ⟨status, response⟩
      have hmodels : responseModels ((status, response) :: rest) =
          response.body.toList ++ responseModels rest := rfl
      rw [responseObjects, hmodels]
      apply renders_body
      · intro schema ref href
        exact refs_content ref (by simpa [entryRefs, ownRef] using href)
      · intro body
        rw [← List.append_nil (responseModels rest)]
        apply renders_bind _ [] ih
        intro others
        apply renders_pure
        intro ref href
        simp only [entryRefs, refs, List.mem_append] at href ⊢
        rcases href with (hown | (hdescription | hbody)) | hothers
        · simp [mem_ownRef] at hown
        · simp [ownRef] at hdescription
        · exact .inl (.inr hbody)
        · exact .inr hothers

/-- The models of a record in the order in which they are rendered. -/
def recordModels (record : Record) : List Model :=
  slotModels record.request parameterOrder ++
    (record.request.body.toList ++ responseModels record.responses)

theorem entryRefs_textEntry (key text : String) (hkey : key ≠ "$ref") :
    entryRefs (textEntry key text) = [] := by
  rw [textEntry]
  split
  · rfl
  · simp [entryRefs, ownRef, hkey, refs]

theorem entryRefs_listEntry (key : String) (items : List Json) :
    entryRefs (listEntry key items) = itemRefs items := by
  rw [listEntry]
  split
  · rename_i hempty
    rw [List.isEmpty_iff.1 hempty]
    rfl
  · simp [entryRefs, ownRef, refs, Json.str?]

/-- An operation is an object, so no reference comes about under whatever key it stands. -/
theorem renders_operation {record : Record} {known : List String} (key : String) :
    Renders (operation record) (recordModels record) known fun value => entryRefs [(key, value)] := by
  rw [operation, recordModels]
  apply renders_bind _ _ renders_requestParameters
  intro parameters
  apply renders_body
  · intro schema ref href
    exact refs_content ref (by simpa [entryRefs, refs, ownRef, Json.str?] using href)
  · intro body
    rw [← List.append_nil (responseModels record.responses)]
    apply renders_bind _ [] renders_responseObjects
    intro responses
    apply renders_pure
    have hsecurity : itemRefs (record.security.map fun name => .obj [(name, .arr [])]) = [] := by
      rw [List.eq_nil_iff_forall_not_mem]
      intro ref href
      obtain ⟨item, hitem, hmem⟩ := mem_itemRefs.1 href
      obtain ⟨name, -, rfl⟩ := List.mem_map.1 hitem
      simp [refs, entryRefs, itemRefs, ownRef, Json.str?] at hmem
    have hresponses : ∀ ref ∈ entryRefs (if responses.isEmpty then unspecifiedResponse
        else responses), ref ∈ entryRefs responses := by
      split
      · simp [unspecifiedResponse, entryRefs, refs, ownRef]
      · exact fun _ href => href
    intro ref href
    rw [entryRefs_object] at href
    simp only [entryRefs_append, entryRefs_textEntry _ _ (show "description" ≠ "$ref" by decide),
      entryRefs_listEntry, hsecurity, List.mem_append, List.not_mem_nil, or_false] at href ⊢
    rcases href with ((hhead | hparameters) | hbody) | hlast
    · simp [entryRefs, ownRef, refs, itemRefs] at hhead
    · exact .inl (.inl (.inr hparameters))
    · exact .inl (.inr hbody)
    · refine .inr (hresponses ref ?_)
      simpa [entryRefs, ownRef, refs, Json.str?] using hlast

/-! ## The document -/

theorem renders_pathItem {records : List Record} {known : List String} :
    Renders (pathItem records) (records.flatMap recordModels) known entryRefs := by
  induction records generalizing known with
  | nil => exact renders_pure (by simp [entryRefs])
  | cons record rest ih =>
      rw [pathItem, List.flatMap_cons]
      apply renders_bind _ _ (renders_operation record.key.1)
      intro first
      rw [← List.append_nil (rest.flatMap recordModels)]
      apply renders_bind _ [] ih
      intro others
      apply renders_pure
      intro ref href
      rw [← List.singleton_append, entryRefs_append, List.mem_append] at href
      rcases href with hfirst | hothers
      · exact List.mem_append_left _ (List.mem_append_right _ hfirst)
      · exact List.mem_append_right _ hothers

theorem renders_pathItems {groups : List (String × List Record)} {known : List String} :
    Renders (pathItems groups) (groups.flatMap fun group => group.2.flatMap recordModels) known
      entryRefs := by
  induction groups generalizing known with
  | nil => exact renders_pure (by simp [entryRefs])
  | cons group rest ih =>
      rcases group with ⟨path, records⟩
      rw [pathItems, List.flatMap_cons]
      apply renders_bind _ _ renders_pathItem
      intro item
      rw [← List.append_nil (rest.flatMap _)]
      apply renders_bind _ [] ih
      intro others
      apply renders_pure
      intro ref href
      simp only [entryRefs, refs, List.mem_append, mem_ownRef] at href ⊢
      rcases href with (⟨-, hown⟩ | hitem) | hothers
      · cases hown
      · exact .inl (.inr hitem)
      · exact .inr hothers

/-- The models of a document in the order in which they are rendered. -/
def documentModels (document : Document) : List Model :=
  document.paths.flatMap fun group => group.2.flatMap recordModels

/-- The component schemas that a document object holds. -/
def schemasOf (document : Json) : Table String Json :=
  (((document.get? "components").bind (·.get? "schemas")).bind Json.obj?).getD []

theorem refs_schemeObject (scheme : SecurityScheme) : refs (schemeObject scheme) = [] := by
  rw [schemeObject]
  simp only [refs, entryRefs_append, entryRefs_textEntry _ _ (show "description" ≠ "$ref" by decide)]
  split
  · simp [entryRefs, ownRef, refs]
  · simp [entryRefs, ownRef, refs]

theorem refs_serverObject (server : Server) : refs (serverObject server) = [] := by
  rw [serverObject]
  cases server.description with
  | none => simp [refs, entryRefs, ownRef, settingEntry]
  | some description => simp [refs, entryRefs, ownRef, settingEntry]

theorem itemRefs_map_eq_nil {α : Type} {items : List α} {f : α → Json} (h : ∀ item, refs (f item) = []) :
    itemRefs (items.map f) = [] := by
  induction items with
  | nil => rfl
  | cons item rest ih => simp [itemRefs, h, ih]

theorem entryRefs_schemes (schemes : Table String SecurityScheme) :
    entryRefs (schemes.map fun (name, scheme) => (name, schemeObject scheme)) = [] := by
  rw [List.eq_nil_iff_forall_not_mem]
  intro ref href
  obtain ⟨entry, hentry, hmem⟩ := mem_entryRefs.1 href
  obtain ⟨⟨name, scheme⟩, -, rfl⟩ := List.mem_map.1 hentry
  rcases hmem with hown | hinner
  · obtain ⟨-, hvalue⟩ := mem_ownRef.1 hown
    cases hvalue
  · simp [refs_schemeObject] at hinner

theorem entryRefs_componentsObject (document : Document) (schemas : Table String Json) :
    entryRefs (componentsObject document schemas) = entryRefs schemas := by
  rw [componentsObject, entryRefs_append]
  have hschemes : entryRefs (if document.schemes.isEmpty then []
      else [("securitySchemes", Json.obj (document.schemes.map fun (name, scheme) =>
        (name, schemeObject scheme)))]) = [] := by
    split
    · rfl
    · rw [entryRefs_object, entryRefs_schemes]
  rw [hschemes, List.nil_append]
  split
  · rename_i hempty
    rw [List.isEmpty_iff.1 hempty]
  · rw [entryRefs_object]

theorem get?_textEntry_of_ne {key other : String} (h : key ≠ other) (text : String) :
    Table.get? (textEntry key text) other = none := by
  rw [textEntry]
  split
  · rfl
  · simp [Table.get?, h]

theorem get?_listEntry_of_ne {key other : String} (h : key ≠ other) (items : List Json) :
    Table.get? (listEntry key items) other = none := by
  rw [listEntry]
  split
  · rfl
  · simp [Table.get?, h]

theorem get?_componentsObject (document : Document) (schemas : Table String Json) :
    ((Table.get? (componentsObject document schemas) "schemas").bind Json.obj?).getD [] = schemas := by
  rw [componentsObject, Table.get?_append]
  have hschemes : Table.get? (if document.schemes.isEmpty then []
      else [("securitySchemes", Json.obj (document.schemes.map fun (name, scheme) =>
        (name, schemeObject scheme)))]) "schemas" = none := by
    split
    · rfl
    · simp [Table.get?]
  rw [hschemes, Option.none_or]
  split
  · rename_i hempty
    rw [List.isEmpty_iff.1 hempty]
    rfl
  · simp [Table.get?, Json.obj?]

/-- A built document: the components are those of all models, the paths are those of all operations, and
its references are theirs. -/
theorem build_cases {document : Document} {info : Info} {start stop : Assembly} {result : Json}
    (h : Yields (build document info) start result stop) :
    schemasOf result = stop.components ∧
      ∃ paths, Yields (pathItems document.paths) start paths stop ∧
        result.get? "paths" = some (.obj paths) ∧
        ∀ ref ∈ refs result, ref ∈ entryRefs stop.components ∨ ref ∈ entryRefs paths := by
  rw [build] at h
  obtain ⟨paths, middle, hpaths, h₁⟩ := yields_bind.1 h
  obtain ⟨assembly, after, hget, h₂⟩ := yields_bind.1 h₁
  cases hget
  obtain ⟨rfl, rfl⟩ := yields_pure.1 h₂
  refine ⟨?_, paths, hpaths, ?_, ?_⟩
  · have hschemas := get?_componentsObject document stop.components
    simp only [schemasOf, Json.get?, Table.get?_append,
      get?_listEntry_of_ne (show "servers" ≠ "components" by decide)]
    split
    · rename_i hempty
      rw [List.isEmpty_iff.1 hempty] at hschemas
      simpa [Table.get?] using hschemas
    · simpa [Table.get?, Json.get?] using hschemas
  · have hcomponents : ∀ entries : List (String × Json),
        Table.get? (if entries.isEmpty then [] else [("components", Json.obj entries)]) "paths" = none := by
      intro entries
      split
      · rfl
      · simp [Table.get?]
    simp only [Json.get?, Table.get?_append,
      get?_listEntry_of_ne (show "servers" ≠ "paths" by decide), hcomponents]
    simp [Table.get?]
  · intro ref href
    have hinfo : entryRefs (textEntry "description" info.description) = [] :=
      entryRefs_textEntry _ _ (by decide)
    have hcomponents : entryRefs (if (componentsObject document stop.components).isEmpty then []
        else [("components", Json.obj (componentsObject document stop.components))]) =
          entryRefs stop.components := by
      have hsame := entryRefs_componentsObject document stop.components
      split
      · rename_i hempty
        rwa [List.isEmpty_iff.1 hempty] at hsame
      · rw [entryRefs_object, hsame]
    simp only [refs, entryRefs_append, entryRefs_listEntry, itemRefs_map_eq_nil refs_serverObject,
      hcomponents, entryRefs_object, List.mem_append] at href
    rcases href with ((hhead | hnone) | hschemas) | hpaths
    · simp [entryRefs, refs, ownRef, hinfo] at hhead
    · simp at hnone
    · exact .inl hschemas
    · exact .inr hpaths

theorem mem_of_mem_addToGroup {groups : Table String (List Record)} {record other : Record}
    {group : String × List Record} (hgroup : group ∈ Document.addToGroup groups record)
    (h : other ∈ group.2) : other = record ∨ ∃ old ∈ groups, other ∈ old.2 := by
  rcases Table.mem_put hgroup with hold | rfl
  · exact .inr ⟨group, hold, h⟩
  · rcases List.mem_append.1 h with hearlier | hnew
    · cases hget : groups.get? record.path with
      | none => simp [hget] at hearlier
      | some members => exact .inr ⟨_, Table.mem_of_get? hget, by simpa [hget] using hearlier⟩
    · exact .inl (List.mem_singleton.1 hnew)

/-- The groups of a document hold its records. -/
theorem mem_records_of_mem_paths {document : Document} {group : String × List Record} {record : Record}
    (hgroup : group ∈ document.paths) (h : record ∈ group.2) : record ∈ document.records := by
  have hfold : ∀ (records : List Record) (groups : Table String (List Record)),
      (∀ old ∈ groups, ∀ member ∈ old.2, member ∈ document.records) →
      (∀ member ∈ records, member ∈ document.records) →
      ∀ new ∈ records.foldl Document.addToGroup groups, ∀ member ∈ new.2,
        member ∈ document.records := by
    intro records
    induction records with
    | nil => exact fun groups hgroups _ => hgroups
    | cons first rest ih =>
        intro groups hgroups hrecords
        apply ih
        · intro old hold member hmember
          rcases mem_of_mem_addToGroup hold hmember with rfl | ⟨older, holder, hin⟩
          · exact hrecords _ List.mem_cons_self
          · exact hgroups older holder member hin
        · exact fun member hmember => hrecords member (List.mem_cons_of_mem _ hmember)
  exact hfold document.records [] (by simp) (fun _ hmember => hmember) group hgroup record h

/-- **Referential integrity.** Where the schemas of all records are closed, every reference of the
document that is built names a component schema of it. The component schemas are those that the models
leave one after the other, and what is there after any of them is still there, unchanged, in the end. -/
theorem buildDocument_refs_named {document : Document} {info : Info} {result : Json}
    (hclosed : ∀ record ∈ document.records, ∀ model ∈ recordModels record, RendersClosed model)
    (h : (buildDocument document info).1 = .ok result) :
    (∀ ref ∈ refs result, ∃ name, ref = refTo name ∧ (schemasOf result).has name = true) ∧
      schemasOf result = (assembled (documentModels document) {}).components ∧
      ∀ earlier later, documentModels document = earlier ++ later →
        (assembled earlier {}).components <+: schemasOf result := by
  obtain ⟨stop, hyields⟩ : ∃ stop, Yields (build document info) {} result stop :=
    ⟨((build document info).run.run {}).2, Prod.ext h rfl⟩
  obtain ⟨hschemas, paths, hpaths, -, hrefs⟩ := build_cases hyields
  have hrenders : Renders (pathItems document.paths) (documentModels document) [] entryRefs :=
    renders_pathItems
  obtain ⟨rfl, hnamed⟩ := hrenders _ _ _ hpaths
  have hmodels : ∀ model ∈ documentModels document, RendersClosed model := by
    intro model hmodel
    obtain ⟨group, hgroup, hmodel⟩ := List.mem_flatMap.1 hmodel
    obtain ⟨record, hrecord, hmodel⟩ := List.mem_flatMap.1 hmodel
    exact hclosed record (mem_records_of_mem_paths hgroup hrecord) model hmodel
  have hempty : Sound {} := by simp [Sound, Named, entryRefs]
  obtain ⟨hsound, hout⟩ := hnamed hmodels hempty (by simp [Named])
  rw [hschemas]
  refine ⟨?_, rfl, ?_⟩
  · intro ref href
    rcases hrefs ref href with hcomponent | hpath
    · exact hsound ref hcomponent
    · exact hout ref hpath
  · intro earlier later hsplit
    rw [hsplit, assembled_append]
    exact assembled_grows later _

theorem rendersClosed_given {identity : Identity} {name : String} {schema : Json}
    (h : IsClosed schema) : RendersClosed (.given identity name schema) := by
  intro result hresult
  cases hresult
  exact h

/-- Two endpoints whose schemas define different things under one name. -/
def rivalItems : Document :=
  { endpoints := [
      (("post", "/items"),
        { method := "post", path := "/items", tag := "items"
          request := { body := some (.given default "First" (.obj [
            ("$defs", .obj [("Item", .obj [("type", .str "string")])]),
            ("$ref", .str (refTo "Item"))])) } }),
      (("get", "/items"),
        { method := "get", path := "/items", tag := "items"
          responses := [("200", { description := "", body := some (.given default "Second" (.obj [
            ("$defs", .obj [("Item", .obj [("type", .str "integer")])]),
            ("items", .obj [("$ref", .str (refTo "Item"))])])) })] })] }

theorem rivalItems_refs_named : ∃ result, (buildDocument rivalItems {}).1 = .ok result ∧
    refs result = [refTo "Item", refTo "Item2"] ∧
    ∀ ref ∈ refs result, ∃ name, ref = refTo name ∧ (schemasOf result).has name = true := by
  obtain ⟨result, hresult, hrefs⟩ : ∃ result, (buildDocument rivalItems {}).1 = .ok result ∧
      refs result = [refTo "Item", refTo "Item2"] := ⟨_, rfl, by decide⟩
  refine ⟨result, hresult, hrefs, (buildDocument_refs_named ?_ hresult).1⟩
  intro record hrecord model hmodel
  simp only [rivalItems, Document.records, Table.values, List.map_cons, List.map_nil, List.mem_cons,
    List.not_mem_nil, or_false] at hrecord
  rcases hrecord with rfl | rfl
  · obtain rfl : model = _ := List.mem_singleton.1 hmodel
    exact rendersClosed_given ⟨by decide, by decide⟩
  · obtain rfl : model = _ := List.mem_singleton.1 hmodel
    exact rendersClosed_given ⟨by decide, by decide⟩

end RouteAtlas.OpenApi
