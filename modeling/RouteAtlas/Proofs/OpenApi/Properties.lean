import RouteAtlas.OpenApi.Check
import RouteAtlas.Proofs.OpenApi.Distinct
import RouteAtlas.Proofs.OpenApi.Operations

/-!
# Properties on their way to parameters

The schema of a record model lists its properties in an object of their own. On the way into the document
the schema is sorted, its definitions are taken out, unions with null are resolved and references are
renamed; none of this adds, drops or renames a property, even where a property is called like a key that
these steps look for (`keys_properties_of_component`). The parameters of an operation are therefore told
by the rendered schemas of its slots (`operation_cases`): one for each property, with the place of the
slot, and required if the place is the path.
-/

set_option autoImplicit false

namespace RouteAtlas

/-! ## Order -/

namespace Table

variable {β : Type}

/-- The entry found under a key is the first one of the key. -/
theorem get?_eq_head? (table : Table String β) (key : String) :
    table.get? key = ((table.filter fun entry => entry.1 = key).head?).map Prod.snd := by
  induction table with
  | nil => rfl
  | cons entry rest ih =>
      rw [get?]
      split
      · rename_i hkey
        rw [List.filter_cons_of_pos (by simpa using hkey)]
        rfl
      · rename_i hkey
        rw [List.filter_cons_of_neg (by simpa using hkey), ih]

/-- Dropping one key leaves every other alone. -/
theorem get?_drop_of_ne (table : Table String β) {key dropped : String} (hkey : key ≠ dropped) :
    (table.drop dropped).get? key = table.get? key := by
  induction table with
  | nil => rfl
  | cons entry rest ih =>
      rcases entry with ⟨first, value⟩
      by_cases hfirst : first = dropped
      · have hne : ¬ first = key := fun heq => hkey (heq.symm.trans hfirst)
        rw [drop, List.filter_cons_of_neg (by simpa using hfirst), get?, if_neg hne]
        exact ih
      · rw [drop, List.filter_cons_of_pos (by simpa using hfirst), get?, get?]
        split
        · rfl
        · exact ih

end Table

namespace OpenApi

open Schema Api Step

theorem keys_arrangeFields (fields : Entries) :
    Table.keys (arrangeFields fields) = Table.keys fields := by
  induction fields with
  | nil => rfl
  | cons entry rest ih => simpa [arrangeFields, Table.keys] using ih

theorem get?_arrangeFields (fields : Entries) (key : String) :
    Table.get? (arrangeFields fields) key =
      (Table.get? fields key).map (arrange (keepsOrder key)) := by
  induction fields with
  | nil => rfl
  | cons entry rest ih =>
      rcases entry with ⟨first, value⟩
      simp only [arrangeFields, Table.get?]
      split
      · rename_i hkey
        rw [hkey]
        rfl
      · exact ih

/-- Sorting keeps the order of the entries of one key, so the same entry is found. -/
theorem get?_sorted (fields : Entries) (key : String) :
    Table.get? (sortFields fields) key = Table.get? fields key := by
  have hsame : (fields.filter fun entry => entry.1 = key).Pairwise fun a b =>
      decide (a.1 ≤ b.1) = true := by
    refine List.pairwise_of_forall_mem_list fun a ha b hb => ?_
    have hfirst : a.1 = key := by simpa using (List.mem_filter.1 ha).2
    have hsecond : b.1 = key := by simpa using (List.mem_filter.1 hb).2
    rw [hfirst, hsecond]
    exact decide_eq_true (String.le_refl key)
  have hsublist : (fields.filter fun entry => entry.1 = key).Sublist (sortFields fields) := by
    refine List.sublist_mergeSort (fun a b c hab hbc => ?_) (fun a b => ?_) hsame List.filter_sublist
    · exact decide_eq_true (String.le_trans (of_decide_eq_true hab) (of_decide_eq_true hbc))
    · simpa using String.le_total a.1 b.1
  have hkept := hsublist.filter fun entry => decide (entry.1 = key)
  rw [List.filter_filter] at hkept
  simp only [Bool.and_self] at hkept
  have hperm : (sortFields fields).Perm fields := List.mergeSort_perm _ _
  rw [Table.get?_eq_head?, Table.get?_eq_head?, hkept.eq_of_length (hperm.filter _).length_eq.symm]

/-- An entry of a sorted schema is the sorted entry. -/
theorem get?_sortFields (fields : Entries) (key : String) :
    Table.get? (sortFields (arrangeFields fields)) key =
      (Table.get? fields key).map (arrange (keepsOrder key)) := by
  rw [get?_sorted, get?_arrangeFields]

/-! ## Record models -/

/-- A model is a record of fields, not a given schema. -/
def isRecord : Model → Bool
  | .record .. => true
  | .given .. => false

/-- The names of the properties that a schema lists. -/
def propertyNames (schema : Json) : List String :=
  (((schema.get? "properties").bind Json.obj?).getD []).map Prod.fst

/-- A schema lists properties under some names, each an object, and is neither a union nor a
reference. -/
def Lists (schema : Json) (names : List String) : Prop :=
  ∃ fields properties : Table String Json, schema = .obj fields ∧
    fields.get? "properties" = some (.obj properties) ∧ properties.keys = names ∧
    (∀ entry ∈ properties, ∃ inner, entry.2 = .obj inner) ∧
    fields.get? "anyOf" = none ∧ fields.get? "$ref" = none

theorem Lists.propertyNames_eq {schema : Json} {names : List String} (h : Lists schema names) :
    propertyNames schema = names := by
  obtain ⟨fields, properties, rfl, hproperties, rfl, -⟩ := h
  simp only [propertyNames, Json.get?, hproperties]
  rfl

/-- The keys of the entries of a record, with those of its definitions. -/
theorem keys_body_sublist (refTo : String → String) (identity : Identity) (name : String)
    (doc : Option String) (extra : Extra) (fields : List Field) {definitions : Entries}
    (hdefinitions : (Table.keys definitions).Sublist ["$defs"]) :
    (Table.keys ((Model.record identity name doc extra fields).body refTo ++ definitions)).Sublist
      ["type", "properties", "required", "title", "description", "additionalProperties", "$defs"] := by
  have hdescription : ∀ value, (Table.keys (settingEntry "description" value)).Sublist
      ["description"] := by
    intro value
    cases value with
    | none => exact List.nil_sublist _
    | some value => exact List.Sublist.refl _
  simp only [Model.body, Table.keys, List.map_append] at *
  change List.Sublist _ (["type", "properties"] ++ ["required"] ++ ["title"] ++ ["description"] ++
    ["additionalProperties"] ++ ["$defs"])
  refine (((((List.Sublist.refl ["type", "properties"]).append ?required).append
    (List.Sublist.refl ["title"])).append (hdescription _)).append ?extra).append hdefinitions
  case required =>
    split
    · exact List.nil_sublist _
    · exact List.Sublist.refl _
  case extra =>
    cases extra with
    | ignore => exact List.nil_sublist _
    | allow => exact List.Sublist.refl _
    | forbid => exact List.Sublist.refl _

theorem schema_of_rendered {model : Model} {schema : Json} (h : rendered model = .ok schema) :
    model.schema refTo = .ok schema := by
  rw [rendered] at h
  cases hschema : model.schema refTo with
  | error fault =>
      rw [hschema] at h
      cases fault <;> cases h
  | ok value =>
      rw [hschema] at h
      cases h
      rfl

/-- The entry of the definitions of a model, if it has any. -/
def definitionEntry (refTo : String → String) (model : Model) : Entries :=
  match model.definitions refTo with
  | [] => []
  | definitions => [("$defs", .obj definitions)]

theorem definitionEntry_cases (refTo : String → String) (model : Model) :
    definitionEntry refTo model = [] ∨
      definitionEntry refTo model = [("$defs", .obj (model.definitions refTo))] := by
  rw [definitionEntry]
  cases model.definitions refTo with
  | nil => exact .inl rfl
  | cons first rest => exact .inr rfl

/-- The schema of a record, where there is one: its entries and its definitions, sorted. -/
theorem schema_record_iff {refTo : String → String} {identity : Identity} {name : String}
    {doc : Option String} {extra : Extra} {fields : List Field} {schema : Json} :
    (Model.record identity name doc extra fields).schema refTo = .ok schema ↔
      (Model.record identity name doc extra fields).checkReferences = .ok () ∧
        schema = arrange false (.obj ((Model.record identity name doc extra fields).body refTo ++
          definitionEntry refTo (.record identity name doc extra fields))) := by
  rw [Model.schema]
  cases (Model.record identity name doc extra fields).checkReferences with
  | error fault => exact iff_of_false nofun fun h => nomatch h.1
  | ok value =>
      refine ⟨fun h => ⟨rfl, (Except.ok.inj h).symm⟩, fun h => ?_⟩
      rw [h.2]
      rfl

/-- The rendered schema of a record: its entries and its definitions, sorted. -/
theorem rendered_record {identity : Identity} {name : String} {doc : Option String} {extra : Extra}
    {fields : List Field} {schema : Json}
    (h : rendered (.record identity name doc extra fields) = .ok schema) :
    ∃ definitions : Entries, (definitions = [] ∨ definitions =
        [("$defs", .obj ((Model.record identity name doc extra fields).definitions refTo))]) ∧
      schema = arrange false
        (.obj ((Model.record identity name doc extra fields).body refTo ++ definitions)) :=
  ⟨_, definitionEntry_cases _ _, (schema_record_iff.1 (schema_of_rendered h)).2⟩

/-- An object is arranged entry by entry, and then perhaps sorted. -/
theorem arrange_obj (isKept : Bool) (fields : Entries) :
    ∃ arranged : Entries, arrange isKept (.obj fields) = .obj arranged ∧
      arranged.Perm (arrangeFields fields) ∧
      ∀ key, Table.get? arranged key = (Table.get? fields key).map (arrange (keepsOrder key)) := by
  rw [arrange]
  split
  · exact ⟨_, rfl, .refl _, get?_arrangeFields fields⟩
  · exact ⟨_, rfl, List.mergeSort_perm _ _, get?_sortFields fields⟩

theorem mem_arrangeFields {fields : Entries} {key : String} {value : Json}
    (h : (key, value) ∈ arrangeFields fields) :
    ∃ original, (key, original) ∈ fields ∧ value = arrange (keepsOrder key) original := by
  induction fields with
  | nil => simp [arrangeFields] at h
  | cons entry rest ih =>
      rcases entry with ⟨first, original⟩
      rw [arrangeFields] at h
      rcases List.mem_cons.1 h with heq | hmem
      · cases heq
        exact ⟨original, List.mem_cons_self, rfl⟩
      · obtain ⟨found, hfound, hvalue⟩ := ih hmem
        exact ⟨found, List.mem_cons_of_mem _ hfound, hvalue⟩

/-- The properties of a record have the keys of its fields, each once, and are objects. -/
theorem properties_spec (refTo : String → String) (fields : List Field) :
    (Table.keys (properties refTo fields)).Nodup ∧
      ∀ entry ∈ properties refTo fields, ∃ inner, entry.2 = .obj inner := by
  refine ⟨?_, ?_⟩
  · rw [properties, Table.keys_ofList]
    exact Table.nodup_eraseDups _
  · intro entry hentry
    obtain ⟨field, -, rfl⟩ := List.mem_map.1 (Table.mem_of_mem_ofList hentry)
    exact ⟨_, rfl⟩

section

variable {refTo : String → String} {identity : Identity} {name : String} {doc : Option String}
  {extra : Extra} {fields : List Field} {schema : Json}

/-- **The schema of a record lists its fields** under their keys. -/
theorem lists_of_schema (h : (Model.record identity name doc extra fields).schema refTo = .ok schema) :
    Lists schema (Table.keys (properties refTo fields)) := by
  obtain ⟨-, rfl⟩ := schema_record_iff.1 h
  have hkey : (Table.keys (definitionEntry refTo (.record identity name doc extra fields))).Sublist
      ["$defs"] := by
    rcases definitionEntry_cases refTo (.record identity name doc extra fields) with hnone | hsome
    · rw [hnone]
      exact List.nil_sublist _
    · rw [hsome]
      exact List.Sublist.refl _
  have hsublist := keys_body_sublist refTo identity name doc extra fields hkey
  obtain ⟨-, hobjects⟩ := properties_spec refTo fields
  have habsent : ∀ key, key ∉ ["type", "properties", "required", "title", "description",
      "additionalProperties", "$defs"] → Table.get? (sortFields (arrangeFields
        ((Model.record identity name doc extra fields).body refTo ++
          definitionEntry refTo (.record identity name doc extra fields)))) key = none := by
    intro key hkey
    rw [get?_sortFields,
      Table.get?_eq_none_iff.2 fun hmem => hkey (hsublist.subset hmem), Option.map_none]
  refine ⟨_, arrangeFields (properties refTo fields), rfl, ?_, keys_arrangeFields _, ?_,
    habsent _ (by decide), habsent _ (by decide)⟩
  · rw [get?_sortFields]
    rfl
  · rintro ⟨key, value⟩ hentry
    obtain ⟨original, horiginal, rfl⟩ := mem_arrangeFields hentry
    obtain ⟨inner, rfl⟩ := hobjects _ horiginal
    obtain ⟨arranged, harranged, -⟩ := arrange_obj (keepsOrder key) inner
    exact ⟨arranged, harranged⟩

/-- A list of texts is arranged as it is. -/
theorem arrangeItems_map_str (isKept : Bool) (names : List String) :
    arrangeItems isKept (names.map Json.str) = names.map Json.str := by
  induction names with
  | nil => rfl
  | cons first rest ih =>
      rw [List.map_cons, arrangeItems, ih]
      rfl

/-- A list of texts holds these as required names. -/
theorem requiredNames_map_str (names : List String) :
    requiredNames (some (.arr (names.map Json.str))) = .ok names := by
  rw [requiredNames, if_neg (by simp), List.filterMap_map]
  exact congrArg _ List.filterMap_some

/-- **The schema of a record requires its fields without a default.** -/
theorem requiredNames_of_schema
    (h : (Model.record identity name doc extra fields).schema refTo = .ok schema) :
    requiredNames (schema.get? "required") = .ok (requiredKeys fields) := by
  obtain ⟨-, rfl⟩ := schema_record_iff.1 h
  have hdefinitions : Table.get? (definitionEntry refTo (.record identity name doc extra fields))
      "required" = none := by
    rcases definitionEntry_cases refTo (.record identity name doc extra fields) with hnone | hsome
    · rw [hnone]
      rfl
    · rw [hsome]
      rfl
  have hdescription : ∀ value, Table.get? (settingEntry "description" value) "required" = none := by
    intro value
    cases value <;> rfl
  have hshown : (arrange false (.obj ((Model.record identity name doc extra fields).body refTo ++
        definitionEntry refTo (.record identity name doc extra fields)))).get? "required" =
      Option.map (arrange (keepsOrder "required")) (Table.get?
        ((Model.record identity name doc extra fields).body refTo ++
          definitionEntry refTo (.record identity name doc extra fields)) "required") :=
    get?_sortFields _ _
  rw [hshown]
  cases hkeys : requiredKeys fields with
  | nil =>
      have hnone : Table.get? ((Model.record identity name doc extra fields).body refTo ++
          definitionEntry refTo (.record identity name doc extra fields)) "required" = none := by
        simp only [Model.body, Table.get?_append, hdefinitions, hdescription, hkeys]
        cases extra <;> rfl
      rw [hnone]
      rfl
  | cons first rest =>
      have hsome : Table.get? ((Model.record identity name doc extra fields).body refTo ++
          definitionEntry refTo (.record identity name doc extra fields)) "required" =
            some (.arr ((first :: rest).map Json.str)) := by
        simp only [Model.body, Table.get?_append, hdefinitions, hdescription, hkeys]
        cases extra <;> rfl
      rw [hsome, Option.map_some, arrange, arrangeItems_map_str]
      exact requiredNames_map_str (first :: rest)

end

/-- **The rendered schema of a record lists properties**, each once. -/
theorem lists_of_rendered {model : Model} {schema : Json} (hrecord : isRecord model = true)
    (h : rendered model = .ok schema) : ∃ names, names.Nodup ∧ Lists schema names := by
  cases model with
  | given identity name schema => cases hrecord
  | record identity name doc extra fields =>
      exact ⟨_, (properties_spec refTo fields).1, lists_of_schema (schema_of_rendered h)⟩

/-! ## On the way into the document -/

theorem lists_of_split {schema : Json} {nested fields : List (String × Json)} {names : List String}
    (hlists : Lists schema names) (h : splitDefinitions schema = .ok (nested, fields)) :
    Lists (.obj fields) names := by
  obtain ⟨entries, properties, rfl, hproperties, hkeys, hobjects, hunion, href⟩ := hlists
  simp only [splitDefinitions] at h
  split at h
  · cases h
    exact ⟨fields, properties, rfl, hproperties, hkeys, hobjects, hunion, href⟩
  · cases h
    refine ⟨_, properties, rfl, ?_, hkeys, hobjects, ?_, ?_⟩
    · rw [Table.get?_drop_of_ne _ (by decide), hproperties]
    · rw [Table.get?_drop_of_ne _ (by decide), hunion]
    · rw [Table.get?_drop_of_ne _ (by decide), href]
  · cases h

theorem get?_nullableEntries {fields result : List (String × Json)}
    (h : nullableEntries fields = .ok result) (key : String) :
    (∀ value, Table.get? fields key = some value →
        ∃ resolved, Table.get? result key = some resolved ∧ nullable value = .ok resolved) ∧
      (Table.get? fields key = none → Table.get? result key = none) := by
  induction fields generalizing result with
  | nil =>
      cases h
      refine ⟨fun _ hget => ?_, fun _ => rfl⟩
      cases hget
  | cons entry rest ih =>
      rcases entry with ⟨first, original⟩
      simp only [nullableEntries, bind_eq_ok, pure, Except.pure, Except.ok.injEq] at h
      obtain ⟨resolved, hresolved, others, hothers, rfl⟩ := h
      simp only [Table.get?]
      by_cases hkey : first = key
      · rw [if_pos hkey, if_pos hkey]
        refine ⟨fun value hvalue => ?_, fun hnone => ?_⟩
        · cases hvalue
          exact ⟨resolved, rfl, hresolved⟩
        · cases hnone
      · rw [if_neg hkey, if_neg hkey]
        exact ih hothers

/-- An object without a union is resolved entry by entry. -/
theorem nullable_obj_cases {fields : List (String × Json)} {result : Json}
    (h : nullable (.obj fields) = .ok result)
    (hunion : ∀ items, Table.get? fields "anyOf" ≠ some (.arr items)) :
    ∃ resolved, nullableEntries fields = .ok resolved ∧ result = .obj resolved := by
  simp only [nullable, bind_eq_ok, pure, Except.pure, Except.ok.injEq] at h
  obtain ⟨resolved, hresolved, unioned, hfields, rfl⟩ := h
  refine ⟨resolved, hresolved, ?_⟩
  rcases nullableFields_cases hfields with ⟨-, rfl⟩ | ⟨items, hitems, -⟩
  · rfl
  -- only a list is resolved to a list
  · cases hget : Table.get? fields "anyOf" with
    | none =>
        rw [(get?_nullableEntries hresolved "anyOf").2 hget] at hitems
        cases hitems
    | some value =>
        obtain ⟨own, hown, hnullable⟩ := (get?_nullableEntries hresolved "anyOf").1 value hget
        rw [hitems, Option.some.injEq] at hown
        subst hown
        cases value with
        | arr others => exact absurd hget (hunion others)
        | obj entries =>
            simp only [nullable, bind_eq_ok, pure, Except.pure, Except.ok.injEq] at hnullable
            obtain ⟨_, -, _, -, hobj⟩ := hnullable
            cases hobj
        | _ => cases hnullable

theorem lists_of_nullable {schema result : Json} {names : List String} (hlists : Lists schema names)
    (h : nullable schema = .ok result) : Lists result names := by
  obtain ⟨fields, properties, rfl, hproperties, hkeys, hobjects, hunion, href⟩ := hlists
  obtain ⟨resolved, hresolved, rfl⟩ := nullable_obj_cases h fun items hitems => by
    rw [hunion] at hitems
    cases hitems
  obtain ⟨inner, hinner, hnullable⟩ := (get?_nullableEntries hresolved "properties").1 _ hproperties
  -- a property called like a union is an object, so the properties are no union either
  obtain ⟨shown, hshown, rfl⟩ := nullable_obj_cases hnullable fun items hitems => by
    obtain ⟨_, hobject⟩ := hobjects _ (Table.mem_of_get? hitems)
    cases hobject
  refine ⟨resolved, shown, rfl, hinner, ?_, ?_, (get?_nullableEntries hresolved _).2 hunion,
    (get?_nullableEntries hresolved _).2 href⟩
  · exact (keys_nullableEntries hshown).trans hkeys
  · rintro ⟨name, value⟩ hentry
    obtain ⟨original, horiginal, hvalue⟩ := mem_of_mem_nullableEntries hshown hentry
    obtain ⟨entries, rfl⟩ := hobjects _ horiginal
    simp only [nullable, bind_eq_ok, pure, Except.pure, Except.ok.injEq] at hvalue
    obtain ⟨_, -, _, -, rfl⟩ := hvalue
    exact ⟨_, rfl⟩

theorem propertyNames_of_retarget {renames : Table String String} {schema result : Json}
    {names : List String} (hlists : Lists schema names) (h : retarget renames schema = .ok result) :
    ∃ properties, result.get? "properties" = some (.obj properties) ∧
      Table.keys properties = names := by
  obtain ⟨fields, properties, rfl, hproperties, hkeys, -, -, -⟩ := hlists
  simp only [retarget, bind_eq_ok, pure, Except.pure, Except.ok.injEq] at h
  obtain ⟨entries, hentries, last, hlast, rfl⟩ := h
  obtain ⟨inner, hinner, hretarget⟩ := get?_retargetEntries hentries hproperties
  simp only [retarget, bind_eq_ok, pure, Except.pure, Except.ok.injEq] at hretarget
  obtain ⟨renamed, hrenamed, shown, hshown, rfl⟩ := hretarget
  refine ⟨shown, ?_, ?_⟩
  · exact ((renameRef_cases hlast).2.1 "properties" (by decide)).trans hinner
  · rw [(renameRef_cases hshown).1, keys_retargetEntries hrenamed, hkeys]

/-- **The properties of a record reach the document under their names**, each once. -/
theorem keys_properties_of_component {model : Model} {start stop : Assembly} {value : Json}
    (hrecord : isRecord model = true) (h : Yields (component model) start value stop) :
    ∃ schema properties, rendered model = .ok schema ∧
      value.get? "properties" = some (.obj properties) ∧
      Table.keys properties = propertyNames schema ∧ (propertyNames schema).Nodup := by
  obtain ⟨hoisting, -, plain, hplain, hvalue⟩ := component_cases h
  obtain ⟨names, hdistinct, hlists⟩ := lists_of_rendered hrecord hoisting.rendered_eq
  obtain ⟨properties, hproperties, hkeys⟩ := propertyNames_of_retarget
    (lists_of_nullable (lists_of_split hlists hoisting.split_eq) hplain) hvalue
  refine ⟨hoisting.schema, properties, hoisting.rendered_eq, hproperties, ?_, ?_⟩
  · rw [hlists.propertyNames_eq, hkeys]
  · rwa [hlists.propertyNames_eq]

/-! ## Parameters -/

/-- An object is the parameter of a name at a place; in the path it is required. -/
structure IsParameter (spot : String × String) (parameter : Json) : Prop where
  name : parameter.get? "name" = some (.str spot.1)
  place : parameter.get? "in" = some (.str spot.2)
  required : spot.2 = Slot.path.name → parameter.get? "required" = some (.bool true)

theorem isParameter_of_parameter {location name : String} {required : List String}
    {property result : Json} (h : parameter location required name property = .ok result) :
    IsParameter (name, location) result := by
  simp only [parameter, bind_eq_ok, pure, Except.pure, Except.ok.injEq] at h
  obtain ⟨description, -, rfl⟩ := h
  refine ⟨rfl, rfl, ?_⟩
  rintro rfl
  rfl

theorem forall₂_propertyParameters {location : String} {required : List String}
    {properties : List (String × Json)} {result : List Json}
    (h : propertyParameters location required properties = .ok result) :
    List.Forall₂ IsParameter ((Table.keys properties).map fun name => (name, location)) result := by
  induction properties generalizing result with
  | nil =>
      cases h
      exact .nil
  | cons entry rest ih =>
      rcases entry with ⟨name, property⟩
      simp only [propertyParameters, bind_eq_ok, pure, Except.pure, Except.ok.injEq] at h
      obtain ⟨first, hfirst, others, hothers, rfl⟩ := h
      exact .cons (isParameter_of_parameter hfirst) (ih hothers)

/-- The names of the properties of the schema in a slot. An empty slot has none. -/
def slotNames (request : Request) (slot : Slot) : List String :=
  match request.get? slot with
  | none => []
  | some model =>
      match rendered model with
      | .ok schema => propertyNames schema
      | .error _ => []

/-- The names and places of the parameters that some slots stand for. -/
def spots (request : Request) (slots : List Slot) : List (String × String) :=
  slots.flatMap fun slot => (slotNames request slot).map fun name => (name, slot.name)

/-- The parameters of a record model. -/
theorem parameters_cases {model : Model} {location : String} {start stop : Assembly}
    {result : List Json} (hrecord : isRecord model = true)
    (h : Yields (parameters model location) start result stop) :
    ∃ schema, rendered model = .ok schema ∧ (propertyNames schema).Nodup ∧
      List.Forall₂ IsParameter ((propertyNames schema).map fun name => (name, location)) result := by
  rw [parameters] at h
  obtain ⟨value, middle, hvalue, hrest⟩ := yields_bind.1 h
  obtain ⟨schema, properties, hschema, hproperties, hkeys, hdistinct⟩ :=
    keys_properties_of_component hrecord hvalue
  obtain ⟨required, last, -, hlast⟩ := yields_bind.1 hrest
  refine ⟨schema, hschema, hdistinct, ?_⟩
  rw [hproperties] at hlast
  obtain ⟨hresult, -⟩ := yields_ofOutcome.1 hlast
  rw [← hkeys]
  exact forall₂_propertyParameters hresult

/-- **The parameters of a request** are those of the properties of its slots, slot by slot. -/
theorem requestParameters_cases {request : Request} {slots : List Slot} {start stop : Assembly}
    {result : List Json}
    (hrecords : ∀ slot ∈ slots, ∀ model ∈ request.get? slot, isRecord model = true)
    (h : Yields (requestParameters request slots) start result stop) :
    List.Forall₂ IsParameter (spots request slots) result ∧
      ∀ slot ∈ slots, (slotNames request slot).Nodup := by
  induction slots generalizing start result with
  | nil =>
      cases h
      exact ⟨.nil, by simp⟩
  | cons slot rest ih =>
      rw [List.forall_mem_cons] at hrecords
      rw [requestParameters] at h
      have hslot : ∃ first others middle,
          List.Forall₂ IsParameter ((slotNames request slot).map fun name => (name, slot.name)) first ∧
          (slotNames request slot).Nodup ∧
          Yields (requestParameters request rest) middle others stop ∧ result = first ++ others := by
        cases hget : request.get? slot with
        | none =>
            rw [hget] at h
            obtain ⟨first, middle, hfirst, hnext⟩ := yields_bind.1 h
            obtain ⟨rfl, rfl⟩ := yields_pure.1 hfirst
            obtain ⟨others, last, hothers, hpure⟩ := yields_bind.1 hnext
            obtain ⟨hresult, rfl⟩ := yields_pure.1 hpure
            exact ⟨[], others, _, by simp [slotNames, hget], by simp [slotNames, hget], hothers,
              hresult⟩
        | some model =>
            rw [hget] at h
            obtain ⟨first, middle, hfirst, hnext⟩ := yields_bind.1 h
            obtain ⟨others, last, hothers, hpure⟩ := yields_bind.1 hnext
            obtain ⟨rfl, rfl⟩ := yields_pure.1 hpure
            obtain ⟨schema, hschema, hdistinct, hparameters⟩ :=
              parameters_cases (hrecords.1 model hget) hfirst
            have hnames : slotNames request slot = propertyNames schema := by
              simp only [slotNames, hget, hschema]
            exact ⟨first, others, _, hnames ▸ hparameters, hnames ▸ hdistinct, hothers, rfl⟩
      obtain ⟨first, others, middle, hfirst, hdistinct, hothers, rfl⟩ := hslot
      obtain ⟨hrest, hrestDistinct⟩ := ih hrecords.2 hothers
      refine ⟨?_, List.forall_mem_cons.2 ⟨hdistinct, hrestDistinct⟩⟩
      rw [spots, List.flatMap_cons]
      exact List.rel_append hfirst hrest

/-- The parameters that an operation object declares. -/
def parametersOf (operation : Json) : List Json :=
  ((operation.get? "parameters").bind Json.arr?).getD []

/-- The entries of an operation object. -/
theorem exists_operation {record : Record} {start stop : Assembly} {value : Json}
    (h : Yields (operation record) start value stop) : ∃ parameters middle body responses,
      Yields (requestParameters record.request parameterOrder) start parameters middle ∧
      (∀ key, key ≠ "requestBody" → Table.get? body key = none) ∧
      value = .obj ([("summary", .str record.summary), ("tags", .arr [.str record.tag])]
        ++ textEntry "description" (record.description.getD "")
        ++ listEntry "security" (record.security.map fun name => .obj [(name, .arr [])])
        ++ listEntry "parameters" parameters ++ body
        ++ [("responses", .obj (if responses.isEmpty then unspecifiedResponse else responses))]) := by
  rw [operation] at h
  obtain ⟨parameters, middle, hparameters, hrest⟩ := yields_bind.1 h
  cases hbody : record.request.body with
  | none =>
      rw [hbody] at hrest
      obtain ⟨body, _, hempty, hnext⟩ := yields_bind.1 hrest
      obtain ⟨rfl, -⟩ := yields_pure.1 hempty
      obtain ⟨responses, _, -, hpure⟩ := yields_bind.1 hnext
      exact ⟨parameters, middle, [], responses, hparameters, fun _ _ => rfl, (yields_pure.1 hpure).1⟩
  | some model =>
      rw [hbody] at hrest
      obtain ⟨schema, _, -, hnext⟩ := yields_bind.1 hrest
      obtain ⟨body, _, hentry, hresponses⟩ := yields_bind.1 hnext
      obtain ⟨rfl, -⟩ := yields_pure.1 hentry
      obtain ⟨responses, _, -, hpure⟩ := yields_bind.1 hresponses
      exact ⟨parameters, middle, _, responses, hparameters,
        fun key hkey => by simp [Table.get?, Ne.symm hkey], (yields_pure.1 hpure).1⟩

/-- **An operation object declares the parameters of its record**: one for each property of its path,
query and header schemas. -/
theorem operation_cases {record : Record} {start stop : Assembly} {value : Json}
    (hrecords : ∀ slot ∈ parameterOrder, ∀ model ∈ record.request.get? slot, isRecord model = true)
    (h : Yields (operation record) start value stop) :
    ∃ fields, value = .obj fields ∧
      parameterItems (Table.get? fields "parameters") = .ok (parametersOf value) ∧
      List.Forall₂ IsParameter (spots record.request parameterOrder) (parametersOf value) ∧
      ∀ slot ∈ parameterOrder, (slotNames record.request slot).Nodup := by
  obtain ⟨parameters, middle, body, responses, hparameters, hbody, hvalue⟩ := exists_operation h
  obtain ⟨hspots, hdistinct⟩ := requestParameters_cases hrecords hparameters
  have hget : value.get? "parameters" = Table.get? (listEntry "parameters" parameters) "parameters" := by
    rw [hvalue]
    simp only [Json.get?, Table.get?_append,
      get?_textEntry_of_ne (show "description" ≠ "parameters" by decide),
      get?_listEntry_of_ne (show "security" ≠ "parameters" by decide),
      hbody "parameters" (by decide)]
    simp [Table.get?]
  -- an empty list of parameters is left out, and none are read then
  have hread : parameterItems (value.get? "parameters") = .ok parameters ∧
      parametersOf value = parameters := by
    rw [parametersOf, hget]
    cases parameters with
    | nil => exact ⟨rfl, rfl⟩
    | cons first others => exact ⟨rfl, rfl⟩
  obtain ⟨hitems, hdeclared⟩ := hread
  rw [hdeclared]
  rw [hvalue] at hitems
  exact ⟨_, hvalue, hitems, hspots, hdistinct⟩

end OpenApi

end RouteAtlas
