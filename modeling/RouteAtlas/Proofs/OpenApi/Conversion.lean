import RouteAtlas.Proofs.OpenApi.Meaning
import RouteAtlas.Proofs.OpenApi.Repeating

/-!
# Models that become components

A model becomes a component exactly if its schema can be rendered, resolved and renamed
(`component_succeeds_iff`), whatever components there are. A schema that is given can fail at renaming: a
property that is called like a reference is looked up as one. A record never does. Rendering refuses a record
with such a property, or with data that looks like it, and puts nothing under the key of references by itself
but the name of a definition (`placesRefs_rendered`); so a record becomes a component exactly if it can be
rendered (`record_succeeds_iff`).
-/

set_option autoImplicit false

namespace RouteAtlas.OpenApi

open Schema Step Text

/-! ## Calls that succeed -/

/-- **A model becomes a component exactly if it can be rendered and resolved, and no object in the result has
a list or an object for its reference**, whatever components there are. -/
theorem component_succeeds_iff {model : Model} {start : Assembly} :
    (∃ value stop, Yields (component model) start value stop) ↔
      ∃ schema nested fields definitions plain, rendered model = .ok schema ∧
        splitDefinitions schema = .ok (nested, fields) ∧ nullableEntries nested = .ok definitions ∧
        nullable (.obj fields) = .ok plain ∧
        (∀ entry ∈ definitions, NestedRefFree entry.2) ∧ NestedRefFree plain := by
  constructor
  · rintro ⟨value, stop, h⟩
    obtain ⟨hoisting, hregister, plain, hplain, hvalue⟩ := component_cases h
    refine ⟨hoisting.schema, hoisting.nested, hoisting.fields, hoisting.definitions, plain,
      hoisting.rendered_eq, hoisting.split_eq, hoisting.definitions_eq, hplain, fun entry hentry => ?_, ?_⟩
    · exact (retarget_succeedsIf _ entry.2).isOk_iff.1
        (hoisting.exists_retarget hregister entry hentry hoisting.renames)
    · exact (retarget_succeedsIf _ plain).isOk_iff.1 ⟨value, hvalue⟩
  · rintro ⟨schema, nested, fields, definitions, plain, hschema, hsplit, hdefinitions, hplain, hfree, hrest⟩
    -- the rounds of naming and the registering rename in different ways, and all of them succeed alike
    have hretargets : ∀ entry ∈ definitions, ∀ renames, ∃ result, retarget renames entry.2 = .ok result :=
      fun entry hentry renames => (retarget_succeedsIf renames entry.2).isOk_iff.2 (hfree entry hentry)
    obtain ⟨names, hnames⟩ := exists_settle start.components hretargets (definitions.length + 1)
      (definitions.map fun entry => (entry.1, entry.1))
    obtain ⟨stop, hregister⟩ := exists_registerAll model.name
      (fun entry hentry => hretargets entry hentry (renamedTargets names)) start
    obtain ⟨value, hvalue⟩ := (retarget_succeedsIf (renamedTargets names) plain).isOk_iff.2 hrest
    let hoisting : Hoisting model start.components :=
      ⟨schema, nested, fields, definitions, names, hschema, hsplit, hdefinitions, hnames⟩
    exact ⟨value, stop, yields_component hoisting hregister hplain hvalue⟩

/-! ## References in their place -/

/-- No entry of an object in a value is for a reference and is a list or an object. -/
def PlacesRefs (json : Json) : Prop :=
  EveryObject (fun fields => ∀ entry ∈ fields, entry.1 = "$ref" → IsLeaf entry.2) json

/-- An entry is not for a reference, or it is neither a list nor an object, and so it is inside. -/
structure IsPlaced (entry : String × Json) : Prop where
  own : entry.1 = "$ref" → IsLeaf entry.2
  inner : PlacesRefs entry.2

theorem placesRefs_leaf {json : Json} (h : IsLeaf json) : PlacesRefs json := everyObject_leaf h.1 h.2

theorem placesRefs_obj {fields : List (String × Json)} :
    PlacesRefs (.obj fields) ↔ ∀ entry ∈ fields, IsPlaced entry := by
  rw [PlacesRefs, everyObject_obj, ← forall₂_and]
  exact forall₂_congr fun entry _ => ⟨fun h => ⟨h.1, h.2⟩, fun h => ⟨h.own, h.inner⟩⟩

theorem isPlaced_of_leaf {entry : String × Json} (h : IsLeaf entry.2) : IsPlaced entry :=
  ⟨fun _ => h, placesRefs_leaf h⟩

theorem isPlaced_of_ne {entry : String × Json} (hkey : entry.1 ≠ "$ref") (h : PlacesRefs entry.2) :
    IsPlaced entry := ⟨fun href => absurd href hkey, h⟩

theorem PlacesRefs.nestedRefFree {json : Json} (h : PlacesRefs json) : NestedRefFree json := by
  rintro fields hwithin ⟨value, hvalue, hnotLeaf⟩
  exact hnotLeaf (h fields hwithin _ (Table.mem_of_get? hvalue) rfl)

/-- Resolving unions with null leaves references in their place. -/
theorem PlacesRefs.nullable {json result : Json} (hjson : PlacesRefs json)
    (h : nullable json = .ok result) : PlacesRefs result := by
  induction json using Json.induction_members generalizing result with
  | leaf json harr hobj =>
      rw [nullable_leaf harr hobj] at h
      cases h
      exact hjson
  | arr items ih =>
      obtain ⟨resolved, hitems, rfl⟩ := nullable_arr_eq_ok.1 h
      refine everyObject_arr.2 fun value hvalue => ?_
      obtain ⟨item, hitem, hnullable⟩ := mem_nullableItems hitems hvalue
      exact ih item hitem (everyObject_arr.1 hjson item hitem) hnullable
  | obj fields ih =>
      obtain ⟨entries, hentries, resolved, hfields, rfl⟩ := nullable_obj_eq_ok.1 h
      have hplaced : ∀ entry ∈ entries, IsPlaced entry := by
        rintro ⟨key, value⟩ hentry
        obtain ⟨original, horiginal, hnullable⟩ := mem_of_mem_nullableEntries hentries hentry
        have hentry := placesRefs_obj.1 hjson _ horiginal
        refine ⟨fun hkey => ?_, ih _ horiginal hentry.inner hnullable⟩
        have hleaf := hentry.own hkey
        rw [nullable_leaf hleaf.1 hleaf.2] at hnullable
        exact Except.ok.inj hnullable ▸ hleaf
      have hvariants : ∀ {variants : List Json}, ("anyOf", Json.arr variants) ∈ entries →
          ∀ variant ∈ variants, PlacesRefs variant :=
        fun hunion => everyObject_arr.1 (hplaced _ hunion).inner
      refine placesRefs_obj.2 (forall_mem_nullableFields hfields hplaced ?_ ?_ (isPlaced_of_leaf ⟨rfl, rfl⟩))
      -- the member that is left brings in its entries, and they were in their place inside the union
      · exact fun variants member hunion hmem => placesRefs_obj.1 (hvariants hunion _ hmem)
      · intro variants hunion
        refine isPlaced_of_ne (by simp) (everyObject_arr.2 fun variant hvariant => ?_)
        exact hvariants hunion variant (mem_otherVariants.1 hvariant).1

/-- So does sorting. -/
theorem PlacesRefs.arrange {json : Json} (h : PlacesRefs json) (isKept : Bool) :
    PlacesRefs (arrange isKept json) := by
  refine everyObject_arrange (fun fields arranged hperm _ hplaced => ?_) h isKept
  rintro ⟨key, value⟩ hentry hkey
  obtain ⟨original, horiginal, rfl⟩ := mem_arrangeFields (hperm.mem_iff.1 hentry)
  have hleaf := hplaced _ horiginal hkey
  rw [arrange_leaf hleaf.1 hleaf.2]
  exact hleaf

/-! ## Data -/

theorem misplacesInItems_eq_false_iff {items : List Json} :
    misplacesInItems items = false ↔ ∀ item ∈ items, misplacesReference item = false := by
  induction items with
  | nil => simp [misplacesInItems]
  | cons item rest ih => rw [misplacesInItems, Bool.or_eq_false_iff, ih, List.forall_mem_cons]

theorem misplacesInFields_eq_false_iff {fields : Entries} :
    misplacesInFields fields = false ↔
      ∀ entry ∈ fields, (entry.1 = "$ref" → IsLeaf entry.2) ∧ misplacesReference entry.2 = false := by
  induction fields with
  | nil => simp [misplacesInFields]
  | cons entry rest ih =>
      rcases entry with ⟨key, value⟩
      rw [List.forall_mem_cons, ← ih]
      cases value with
      | arr items => simp [misplacesInFields, misplacesReference, IsLeaf, Json.arr?, referenceKey]
      | obj inner => simp [misplacesInFields, misplacesReference, IsLeaf, Json.obj?, referenceKey]
      | _ => simp [misplacesInFields, misplacesReference, IsLeaf, Json.arr?, Json.obj?]

/-- What is checked of the data of a model is that references are in their place. -/
theorem misplacesReference_eq_false_iff {json : Json} :
    misplacesReference json = false ↔ PlacesRefs json := by
  induction json using Json.induction_members with
  | leaf json harr hobj =>
      refine iff_of_true ?_ (placesRefs_leaf ⟨harr, hobj⟩)
      cases json with
      | arr items => cases harr
      | obj fields => cases hobj
      | _ => rfl
  | arr items ih =>
      rw [misplacesReference, misplacesInItems_eq_false_iff, PlacesRefs, everyObject_arr]
      exact forall₂_congr ih
  | obj fields ih =>
      rw [misplacesReference, misplacesInFields_eq_false_iff, placesRefs_obj]
      refine forall₂_congr fun entry hentry => ?_
      exact ⟨fun h => ⟨h.1, (ih entry hentry).1 h.2⟩, fun h => ⟨h.own, (ih entry hentry).2 h.inner⟩⟩

/-! ## Types and fields -/

theorem isPlaced_settingEntry {key : String} {value : Option Json}
    (h : ∀ setting ∈ value, IsPlaced (key, setting)) : ∀ entry ∈ settingEntry key value, IsPlaced entry := by
  rintro ⟨first, setting⟩ hentry
  obtain ⟨rfl, hvalue⟩ := mem_settingEntry hentry
  exact h setting hvalue.symm

/-- A setting of texts or of numbers can stand under any key. -/
theorem isPlaced_setting {α : Type} {json : α → Json} (hleaf : ∀ value, IsLeaf (json value)) (key : String)
    (value : Option α) : ∀ entry ∈ settingEntry key (value.map json), IsPlaced entry := by
  refine isPlaced_settingEntry fun setting hsetting => ?_
  obtain ⟨shown, -, rfl⟩ := Option.map_eq_some_iff.1 hsetting
  exact isPlaced_of_leaf (hleaf shown)

theorem isLeaf_str (text : String) : IsLeaf (.str text) := ⟨rfl, rfl⟩

theorem isLeaf_num (number : Number) : IsLeaf (.num number) := ⟨rfl, rfl⟩

theorem placesRefs_anyOf {options : List Entries} (h : ∀ entries ∈ options, PlacesRefs (.obj entries)) :
    PlacesRefs (.obj (anyOf options)) := by
  obtain ⟨members, hmembers, hshape⟩ := anyOf_cases options
  have hplaced : ∀ member ∈ members, PlacesRefs member := by
    intro member hmember
    obtain ⟨entries, hentries, halternative⟩ := hmembers member hmember
    rcases alternatives_cases entries with ⟨items, rfl, hitems⟩ | hself
    · rw [hitems] at halternative
      have hunion := placesRefs_obj.1 (h _ hentries) _ List.mem_cons_self
      exact everyObject_arr.1 hunion.inner member halternative
    · rw [hself] at halternative
      exact List.mem_singleton.1 halternative ▸ h entries hentries
  rcases hshape with hone | hlist
  · exact hplaced _ (hone ▸ List.mem_singleton_self _)
  · rw [hlist, placesRefs_obj, List.forall_mem_singleton]
    exact isPlaced_of_ne (by simp) (everyObject_arr.2 hplaced)

theorem placesRefs_withNull {entries : Entries} (h : PlacesRefs (.obj entries)) :
    PlacesRefs (.obj (withNull entries)) := by
  have hnull : PlacesRefs (.obj nullEntries) :=
    placesRefs_obj.2 (List.forall_mem_singleton.2 (isPlaced_of_leaf ⟨rfl, rfl⟩))
  rw [withNull]
  split
  · exact hnull
  · refine placesRefs_anyOf ?_
    rw [List.forall_mem_cons, List.forall_mem_singleton]
    exact ⟨h, hnull⟩

/-- **The schema of a type has its references in their place** if its literal values have. -/
theorem placesRefs_entries (refTo : String → String) {type : FieldType}
    (h : ∀ value ∈ type.literals, PlacesRefs value) : PlacesRefs (.obj (type.entries refTo)) := by
  induction type using FieldType.induction_parts with
  | step type ih =>
      have hparts : ∀ part ∈ type.parts, PlacesRefs (.obj (part.entries refTo)) :=
        fun part hpart => ih part hpart fun value hvalue => h value (mem_literals_of_part hpart hvalue)
      cases type with
      | list item =>
          rw [FieldType.entries, placesRefs_obj, List.forall_mem_cons, List.forall_mem_singleton]
          refine ⟨isPlaced_of_leaf ⟨rfl, rfl⟩, isPlaced_of_ne (by simp) ?_⟩
          exact hparts item (List.mem_singleton_self item)
      | mapping value =>
          rw [FieldType.entries, placesRefs_obj, List.forall_mem_cons, List.forall_mem_singleton]
          refine ⟨isPlaced_of_leaf ⟨rfl, rfl⟩, isPlaced_of_ne (by simp) ?_⟩
          split
          · exact placesRefs_leaf ⟨rfl, rfl⟩
          · exact hparts value (List.mem_singleton_self value)
      | optional inner =>
          rw [FieldType.entries]
          exact placesRefs_withNull (hparts inner (List.mem_singleton_self inner))
      | union options =>
          have hoptions : PlacesRefs (.obj (anyOf (optionEntries refTo options))) := by
            refine placesRefs_anyOf fun entries hentries => ?_
            obtain ⟨option, hoption, rfl⟩ := mem_optionEntries hentries
            exact hparts option hoption
          rw [FieldType.entries]
          split
          · exact placesRefs_withNull hoptions
          · exact hoptions
      | literal values =>
          rw [FieldType.literals] at h
          obtain ⟨first, hentries, hfirst⟩ := literalEntries_cases values
          rw [FieldType.entries, hentries, placesRefs_obj, List.forall_mem_cons]
          refine ⟨?_, isPlaced_setting isLeaf_str _ _⟩
          rcases hfirst with ⟨value, hvalue, rfl⟩ | rfl
          · exact isPlaced_of_ne (by simp) (h value hvalue)
          · exact isPlaced_of_ne (by simp) (everyObject_arr.2 h)
      | bytes =>
          rw [FieldType.entries, placesRefs_obj, List.forall_mem_cons, List.forall_mem_singleton]
          exact ⟨isPlaced_of_leaf ⟨rfl, rfl⟩, isPlaced_of_leaf ⟨rfl, rfl⟩⟩
      | anything =>
          rw [FieldType.entries, placesRefs_obj]
          simp
      | _ =>
          -- what stands under the key of references by itself is a text
          rw [FieldType.entries, placesRefs_obj]
          exact List.forall_mem_singleton.2 (isPlaced_of_leaf ⟨rfl, rfl⟩)

theorem isPlaced_constraints (constraints : Constraints) (type : FieldType) :
    ∀ entry ∈ constraints.entries type, IsPlaced entry := by
  have hbounds : ∀ entry ∈ constraints.bounds type, IsPlaced entry := by
    intro entry hentry
    simp only [Constraints.bounds, Constraints.bounds.numeric] at hentry
    split at hentry
    all_goals
      simp only [List.mem_append] at hentry
      rcases hentry with ((h | h) | h) | h
      all_goals exact isPlaced_setting isLeaf_num _ _ entry h
  intro entry hentry
  simp only [Constraints.entries, List.mem_append] at hentry
  rcases hentry with ((hbound | hleast) | hgreatest) | hpattern
  · exact hbounds entry hbound
  · exact isPlaced_setting isLeaf_num _ _ entry hleast
  · exact isPlaced_setting isLeaf_num _ _ entry hgreatest
  · exact isPlaced_setting isLeaf_str _ _ entry hpattern

/-- **So has the schema of a field** if its default and its literal values have. -/
theorem placesRefs_property (refTo : String → String) {field : Field}
    (hfallback : ∀ value ∈ field.settings.fallback, PlacesRefs value)
    (hliterals : ∀ value ∈ field.type.literals, PlacesRefs value) :
    PlacesRefs (.obj (field.property refTo)) := by
  have hinner : PlacesRefs (.obj (field.type.normal.withoutNull.entries refTo)) :=
    placesRefs_entries refTo fun value hvalue => hliterals value (mem_literals_of_withoutNull hvalue)
  have hconstrained : PlacesRefs (.obj (field.type.normal.withoutNull.entries refTo ++
      field.settings.constraints.entries field.type.normal.withoutNull)) :=
    placesRefs_obj.2 (List.forall_mem_append.2 ⟨placesRefs_obj.1 hinner, isPlaced_constraints _ _⟩)
  simp only [Field.property, placesRefs_obj, List.forall_mem_append]
  refine ⟨⟨⟨⟨?_, ?_⟩, isPlaced_setting isLeaf_str _ _⟩, isPlaced_setting isLeaf_str _ _⟩, ?_⟩
  · split
    · exact placesRefs_obj.1 (placesRefs_withNull hconstrained)
    · exact placesRefs_obj.1 hconstrained
  · exact isPlaced_settingEntry fun value hvalue => isPlaced_of_ne (by simp) (hfallback value hvalue)
  · intro entry hentry
    obtain ⟨-, htitle⟩ := List.mem_ite_nil_left.1 hentry
    exact List.mem_singleton.1 htitle ▸ isPlaced_of_leaf ⟨rfl, rfl⟩

/-! ## Records -/

/-- Nothing in a model is mistaken for a reference: no field is called like one, and no data of its fields
refers to a definition or has a list or an object for a reference. -/
def MimicsNoRef (model : Model) : Prop :=
  "$ref" ∉ model.fields.map Field.key ∧
    ∀ value ∈ model.data, refersInside value = false ∧ misplacesReference value = false

theorem checkReferences_eq_ok_iff {model : Model} :
    model.checkReferences = .ok () ↔ ∀ part ∈ model :: model.nested, MimicsNoRef part := by
  have hkey : ∀ part : Model,
      isKeyOf part.fields referenceKey = false ↔ "$ref" ∉ part.fields.map Field.key := by
    intro part
    rw [isKeyOf, List.any_eq_false, List.mem_map]
    simp [referenceKey]
  simp only [Model.checkReferences]
  constructor
  · intro h
    split at h
    · cases h
    · rename_i hdangling
      split at h
      · cases h
      · rename_i hmisplaced
        simp only [Bool.not_eq_true, List.any_eq_false, Bool.or_eq_true, not_or] at hdangling hmisplaced
        intro part hpart
        have hown := hmisplaced part hpart
        refine ⟨(hkey part).1 hown.1, fun value hvalue => ⟨hdangling part hpart value hvalue, ?_⟩⟩
        exact hown.2 value hvalue
  · intro h
    rw [if_neg, if_neg]
    · simp only [Bool.not_eq_true, List.any_eq_false, Bool.or_eq_true, not_or]
      intro part hpart
      exact ⟨(hkey part).2 (h part hpart).1, fun value hvalue => ((h part hpart).2 value hvalue).2⟩
    · simp only [Bool.not_eq_true, List.any_eq_false]
      exact fun part hpart value hvalue => ((h part hpart).2 value hvalue).1

/-- The body of a record has its references in their place. -/
theorem placesRefs_body (refTo : String → String) {model : Model} (hrecord : isRecord model = true)
    (h : MimicsNoRef model) : PlacesRefs (.obj (model.body refTo)) := by
  cases model with
  | given identity name schema => cases hrecord
  | record identity name doc extra fields =>
      have hdata : ∀ field ∈ shownFields fields, (∀ value ∈ field.settings.fallback, PlacesRefs value) ∧
          ∀ value ∈ field.type.literals, PlacesRefs value := by
        intro field hfield
        have hplaced : ∀ value ∈ field.settings.fallback.toList ++ field.type.literals, PlacesRefs value :=
          fun value hvalue => misplacesReference_eq_false_iff.1
            (h.2 value (List.mem_flatMap.2 ⟨field, hfield, hvalue⟩)).2
        rw [List.forall_mem_append] at hplaced
        exact ⟨fun value hvalue => hplaced.1 value (Option.mem_toList.2 hvalue), hplaced.2⟩
      -- the names of the properties are the only keys of a body that are up to the record
      have hproperties : ∀ entry ∈ properties refTo fields, IsPlaced entry := by
        intro entry hentry
        obtain ⟨field, hfield, hvalue⟩ := exists_shown_of_property hentry
        refine isPlaced_of_ne (fun hkey => h.1 ?_) (hvalue ▸ placesRefs_property refTo (hdata field hfield).1
          (hdata field hfield).2)
        obtain ⟨own, hown, rfl⟩ := List.mem_map.1 (Table.mem_of_mem_ofList hentry)
        exact hkey ▸ List.mem_map_of_mem hown
      simp only [Model.body, placesRefs_obj, List.forall_mem_append]
      refine ⟨⟨⟨⟨?_, ?_⟩, ?_⟩, isPlaced_setting isLeaf_str _ _⟩, ?_⟩
      · rw [List.forall_mem_cons, List.forall_mem_singleton]
        exact ⟨isPlaced_of_leaf ⟨rfl, rfl⟩, isPlaced_of_ne (by simp) (placesRefs_obj.2 hproperties)⟩
      · split
        · simp
        · rw [List.forall_mem_singleton]
          refine isPlaced_of_ne (by simp) (everyObject_arr.2 ?_)
          exact List.forall_mem_map.2 fun key _ => placesRefs_leaf ⟨rfl, rfl⟩
      · exact List.forall_mem_singleton.2 (isPlaced_of_leaf ⟨rfl, rfl⟩)
      · cases extra with
        | ignore => simp
        | allow => exact List.forall_mem_singleton.2 (isPlaced_of_leaf ⟨rfl, rfl⟩)
        | forbid => exact List.forall_mem_singleton.2 (isPlaced_of_leaf ⟨rfl, rfl⟩)

/-- No definition is called like a reference: of the characters of ASCII its name keeps no dollar. -/
theorem definitionName_ne (name : String) : definitionName name ≠ "$ref" := by
  intro h
  have hdollar : '$' ∈ (definitionName name).toList := by
    rw [h]
    decide
  rw [definitionName, String.toList_ofList, List.mem_flatMap] at hdollar
  obtain ⟨c, -, hc⟩ := hdollar
  rw [plainCharacter] at hc
  split at hc
  · rename_i hkept
    rw [← List.mem_singleton.1 hc] at hkept
    exact absurd hkept (by decide)
  · split at hc
    · simp at hc
    · simp at hc

/-- **A record that is rendered has its references in their place**, and so have its definitions. -/
theorem placesRefs_rendered {model : Model} {schema : Json}
    (hrecords : ∀ part ∈ model :: model.nested, isRecord part = true) (h : rendered model = .ok schema) :
    PlacesRefs schema := by
  rw [List.forall_mem_cons] at hrecords
  cases model with
  | given identity name given => cases hrecords.1
  | record identity name doc extra fields =>
      obtain ⟨hcheck, rfl⟩ := schema_record_iff.1 (schema_of_rendered h)
      have hparts := List.forall_mem_cons.1 (checkReferences_eq_ok_iff.1 hcheck)
      refine PlacesRefs.arrange (placesRefs_obj.2 (List.forall_mem_append.2 ⟨?_, ?_⟩)) false
      · exact placesRefs_obj.1 (placesRefs_body refTo hrecords.1 hparts.1)
      · rcases definitionEntry_cases refTo (.record identity name doc extra fields) with hnone | hsome
        · simp [hnone]
        · rw [hsome, List.forall_mem_singleton]
          refine isPlaced_of_ne (by simp) (placesRefs_obj.2 fun entry hentry => ?_)
          obtain ⟨nested, hnested, rfl⟩ := List.mem_map.1 (Table.mem_of_mem_ofList hentry)
          refine isPlaced_of_ne (definitionName_ne nested.name) ?_
          exact placesRefs_body refTo (hrecords.2 nested hnested) (hparts.2 nested hnested)

theorem placesRefs_split {schema : Json} {nested fields : List (String × Json)} (hschema : PlacesRefs schema)
    (h : splitDefinitions schema = .ok (nested, fields)) :
    (∀ entry ∈ nested, PlacesRefs entry.2) ∧ PlacesRefs (.obj fields) := by
  cases schema with
  | obj entries =>
      have hentries := placesRefs_obj.1 hschema
      rw [splitDefinitions] at h
      split at h
      · cases h
        exact ⟨by simp, hschema⟩
      · rename_i definitions hdefinitions
        cases h
        refine ⟨fun entry hentry => ?_, placesRefs_obj.2 fun entry hentry => ?_⟩
        · exact (placesRefs_obj.1 (hentries _ (Table.mem_of_get? hdefinitions)).inner entry hentry).inner
        · exact hentries entry (Table.mem_of_mem_drop hentry)
      · cases h
  | _ => cases h

/-- **A record becomes a component exactly if nothing in it is mistaken for a reference**, whatever components
there are, as long as its data does not keep unions with null from being resolved. -/
theorem record_succeeds_iff {model : Model}
    (hmodels : ∀ part ∈ model :: model.nested, isRecord part = true ∧ HasPlainData part) {start : Assembly} :
    (∃ value stop, Yields (component model) start value stop) ↔
      ∀ part ∈ model :: model.nested, MimicsNoRef part := by
  have hrendered : model.checkReferences = .ok () ↔ ∃ schema, rendered model = .ok schema := by
    cases model with
    | given identity name given => cases (hmodels _ List.mem_cons_self).1
    | record identity name doc extra fields =>
        constructor
        · intro hcheck
          have hschema := (@schema_record_iff refTo identity name doc extra fields _).2 ⟨hcheck, rfl⟩
          exact ⟨_, by rw [rendered, hschema]; rfl⟩
        · rintro ⟨schema, hschema⟩
          exact (schema_record_iff.1 (schema_of_rendered hschema)).1
  rw [← checkReferences_eq_ok_iff, hrendered, component_succeeds_iff]
  refine exists_congr fun schema => ⟨?_, fun hschema => ?_⟩
  · rintro ⟨_, _, _, _, hschema, -⟩
    exact hschema
  obtain ⟨nested, fields, hsplit, hnested, hfields, -⟩ := tidy_of_rendered hmodels hschema
  obtain ⟨definitions, hdefinitions⟩ := nullableEntries_isOk_iff.2 fun entry hentry =>
    nullable_isOk_iff.2 (hnested entry hentry).strayFree
  obtain ⟨plain, hplain⟩ := nullable_isOk_iff.2 hfields.strayFree
  -- what is resolved keeps references in their place, so that renaming can look them up
  have hplaced := placesRefs_rendered (fun part hpart => (hmodels part hpart).1) hschema
  obtain ⟨hnestedPlaced, hfieldsPlaced⟩ := placesRefs_split hplaced hsplit
  refine ⟨nested, fields, definitions, plain, hschema, hsplit, hdefinitions, hplain, ?_, ?_⟩
  · rintro ⟨key, value⟩ hentry
    obtain ⟨original, horiginal, hnullable⟩ := mem_of_mem_nullableEntries hdefinitions hentry
    exact ((hnestedPlaced _ horiginal).nullable hnullable).nestedRefFree
  · exact (hfieldsPlaced.nullable hplain).nestedRefFree

/-! ## What renaming fails at -/

/-- **Renaming fails at references that are lists or objects, and at nothing else.** Elsewhere it gives the
value with each text under the key of references changed to its new target, once, and all else as it was. So a
model becomes a component exactly if it can be rendered and resolved, and no object in the result has such a
reference. A record whose data does not keep unions with null from being resolved becomes one exactly if
nothing in it is mistaken for a reference, in particular no field is called like one. -/
theorem renaming_fails_iff_nestedRef (renames : Table String String) (json : Json) (model : Model)
    (start : Assembly) :
    ((NestedRefFree json ∧ ∃ result, retarget renames json = .ok result ∧
        (hasDistinctKeys json = true → result = changeTexts (newTarget renames) json)) ∨
      ¬ NestedRefFree json ∧ retarget renames json = .error .wrongKind) ∧
    ((∃ value stop, Yields (component model) start value stop) ↔
      ∃ schema nested fields definitions plain, rendered model = .ok schema ∧
        splitDefinitions schema = .ok (nested, fields) ∧ nullableEntries nested = .ok definitions ∧
        nullable (.obj fields) = .ok plain ∧
        (∀ entry ∈ definitions, NestedRefFree entry.2) ∧ NestedRefFree plain) ∧
    ((∀ part ∈ model :: model.nested, isRecord part = true ∧ HasPlainData part) →
      ((∃ value stop, Yields (component model) start value stop) ↔
        ∀ part ∈ model :: model.nested, MimicsNoRef part)) := by
  refine ⟨?_, component_succeeds_iff, fun hmodels => record_succeeds_iff hmodels⟩
  rcases retarget_succeedsIf renames json with ⟨hfree, result, hresult⟩ | hfails
  · exact .inl ⟨hfree, result, hresult, fun hdistinct => retarget_eq_changeTexts hdistinct hresult⟩
  · exact .inr hfails

/-- A reference, and a list and a text that are none. -/
def leadNote (target : String) : Json :=
  .obj [("lead", .obj [("$ref", .str target)]), ("names", .arr [.str "a"]), ("note", .str "a")]

/-- A reference is changed once, also where its new target has a new target too, and no other text is. A team
becomes a component. -/
theorem leadNote_renamed : retarget [("a", "b"), ("b", "c")] (leadNote "a") = .ok (leadNote "b") ∧
    ∃ value stop, Yields (component team) {} value stop := by
  obtain ⟨hrenaming, -, hrecord⟩ :=
    renaming_fails_iff_nestedRef [("a", "b"), ("b", "c")] (leadNote "a") team {}
  constructor
  · rcases hrenaming with ⟨-, result, hresult, hvalue⟩ | ⟨-, hfails⟩
    · rw [hresult, hvalue (by decide)]
      rfl
    · cases hfails
  · have hmodels : ∀ part ∈ [team, person], isRecord part = true ∧ HasPlainData part := by
      rw [List.forall_mem_cons, List.forall_mem_singleton]
      exact ⟨⟨rfl, hasPlainData_team⟩, rfl, hasPlainData_person⟩
    exact (hrecord hmodels).2 (checkReferences_eq_ok_iff.1 rfl)

/-- A schema with a property that is called like a reference. -/
def refProperty : Json :=
  .obj [("type", .str "object"), ("properties", .obj [("$ref", .obj [("type", .str "string")])])]

/-- A record with a field that is called like a reference. -/
def refRecord : Model := .record default "M" none .ignore [.mk "ref" .text { publicName := some "$ref" }]

/-- Renaming fails at the property, whatever is renamed; so neither the schema nor the record becomes a
component. -/
theorem ref_property_fails : hasDistinctKeys refProperty = true ∧
    retarget [("a", "b")] refProperty = .error .wrongKind ∧
    (result (component (.given default "M" refProperty)) {}).1 = .error .wrongKind ∧
    (result (component refRecord) {}).1 = .error .wrongKind := by
  refine ⟨by decide, rfl, ?_, ?_⟩
  · rfl
  · rfl

end RouteAtlas.OpenApi
