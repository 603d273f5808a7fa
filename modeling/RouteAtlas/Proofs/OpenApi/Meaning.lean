import RouteAtlas.Proofs.OpenApi.Ordering
import RouteAtlas.Proofs.Schema.Types

/-!
# The meaning of rendered schemas

The schema of a record is tidy: a union with null comes from a type, and nothing that says something about
values is ever put beside it, since the constraints of a field go to its type without null. So resolving
unions keeps which values are valid for the schema of a record, with the definitions of all that it is made
of (`nullable_keeps_meaning`). Data is the exception: a default or a literal value can look like a union
with null and is then taken for one (`data_taken_for_unions`).
-/

set_option autoImplicit false

namespace RouteAtlas.OpenApi

open Schema

/-! ## Tidy objects -/

/-- An object without a union with null is tidy if its entries are. -/
theorem tidy_of_no_union {fields : Entries} (h : ∀ entry ∈ fields, Tidy (.under entry.1) entry.2)
    (hunmarked : "nullable" ∉ Table.keys fields)
    (hunion : ∀ variants, ("anyOf", .arr variants) ∈ fields → nullSchema ∉ variants) :
    Tidy .schema (.obj fields) :=
  .obj h hunmarked fun variants hmem hnull => absurd hnull (hunion variants hmem)

theorem nullFree_str (text : String) : NullFree (.str text) := everyObject_leaf rfl rfl

/-- An entry without a union with null, under a key that neither stands for schemas nor marks an object. -/
structure IsSetting (entry : String × Json) : Prop where
  key : entry.1 ∉ "nullable" :: schemaKeys
  value : NullFree entry.2

theorem IsSetting.tidy {entry : String × Json} (h : IsSetting entry) : Tidy (.under entry.1) entry.2 := by
  have hkey : entry.1 ∉ schemaKeys := fun hmem => h.key (List.mem_cons_of_mem _ hmem)
  cases hkeyword : isKeyword entry.1 with
  | true => exact .setting hkeyword hkey h.value
  | false => exact .remark hkeyword (.of_nullFree h.value)

/-- Settings can be put beside anything but a union with null. -/
theorem tidy_append_settings {entries added : Entries} (h : Tidy .schema (.obj entries))
    (hunion : ∀ variants, ("anyOf", .arr variants) ∈ entries → nullSchema ∉ variants)
    (hadded : ∀ entry ∈ added, IsSetting entry) : Tidy .schema (.obj (entries ++ added)) := by
  cases h with
  | obj hentries hunmarked _ =>
      refine tidy_of_no_union ?_ ?_ ?_
      · exact List.forall_mem_append.2 ⟨hentries, fun entry hentry => (hadded entry hentry).tidy⟩
      · rw [Table.keys, List.map_append, List.mem_append, not_or]
        refine ⟨hunmarked, fun hmem => ?_⟩
        obtain ⟨entry, hentry, hkey⟩ := List.mem_map.1 hmem
        exact (hadded entry hentry).key (hkey ▸ List.mem_cons_self)
      · intro variants hmem
        rcases List.mem_append.1 hmem with hold | hnew
        · exact hunion variants hold
        · exact absurd (by simp [schemaKeys]) (hadded _ hnew).key

theorem tidy_of_settings {fields : Entries} (h : ∀ entry ∈ fields, IsSetting entry) :
    Tidy .schema (.obj fields) := by
  have hempty : Tidy .schema (.obj []) := tidy_of_no_union (by simp) (by simp [Table.keys]) (by simp)
  exact tidy_append_settings hempty (by simp) h

/-- An entry that says nothing about values and does not keep unions from being resolved. -/
structure IsRemark (entry : String × Json) : Prop where
  key : isKeyword entry.1 = false
  unmarked : entry.1 ≠ "nullable"
  value : StrayFree entry.2

theorem IsSetting.isRemark {entry : String × Json} (h : IsSetting entry)
    (hkey : isKeyword entry.1 = false) : IsRemark entry where
  key := hkey
  unmarked := fun hmark => h.key (hmark ▸ List.mem_cons_self)
  value := .of_nullFree h.value

/-- Remarks can be put beside anything. -/
theorem tidy_append_remarks {entries added : Entries} (h : Tidy .schema (.obj entries))
    (hadded : ∀ entry ∈ added, IsRemark entry) : Tidy .schema (.obj (entries ++ added)) := by
  have hkeywords : added.filter (fun entry => isKeyword entry.1) = [] :=
    List.filter_eq_nil_iff.2 fun entry hentry => by simp [(hadded entry hentry).key]
  cases h with
  | obj hentries hunmarked hlone =>
      refine .obj ?_ ?_ ?_
      · refine List.forall_mem_append.2 ⟨hentries, fun entry hentry => ?_⟩
        exact .remark (hadded entry hentry).key (hadded entry hentry).value
      · rw [Table.keys, List.map_append, List.mem_append, not_or]
        refine ⟨hunmarked, fun hmem => ?_⟩
        obtain ⟨entry, hentry, hkey⟩ := List.mem_map.1 hmem
        exact (hadded entry hentry).unmarked hkey
      · intro variants hmem hnull
        rw [List.filter_append, hkeywords, List.append_nil]
        rcases List.mem_append.1 hmem with hold | hnew
        · exact hlone variants hold hnull
        · cases (hadded _ hnew).key

/-- A remark can be dropped. -/
theorem Tidy.drop {fields : Entries} (h : Tidy .schema (.obj fields)) {key : String}
    (hkey : isKeyword key = false) : Tidy .schema (.obj (Table.drop fields key)) := by
  cases h with
  | obj hentries hunmarked hlone =>
      refine .obj (fun entry hentry => hentries entry (Table.mem_of_mem_drop hentry)) ?_ ?_
      · exact fun hmem => hunmarked ((List.filter_sublist.map Prod.fst).subset hmem)
      · intro variants hmem hnull
        rw [filter_keywords_drop hkey]
        exact hlone variants (Table.mem_of_mem_drop hmem) hnull

/-! ## Types -/

/-- The alternatives of a tidy schema are tidy objects. -/
theorem tidy_alternatives {entries : Entries} (h : Tidy .schema (.obj entries)) :
    ∀ schema ∈ alternatives entries, Tidy .schema schema ∧ schema.obj?.isSome = true := by
  rcases alternatives_cases entries with ⟨items, rfl, hitems⟩ | hself
  · rw [hitems]
    cases h with
    | obj hentries _ _ =>
        obtain ⟨variants, hvariants, htidy, hobjects⟩ := (hentries _ List.mem_cons_self).exists_variants
        cases hvariants
        exact fun schema hschema => ⟨htidy schema hschema, hobjects schema hschema⟩
  · rw [hself, List.forall_mem_singleton]
    exact ⟨h, rfl⟩

theorem tidy_anyOf {options : List Entries} (h : ∀ entries ∈ options, Tidy .schema (.obj entries)) :
    Tidy .schema (.obj (anyOf options)) := by
  obtain ⟨members, hmembers, hshape⟩ := anyOf_cases options
  have htidy : ∀ member ∈ members, Tidy .schema member ∧ member.obj?.isSome = true := by
    intro member hmember
    obtain ⟨entries, hentries, halternative⟩ := hmembers member hmember
    exact tidy_alternatives (h entries hentries) member halternative
  rcases hshape with hone | hlist
  · exact (htidy _ (hone ▸ List.mem_singleton_self _)).1
  · rw [hlist]
    refine .obj ?_ (by simp [Table.keys]) ?_
    · rw [List.forall_mem_singleton]
      refine .union (fun member hmember => (htidy member hmember).1) fun member hmember => ?_
      exact (htidy member hmember).2
    · -- the union is all that the object has
      intro variants hmem _
      rw [List.mem_singleton.1 hmem]
      rfl

theorem tidy_withNull {entries : Entries} (h : Tidy .schema (.obj entries)) :
    Tidy .schema (.obj (withNull entries)) := by
  have hnull : Tidy .schema (.obj nullEntries) :=
    tidy_of_settings (List.forall_mem_singleton.2 ⟨by decide, nullFree_str "null"⟩)
  rw [withNull]
  split
  · exact hnull
  · refine tidy_anyOf ?_
    rw [List.forall_mem_cons, List.forall_mem_singleton]
    exact ⟨h, hnull⟩

theorem isSetting_text {key : String} (hkey : key ∉ "nullable" :: schemaKeys) {text : Option String}
    {entry : String × Json} (h : entry ∈ settingEntry key (text.map Json.str)) : IsSetting entry := by
  obtain ⟨rfl, hvalue⟩ := mem_settingEntry h
  obtain ⟨shown, -, hshown⟩ := Option.map_eq_some_iff.1 hvalue.symm
  exact ⟨hkey, hshown ▸ nullFree_str shown⟩

theorem isSetting_number {key : String} (hkey : key ∉ "nullable" :: schemaKeys) {number : Option Number}
    {entry : String × Json} (h : entry ∈ settingEntry key (number.map Json.num)) : IsSetting entry := by
  obtain ⟨rfl, hvalue⟩ := mem_settingEntry h
  obtain ⟨bound, -, hbound⟩ := Option.map_eq_some_iff.1 hvalue.symm
  exact ⟨hkey, hbound ▸ everyObject_leaf rfl rfl⟩

theorem tidy_literalEntries {values : List Json} (h : ∀ value ∈ values, NullFree value) :
    Tidy .schema (.obj (literalEntries values)) := by
  obtain ⟨first, hentries, hfirst⟩ := literalEntries_cases values
  rw [hentries]
  refine tidy_of_settings (List.forall_mem_cons.2 ⟨?_, fun entry => isSetting_text (by decide)⟩)
  rcases hfirst with ⟨value, hvalue, rfl⟩ | rfl
  · exact ⟨by simp [schemaKeys], h value hvalue⟩
  · exact ⟨by simp [schemaKeys], everyObject_arr.2 h⟩

/-- **The schema of a type is tidy** if no literal value looks like a union with null. -/
theorem tidy_entries (refTo : String → String) {type : FieldType}
    (h : ∀ value ∈ type.literals, NullFree value) : Tidy .schema (.obj (type.entries refTo)) := by
  induction type using FieldType.induction_parts with
  | step type ih =>
      -- the literal values of a part are literal values of the type
      have hparts : ∀ part ∈ type.parts, Tidy .schema (.obj (part.entries refTo)) :=
        fun part hpart => ih part hpart fun value hvalue => h value (mem_literals_of_part hpart hvalue)
      cases type with
      | list item =>
          rw [FieldType.entries]
          refine tidy_of_no_union ?_ (by simp [Table.keys]) (by simp)
          rw [List.forall_mem_cons, List.forall_mem_singleton]
          refine ⟨IsSetting.tidy ⟨by simp [schemaKeys], nullFree_str _⟩, .items ?_⟩
          exact hparts item (List.mem_singleton_self item)
      | mapping value =>
          rw [FieldType.entries]
          refine tidy_of_no_union ?_ (by simp [Table.keys]) (by simp)
          rw [List.forall_mem_cons, List.forall_mem_singleton]
          refine ⟨IsSetting.tidy ⟨by simp [schemaKeys], nullFree_str _⟩, .additional ?_⟩
          split
          · exact .bool true
          · exact hparts value (List.mem_singleton_self value)
      | optional inner =>
          rw [FieldType.entries]
          exact tidy_withNull (hparts inner (List.mem_singleton_self inner))
      | union options =>
          have hoptions : Tidy .schema (.obj (anyOf (optionEntries refTo options))) := by
            refine tidy_anyOf fun entries hentries => ?_
            obtain ⟨option, hoption, rfl⟩ := mem_optionEntries hentries
            exact hparts option hoption
          rw [FieldType.entries]
          split
          · exact tidy_withNull hoptions
          · exact hoptions
      | literal values =>
          rw [FieldType.entries]
          rw [FieldType.literals] at h
          exact tidy_literalEntries h
      | anything =>
          rw [FieldType.entries]
          exact tidy_of_settings (by simp)
      | bytes =>
          rw [FieldType.entries]
          refine tidy_of_settings (List.forall_mem_cons.2 ⟨?_, List.forall_mem_singleton.2 ?_⟩)
          · exact ⟨by simp [schemaKeys], nullFree_str _⟩
          · exact ⟨by simp [schemaKeys], nullFree_str _⟩
      | _ =>
          rw [FieldType.entries]
          exact tidy_of_settings (List.forall_mem_singleton.2 ⟨by simp [schemaKeys], nullFree_str _⟩)

/-! ## Fields -/

theorem isSetting_bounds {constraints : Constraints} {type : FieldType} {entry : String × Json}
    (h : entry ∈ constraints.bounds type) : IsSetting entry := by
  simp only [Constraints.bounds, Constraints.bounds.numeric] at h
  split at h
  all_goals
    simp only [List.mem_append] at h
    rcases h with ((h | h) | h) | h
    all_goals exact isSetting_number (by decide) h

/-- Constraints are settings. -/
theorem isSetting_constraints {constraints : Constraints} {type : FieldType} {entry : String × Json}
    (h : entry ∈ constraints.entries type) : IsSetting entry := by
  have hkeys : (constraints.lengthKeys type).1 ∉ "nullable" :: schemaKeys ∧
      (constraints.lengthKeys type).2 ∉ "nullable" :: schemaKeys := by
    rw [Constraints.lengthKeys.eq_def]
    split
    · decide
    · split <;> decide
    · decide
  simp only [Constraints.entries, List.mem_append] at h
  rcases h with ((hbound | hleast) | hgreatest) | hpattern
  · exact isSetting_bounds hbound
  · exact isSetting_number hkeys.1 hleast
  · exact isSetting_number hkeys.2 hgreatest
  · exact isSetting_text (by decide) hpattern

/-- The defaults that show in the schema of a model do not keep unions from being resolved, and its literal
values have no union with null in them. -/
def HasPlainData (model : Model) : Prop :=
  ∀ field ∈ shownFields model.fields, (∀ value ∈ field.settings.fallback, StrayFree value) ∧
    ∀ value ∈ field.type.literals, NullFree value

/-- **The schema of a field is tidy.** Its constraints stand beside the schema of its type without null. -/
theorem tidy_property (refTo : String → String) {field : Field}
    (hfallback : ∀ value ∈ field.settings.fallback, StrayFree value)
    (hliterals : ∀ value ∈ field.type.literals, NullFree value) :
    Tidy .schema (.obj (field.property refTo)) := by
  have hinner : Tidy .schema (.obj (field.type.normal.withoutNull.entries refTo)) :=
    tidy_entries refTo fun value hvalue => hliterals value (mem_literals_of_withoutNull hvalue)
  -- a union of the type with null is built around the constraints and not beside them
  have hconstrained := tidy_append_settings hinner (fun _ => nullSchema_not_mem_entries field.type)
    fun entry => @isSetting_constraints field.settings.constraints field.type.normal.withoutNull entry
  simp only [Field.property, List.append_assoc]
  refine tidy_append_remarks ?_ fun entry hentry => ?_
  · split
    · exact tidy_withNull hconstrained
    · exact hconstrained
  · simp only [List.mem_append] at hentry
    rcases hentry with hdefault | hdescription | hexample | htitle
    · obtain ⟨hkey, hvalue⟩ := mem_settingEntry hdefault
      exact ⟨hkey ▸ by decide, hkey ▸ by decide, hfallback _ hvalue.symm⟩
    · refine (isSetting_text (by decide) hdescription).isRemark ?_
      rw [(mem_settingEntry hdescription).1]
      rfl
    · refine (isSetting_text (by decide) hexample).isRemark ?_
      rw [(mem_settingEntry hexample).1]
      rfl
    · obtain ⟨-, htitle⟩ := List.mem_ite_nil_left.1 htitle
      rw [List.mem_singleton.1 htitle]
      exact ⟨rfl, by simp, .of_nullFree (nullFree_str _)⟩

/-- A field shows if no later one has its key. -/
theorem mem_shownFields {earlier later : List Field} {field : Field} (h : isKeyOf later field.key = false) :
    field ∈ shownFields (earlier ++ field :: later) := by
  induction earlier with
  | nil => simp [shownFields, h]
  | cons first rest ih =>
      rw [List.cons_append, shownFields]
      split
      · exact ih
      · exact List.mem_cons_of_mem _ ih

/-- Every property is that of a field that shows. -/
theorem exists_shown_of_property {refTo : String → String} {fields : List Field} {entry : String × Json}
    (h : entry ∈ properties refTo fields) :
    ∃ field ∈ shownFields fields, entry.2 = .obj (field.property refTo) := by
  have hget := Table.get?_of_mem (properties_spec refTo fields).1 h
  obtain ⟨earlier, later, hsplit, hlast⟩ := Table.get?_ofList_eq_some hget
  obtain ⟨before, others, rfl, -, hothers⟩ := List.map_eq_append_iff.1 hsplit
  obtain ⟨field, after, rfl, hfield, rfl⟩ := List.map_eq_cons_iff.1 hothers
  obtain ⟨hkey, hvalue⟩ := Prod.mk.inj hfield
  -- a later field of the key would have taken its place in the table
  refine ⟨field, mem_shownFields ?_, hvalue.symm⟩
  rw [isKeyOf, List.any_eq_false]
  intro other hother hsame
  apply hlast
  rw [← hkey, ← eq_of_beq hsame]
  exact List.mem_map.2 ⟨_, List.mem_map_of_mem hother, rfl⟩

/-! ## Models -/

/-- **The schema of a record is tidy.** -/
theorem tidy_body (refTo : String → String) {model : Model} (hrecord : isRecord model = true)
    (hdata : HasPlainData model) : Tidy .schema (.obj (model.body refTo)) := by
  cases model with
  | given identity name schema => cases hrecord
  | record identity name doc extra fields =>
      have hnone : (Table.keys ([] : Entries)).Sublist ["$defs"] := List.nil_sublist _
      have hsublist := keys_body_sublist refTo identity name doc extra fields hnone
      rw [List.append_nil] at hsublist
      refine tidy_of_no_union ?_ (fun hmem => absurd (hsublist.subset hmem) (by decide)) ?_
      · intro entry hentry
        simp only [Model.body, List.mem_append, List.mem_cons, List.not_mem_nil, or_false] at hentry
        rcases hentry with ((((rfl | rfl) | hrequired) | rfl) | hdescription) | hextra
        · exact IsSetting.tidy ⟨by simp [schemaKeys], nullFree_str _⟩
        · refine .properties fun property hproperty => ?_
          obtain ⟨field, hfield, heq⟩ := exists_shown_of_property hproperty
          rw [heq]
          exact tidy_property refTo (hdata field hfield).1 (hdata field hfield).2
        · split at hrequired
          · cases hrequired
          · rw [List.mem_singleton.1 hrequired]
            refine IsSetting.tidy ⟨by simp [schemaKeys], everyObject_arr.2 ?_⟩
            exact List.forall_mem_map.2 fun key _ => nullFree_str key
        · exact IsSetting.tidy ⟨by simp [schemaKeys], nullFree_str _⟩
        · exact (isSetting_text (by decide) hdescription).tidy
        · cases extra with
          | ignore => cases hextra
          | allow =>
              rw [List.mem_singleton.1 hextra]
              exact .additional (.bool true)
          | forbid =>
              rw [List.mem_singleton.1 hextra]
              exact .additional (.bool false)
      · intro variants hmem
        exact absurd (hsublist.subset (List.mem_map_of_mem hmem)) (by simp)

/-- A record has no definitions of its own. -/
theorem get?_defs_body (refTo : String → String) (identity : Identity) (name : String) (doc : Option String)
    (extra : Extra) (fields : List Field) :
    Table.get? ((Model.record identity name doc extra fields).body refTo) "$defs" = none := by
  -- with definitions beside it every key would still occur once
  have hdefinitions : (Table.keys [("$defs", Json.null)]).Sublist ["$defs"] := List.Sublist.refl _
  have hdistinct := (keys_body_sublist refTo identity name doc extra fields hdefinitions).nodup (by decide)
  rw [Table.keys, List.map_append, List.nodup_append] at hdistinct
  rw [Table.get?_eq_none_iff]
  exact fun hmem => hdistinct.2.2 _ hmem _ (List.mem_singleton_self _) rfl

/-- The definitions of records are tidy. -/
theorem tidy_definitions (refTo : String → String) {model : Model}
    (h : ∀ nested ∈ model.nested, isRecord nested = true ∧ HasPlainData nested) :
    ∀ entry ∈ model.definitions refTo, Tidy .schema entry.2 := by
  intro entry hentry
  obtain ⟨nested, hnested, rfl⟩ := List.mem_map.1 (Table.mem_of_mem_ofList hentry)
  exact tidy_body refTo (h nested hnested).1 (h nested hnested).2

/-- **The rendered schema of a record** falls into tidy definitions and a tidy rest, which accepts what the
whole accepts. -/
theorem tidy_of_rendered {model : Model} {schema : Json}
    (hmodels : ∀ part ∈ model :: model.nested, isRecord part = true ∧ HasPlainData part)
    (h : rendered model = .ok schema) :
    ∃ nested fields, splitDefinitions schema = .ok (nested, fields) ∧
      (∀ entry ∈ nested, Tidy .schema entry.2) ∧ Tidy .schema (.obj fields) ∧
      ∀ matching follow value,
        accepts matching follow (.obj fields) value = accepts matching follow schema value := by
  obtain ⟨⟨hrecord, hdata⟩, hnested⟩ := List.forall_mem_cons.1 hmodels
  have hbody := tidy_body refTo hrecord hdata
  have hdefinitions := tidy_definitions refTo hnested
  cases model with
  | given identity name given => cases hrecord
  | record identity name doc extra fields =>
      obtain ⟨definitions, hshape, rfl⟩ := rendered_record h
      have hremarks : ∀ entry ∈ definitions, IsRemark entry := by
        rcases hshape with rfl | rfl
        · simp
        · rw [List.forall_mem_singleton]
          exact ⟨rfl, by simp, (Tidy.properties hdefinitions).strayFree⟩
      have hwhole := (tidy_append_remarks hbody hremarks).arrange false
      obtain ⟨arranged, harranged, -, hget⟩ :=
        arrange_obj false ((Model.record identity name doc extra fields).body refTo ++ definitions)
      have hfound := hget "$defs"
      rw [harranged] at hwhole ⊢
      rw [Table.get?_append, get?_defs_body] at hfound
      rcases hshape with rfl | rfl
      · have hnone : Table.get? arranged "$defs" = none := hfound
        refine ⟨[], arranged, ?_, by simp, hwhole, fun _ _ _ => rfl⟩
        rw [splitDefinitions, hnone]
      · obtain ⟨nested, hnested, hperm, -⟩ := arrange_obj (keepsOrder "$defs")
          ((Model.record identity name doc extra fields).definitions refTo)
        have hsome : Table.get? arranged "$defs" = some (.obj nested) := hfound.trans (congrArg some hnested)
        refine ⟨nested, Table.drop arranged "$defs", ?_, ?_, hwhole.drop rfl, fun _ _ value => ?_⟩
        · rw [splitDefinitions, hsome]
        · rintro ⟨key, value⟩ hentry
          obtain ⟨original, horiginal, rfl⟩ := mem_arrangeFields (hperm.mem_iff.1 hentry)
          exact (hdefinitions _ horiginal).arrange _
        · exact accepts_drop rfl (by decide) arranged value

/-- **Resolving the unions of the rendered schema of a record keeps which values are valid**, with the
definitions of all that the record is made of, as long as no data is taken for a union with null. -/
theorem nullable_keeps_meaning {model : Model} {schema : Json}
    (hmodels : ∀ part ∈ model :: model.nested, isRecord part = true ∧ HasPlainData part)
    (h : rendered model = .ok schema) :
    ∃ nested fields definitions image, splitDefinitions schema = .ok (nested, fields) ∧
      nullableEntries nested = .ok definitions ∧ nullable (.obj fields) = .ok image ∧
      ∀ matching value, Valid matching definitions image value ↔ Valid matching nested schema value := by
  obtain ⟨nested, fields, hsplit, hnested, hfields, hsame⟩ := tidy_of_rendered hmodels h
  obtain ⟨definitions, hdefinitions⟩ := nullableEntries_isOk_iff.2 fun entry hentry =>
    nullable_isOk_iff.2 (hnested entry hentry).strayFree
  obtain ⟨image, himage⟩ := nullable_isOk_iff.2 hfields.strayFree
  refine ⟨nested, fields, definitions, image, hsplit, hdefinitions, himage, fun matching value => ?_⟩
  rw [valid_nullable_iff hnested hfields hdefinitions himage, Valid, Valid]
  exact exists_congr fun hops => by rw [hsame]

/-! ## A team -/

/-- A person has a nick, which can be null, and a rank. -/
def person : Model :=
  .record default "Person" none .ignore
    [.mk "nick" (.optional .text) {},
      .mk "rank" (.literal [.str "junior", .str "senior"]) { fallback := some (.str "junior") }]

/-- A team is led by a person or by nobody. -/
def team : Model := .record default "Team" none .forbid [.mk "lead" (.optional (.model person)) {}]

/-- The schema of a person. -/
def personSchema : Json :=
  .obj [("properties", .obj
      [("nick", .obj [("anyOf", .arr [.obj [("type", .str "string")], nullSchema]),
          ("title", .str "Nick")]),
        ("rank", .obj [("default", .str "junior"), ("enum", .arr [.str "junior", .str "senior"]),
          ("title", .str "Rank"), ("type", .str "string")])]),
    ("required", .arr [.str "nick"]), ("title", .str "Person"), ("type", .str "object")]

/-- The schema of a team without its definitions. -/
def teamFields : Entries :=
  [("additionalProperties", .bool false),
    ("properties", .obj
      [("lead", .obj [("anyOf", .arr [.obj [("$ref", .str (refTo "Person"))], nullSchema])])]),
    ("required", .arr [.str "lead"]), ("title", .str "Team"), ("type", .str "object")]

theorem rendered_team :
    rendered team = .ok (.obj (("$defs", .obj [("Person", personSchema)]) :: teamFields)) := by
  have htitles : titleOf "nick" = "Nick" ∧ titleOf "rank" = "Rank" := by decide +kernel
  have hunsorted : rendered team = .ok (arrange false (.obj [("type", .str "object"),
      ("properties", .obj
        [("lead", .obj [("anyOf", .arr [.obj [("$ref", .str (refTo "Person"))], nullSchema])])]),
      ("required", .arr [.str "lead"]), ("title", .str "Team"), ("additionalProperties", .bool false),
      ("$defs", .obj [("Person", .obj [("type", .str "object"),
        ("properties", .obj
          [("nick", .obj [("anyOf", .arr [.obj [("type", .str "string")], nullSchema]),
              ("title", .str (titleOf "nick"))]),
            ("rank", .obj [("enum", .arr [.str "junior", .str "senior"]), ("type", .str "string"),
              ("default", .str "junior"), ("title", .str (titleOf "rank"))])]),
        ("required", .arr [.str "nick"]), ("title", .str "Person")])])])) := rfl
  rw [hunsorted, htitles.1, htitles.2]
  simp [arrange, arrangeFields, arrangeItems, keepsOrder, sortFields, List.mergeSort,
    List.MergeSort.Internal.splitInTwo, teamFields, personSchema, nullSchema, nullEntries]

theorem hasPlainData_team : HasPlainData team := by
  intro field hfield
  obtain rfl : field = .mk "lead" (.optional (.model person)) {} := List.mem_singleton.1 hfield
  exact ⟨nofun, nofun⟩

theorem hasPlainData_person : HasPlainData person := by
  intro field hfield
  rcases List.mem_cons.1 hfield with rfl | hrank
  · exact ⟨nofun, nofun⟩
  · rw [List.mem_singleton.1 hrank]
    refine ⟨fun value hvalue => ?_, List.forall_mem_cons.2 ⟨nullFree_str _, ?_⟩⟩
    · rw [← Option.some.inj hvalue]
      exact .of_nullFree (nullFree_str _)
    · exact List.forall_mem_singleton.2 (nullFree_str _)

/-- The resolved schema of a team accepts a lead without a nick, and none whose nick is missing. -/
theorem team_keeps_meaning : ∃ definitions image,
    nullableEntries [("Person", personSchema)] = .ok definitions ∧ nullable (.obj teamFields) = .ok image ∧
    ∀ matching, Valid matching definitions image (.obj [("lead", .null)]) ∧
      Valid matching definitions image (.obj [("lead", .obj [("nick", .null)])]) ∧
      ¬ Valid matching definitions image (.obj [("lead", .obj [])]) := by
  have hmodels : ∀ part ∈ [team, person], isRecord part = true ∧ HasPlainData part := by
    rw [List.forall_mem_cons, List.forall_mem_singleton]
    exact ⟨⟨rfl, hasPlainData_team⟩, rfl, hasPlainData_person⟩
  obtain ⟨nested, fields, definitions, image, hsplit, hdefinitions, himage, hvalid⟩ :=
    nullable_keeps_meaning hmodels rendered_team
  cases hsplit
  refine ⟨definitions, image, hdefinitions, himage, fun matching => ⟨?_, ?_, ?_⟩⟩
  · exact (hvalid matching _).2 ⟨0, rfl⟩
  · exact (hvalid matching _).2 ⟨1, rfl⟩
  · rw [hvalid]
    rintro ⟨hops, haccepts⟩
    cases hops with
    | zero => cases haccepts
    | succ hops => cases haccepts

/-! ## Data that looks like a union -/

/-- A record of one field. -/
def single (type : FieldType) (fallback : Option Json) : Model :=
  .record default "M" none .ignore [.mk "f" type { fallback := fallback }]

/-- A value that looks like the union of something with null. -/
def lookalike (value : Json) : Json := .obj [("anyOf", .arr [value, nullSchema])]

/-- The schema of a mapping with a default that looks like a union of three and null. -/
def defaultedFields : Entries :=
  [("properties", .obj [("f", .obj [("additionalProperties", .bool true),
      ("default", lookalike (.num (.int 3))), ("title", .str "F"), ("type", .str "object")])]),
    ("title", .str "M"), ("type", .str "object")]

/-- The schema of a choice of one value, which looks like a union of texts and null. -/
def chosenFields : Entries :=
  [("properties", .obj [("f", .obj [("const", lookalike (.obj [("type", .str "string")])),
      ("title", .str "F")])]),
    ("required", .arr [.str "f"]), ("title", .str "M"), ("type", .str "object")]

theorem rendered_defaulted :
    rendered (single (.mapping .anything) (some (lookalike (.num (.int 3))))) =
      .ok (.obj defaultedFields) := by
  have htitle : titleOf "f" = "F" := by decide +kernel
  have hunsorted : rendered (single (.mapping .anything) (some (lookalike (.num (.int 3))))) =
      .ok (arrange false (.obj [("type", .str "object"), ("properties", .obj [("f", .obj
        [("type", .str "object"), ("additionalProperties", .bool true),
          ("default", lookalike (.num (.int 3))), ("title", .str (titleOf "f"))])]),
        ("title", .str "M")])) := rfl
  rw [hunsorted, htitle]
  simp [arrange, arrangeFields, arrangeItems, keepsOrder, sortFields, List.mergeSort,
    List.MergeSort.Internal.splitInTwo, defaultedFields, lookalike, nullSchema, nullEntries]

theorem rendered_chosen :
    rendered (single (.literal [lookalike (.obj [("type", .str "string")])]) none) =
      .ok (.obj chosenFields) := by
  have htitle : titleOf "f" = "F" := by decide +kernel
  have hunsorted : rendered (single (.literal [lookalike (.obj [("type", .str "string")])]) none) =
      .ok (arrange false (.obj [("type", .str "object"), ("properties", .obj [("f", .obj
        [("const", lookalike (.obj [("type", .str "string")])), ("title", .str (titleOf "f"))])]),
        ("required", .arr [.str "f"]), ("title", .str "M")])) := rfl
  rw [hunsorted, htitle]
  simp [arrange, arrangeFields, arrangeItems, keepsOrder, sortFields, List.mergeSort,
    List.MergeSort.Internal.splitInTwo, chosenFields, lookalike, nullSchema, nullEntries]

/-- A default that looks like a union with null keeps a schema from being resolved, and a literal value
that does is changed: the one value that was valid no longer is. -/
theorem data_taken_for_unions :
    (rendered (single (.mapping .anything) (some (lookalike (.num (.int 3))))) = .ok (.obj defaultedFields) ∧
      (∀ matching, Valid matching [] (.obj defaultedFields) (.obj [("f", .obj [])])) ∧
      splitDefinitions (.obj defaultedFields) = .ok ([], defaultedFields) ∧
      nullable (.obj defaultedFields) = .error .wrongKind) ∧
    rendered (single (.literal [lookalike (.obj [("type", .str "string")])]) none) =
      .ok (.obj chosenFields) ∧
    splitDefinitions (.obj chosenFields) = .ok ([], chosenFields) ∧
    ∃ image, nullable (.obj chosenFields) = .ok image ∧ ∀ matching,
      Valid matching [] (.obj chosenFields) (.obj [("f", lookalike (.obj [("type", .str "string")]))]) ∧
      ¬ Valid matching [] image (.obj [("f", lookalike (.obj [("type", .str "string")]))]) := by
  constructor
  · exact ⟨rendered_defaulted, fun _ => ⟨0, rfl⟩, rfl, rfl⟩
  · refine ⟨rendered_chosen, rfl, _, rfl, fun _ => ⟨⟨0, rfl⟩, ?_⟩⟩
    rintro ⟨hops, haccepts⟩
    cases haccepts

end RouteAtlas.OpenApi
