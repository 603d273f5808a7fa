import RouteAtlas.Proofs.Middleware.Accumulation
import RouteAtlas.Proofs.OpenApi.Properties

/-!
# Demanded fields that are lost

A custom middleware demands fields by their names, and the schema of a slot is to list all of them and to
require them. On the way there a name is turned into a member, in which punctuation does not show; a schema
is kept under the name of its middleware, so that of several declarations with one name the first gives the
fields for all; and schemas are joined by their members. What is left of the fields contributed to a slot are
those behind which no other field has their member, and exactly their names are documented
(`demanded_documented_iff`). So nothing is lost where the names of the middlewares and the members made from
the demanded names are distinct (`demanded_documented_of_distinct`).
-/

set_option autoImplicit false

namespace RouteAtlas.Middleware

open Text Source Api Schema Router Step OpenApi

/-! ## Fields that prevail -/

/-- Among fields entered one after the other a required field of a name prevails: none behind it has its
member. -/
def Prevails (fields : List Field) (name : String) : Prop :=
  ∃ earlier field later, fields = earlier ++ field :: later ∧
    field.member ∉ later.map Field.member ∧ field.isRequired = true ∧ field.key = name

/-- The schema of fields can be rendered: nothing in it is mistaken for a reference. -/
def Presentable (fields : List Field) : Prop :=
  (Model.record default "" none .ignore (putFields [] fields)).checkReferences = .ok ()

theorem prevails_iff {fields : List Field} {name : String} :
    Prevails fields name ↔ name ∈ requiredKeys (putFields [] fields) := by
  have hlast : LastOfEach Field.member fields (putFields [] fields) := lastOfEach_putFields_nil fields
  rw [requiredKeys, List.mem_map]
  constructor
  · rintro ⟨earlier, field, later, hfields, hlater, hrequired, hkey⟩
    exact ⟨field, List.mem_filter.2 ⟨hlast.mem_iff.2 ⟨earlier, later, hfields, hlater⟩, hrequired⟩, hkey⟩
  · rintro ⟨field, hfield, hkey⟩
    obtain ⟨hkept, hrequired⟩ := List.mem_filter.1 hfield
    obtain ⟨earlier, later, hfields, hlater⟩ := hlast.last field hkept
    exact ⟨earlier, field, later, hfields, hlater, hrequired, hkey⟩

instance (fields : List Field) (name : String) : Decidable (Prevails fields name) :=
  decidable_of_iff' _ prevails_iff

instance (fields : List Field) : Decidable (Presentable fields) :=
  inferInstanceAs (Decidable (_ = _))

/-! ## Documented names -/

/-- A name is documented in a slot: the schema of the slot lists it among its properties and requires it.
-/
def Documents (refTo : String → String) (record : Record) (slot : Slot) (name : String) : Prop :=
  ∃ model schema names, record.request.get? slot = some model ∧ model.schema refTo = .ok schema ∧
    name ∈ propertyNames schema ∧ requiredNames (schema.get? "required") = .ok names ∧ name ∈ names

theorem mem_propertyNames {refTo : String → String} {fields : List Field} {name : String}
    (h : name ∈ requiredKeys fields) : name ∈ Table.keys (properties refTo fields) := by
  obtain ⟨field, hfield, rfl⟩ := List.mem_map.1 h
  have hentry : (field.key, Json.obj (field.property refTo)) ∈
      fields.map fun field => (field.key, Json.obj (field.property refTo)) :=
    List.mem_map.2 ⟨field, (List.mem_filter.1 hfield).1, rfl⟩
  rw [properties, Table.keys_ofList, List.mem_eraseDups]
  exact List.mem_map_of_mem hentry

/-- Whether a schema can be rendered is told by its fields. -/
theorem checkReferences_record (identity : Identity) (name : String) (doc : Option String) (extra : Extra)
    (fields : List Field) : (Model.record identity name doc extra fields).checkReferences =
      (Model.record default "" none .ignore fields).checkReferences := by
  simp only [Model.checkReferences, Model.nested, List.any_cons, Model.data]
  rfl

/-- **A slot documents the names that its record requires**, if the schema can be rendered. -/
theorem documents_iff {refTo : String → String} {record : Record} {slot : Slot} {model : Model}
    {name : String} (hget : record.request.get? slot = some model) (hrecord : isRecord model = true) :
    Documents refTo record slot name ↔
      (Model.record default "" none .ignore model.fields).checkReferences = .ok () ∧
        name ∈ requiredKeys model.fields := by
  cases model with
  | given identity modelName schema => cases hrecord
  | record identity modelName doc extra fields =>
      rw [← checkReferences_record identity modelName doc extra]
      constructor
      · rintro ⟨model, schema, names, hmodel, hschema, -, hnames, hname⟩
        cases hget.symm.trans hmodel
        rw [requiredNames_of_schema hschema] at hnames
        cases hnames
        exact ⟨(schema_record_iff.1 hschema).1, hname⟩
      · rintro ⟨hcheck, hname⟩
        have hschema := schema_record_iff.2 ⟨hcheck, Eq.refl (arrange false (.obj
          ((Model.record identity modelName doc extra fields).body refTo ++
            definitionEntry refTo (.record identity modelName doc extra fields))))⟩
        refine ⟨_, _, _, hget, hschema, ?_, requiredNames_of_schema hschema, hname⟩
        rw [(lists_of_schema hschema).propertyNames_eq]
        exact mem_propertyNames hname

/-! ## Demanded names -/

section

variable {setup : Setup} {provider : Provider} {declaration : Declaration} {session stop : Session}

/-- A name is demanded in a slot: an expression for custom middlewares mentions one that demands it. -/
def IsDemanded (setup : Setup) (classified : List Expression) (slot : Slot) (name : String) : Prop :=
  ∃ expression ∈ classified, expression.kind = .custom ∧ ∃ custom ∈ setup.customs,
    mentions expression.text custom.name.toList = true ∧ name ∈ custom.fields slot

instance (setup : Setup) (classified : List Expression) (slot : Slot) (name : String) :
    Decidable (IsDemanded setup classified slot name) :=
  inferInstanceAs (Decidable (∃ expression ∈ classified, expression.kind = .custom ∧
    ∃ custom ∈ setup.customs, mentions expression.text custom.name.toList = true ∧
      name ∈ custom.fields slot))

/-- The fields contributed to a slot, one after the other. Where a custom middleware is mentioned that
demands fields in the slot, these are the ones that the first declaration of its name demands there. -/
def contributed (setup : Setup) (provider : Provider) (declaration : Declaration)
    (classified : List Expression) (slot : Slot) : List Field :=
  ((Account.sum (classified.map (accountOf setup.settled provider declaration))).of slot).flatten

theorem mem_schemas_sum {accounts : List Account} {schema : Slot × List Field} :
    schema ∈ (Account.sum accounts).schemas ↔ ∃ account ∈ accounts, schema ∈ account.schemas := by
  induction accounts with
  | nil => simp [Account.sum]
  | cons first rest ih =>
      show schema ∈ first.schemas ++ (Account.sum rest).schemas ↔ _
      rw [List.mem_append, ih, List.exists_mem_cons_iff]

/-- **Where a custom middleware is mentioned, the fields of the first of its name are contributed.** -/
theorem mem_contributed {classified : List Expression} {expression : Expression}
    (hexpression : expression ∈ classified) (hkind : expression.kind = .custom) {custom : Custom}
    (hcustom : custom ∈ setup.customs) (hmentions : mentions expression.text custom.name.toList = true)
    {slot : Slot} (hdemands : (custom.fields slot).isEmpty = false) {name : String}
    (hname : name ∈ demandedFields setup.customs custom.name slot) :
    namedField name ∈ contributed setup provider declaration classified slot := by
  have hslot : slot ∈ Slot.all := by
    cases slot <;> decide
  -- the settled middleware has the same name, so it is mentioned as well
  have hsettled : custom.settled setup.customs ∈ setup.settled.customs.filter fun custom =>
      mentions expression.text custom.name.toList :=
    List.mem_filter.2 ⟨List.mem_map_of_mem hcustom, hmentions⟩
  have hschema : (slot, (demandedFields setup.customs custom.name slot).map namedField) ∈
      (customAccount provider declaration expression.text (custom.settled setup.customs)).schemas := by
    rw [customAccount_settled hcustom]
    refine List.mem_append_left _ (List.mem_map.2 ⟨slot, List.mem_filter.2 ⟨hslot, ?_⟩, rfl⟩)
    simp [hdemands]
  have haccount : (slot, (demandedFields setup.customs custom.name slot).map namedField) ∈
      (accountOf setup.settled provider declaration expression).schemas := by
    rw [accountOf, hkind]
    exact mem_schemas_sum.2 ⟨_, List.mem_map_of_mem hsettled, hschema⟩
  rw [contributed, Account.of, List.mem_flatten]
  have hsum := mem_schemas_sum.2 ⟨_, List.mem_map_of_mem hexpression, haccount⟩
  exact ⟨_, List.mem_map.2 ⟨_, List.mem_filter.2 ⟨hsum, by simp⟩, rfl⟩, List.mem_map_of_mem hname⟩

/-- Something is contributed to a slot in which a name is demanded. -/
theorem contributed_ne_nil {classified : List Expression} {slot : Slot} {name : String}
    (h : IsDemanded setup classified slot name) :
    contributed setup provider declaration classified slot ≠ [] := by
  obtain ⟨expression, hexpression, hkind, custom, hcustom, hmentions, hname⟩ := h
  have hdemands : (custom.fields slot).isEmpty = false :=
    List.isEmpty_eq_false_iff.2 (List.ne_nil_of_mem hname)
  obtain ⟨first, hfirst⟩ := List.exists_mem_of_ne_nil _
    (List.isEmpty_eq_false_iff.1 (isEmpty_demandedFields hcustom hdemands))
  exact List.ne_nil_of_mem (mem_contributed hexpression hkind hcustom hmentions hdemands hfirst)

/-- **A slot holds what is left of the fields contributed to it**, whatever names are given twice. -/
theorem slot_of_build (hlibrary : IsLibrary provider) (hsession : Coherent setup provider session)
    {subject : Subject} {chain : List Expression} {record : Record}
    (hbuild : Yields (build setup provider declaration subject chain) session record stop) :
    ∃ classified, classify setup chain = .ok classified ∧ ∀ slot,
      contributed setup provider declaration classified slot ≠ [] →
        ∃ model, record.request.get? slot = some model ∧ isRecord model = true ∧
          model.fields = putFields [] (contributed setup provider declaration classified slot) := by
  obtain ⟨-, classified, hclassified, hsums⟩ := sumsUp_of_build hlibrary hsession hbuild
  refine ⟨classified, hclassified, fun slot hne => ?_⟩
  cases hheld : record.request.get? slot with
  | none =>
      rw [contributed, (hsums.empty slot).1 hheld] at hne
      exact absurd rfl hne
  | some model =>
      have hfields : model.fields =
          putFields [] (contributed setup provider declaration classified slot) :=
        (hsums.fields slot model hheld).unique (lastOfEach_putFields_nil _)
      refine ⟨model, rfl, ?_, hfields⟩
      cases model with
      | record identity name doc extra fields => rfl
      | given identity name schema =>
          -- a given schema has no fields, but some were contributed
          obtain ⟨first, hfirst⟩ := List.exists_mem_of_ne_nil _ hne
          have hmember := (lastOfEach_putFields_nil _).mem_keys_iff.2
            (List.mem_map_of_mem (f := Field.member) hfirst)
          rw [← hfields] at hmember
          cases hmember

end

/-- **The demanded names that are documented are those that prevail**, if the schema of the slot can be
rendered. In every coherent session, for every setup and chain: a name that a mentioned custom middleware
demands in a slot is documented there exactly if, of the fields contributed to the slot, a required one of
this name has no field with its member behind it. -/
theorem demanded_documented_iff {setup : Setup} {provider : Provider} {declaration : Declaration}
    {subject : Subject} {chain : List Expression} {session stop : Session} {record : Record}
    (refTo : String → String) (hlibrary : IsLibrary provider) (hsession : Coherent setup provider session)
    (hbuild : Yields (build setup provider declaration subject chain) session record stop) :
    ∃ classified, classify setup chain = .ok classified ∧
      ∀ slot name, IsDemanded setup classified slot name →
        (Documents refTo record slot name ↔
          Prevails (contributed setup provider declaration classified slot) name ∧
            Presentable (contributed setup provider declaration classified slot)) := by
  obtain ⟨classified, hclassified, hslots⟩ := slot_of_build hlibrary hsession hbuild
  refine ⟨classified, hclassified, fun slot name hdemanded => ?_⟩
  obtain ⟨model, hget, hrecord, hfields⟩ := hslots slot (contributed_ne_nil hdemanded)
  rw [documents_iff hget hrecord, hfields, prevails_iff, Presentable]
  exact and_comm

/-- A provider without schemas. -/
def noSchemas : Provider := tableProvider []

theorem isLibrary_noSchemas : IsLibrary noSchemas :=
  ⟨nofun, nofun, nofun⟩

/-- The record of a chain of custom middlewares. -/
def customRecord (customs : List Custom) (chain : List Text) : Run Record :=
  build { customs := customs } noSchemas default { method := "get", path := "/", tag := "t", note := none }
    (chainOf chain)

/-- Two declarations with one name; the first one demands two headers that differ in punctuation. -/
def authCustoms : List Custom :=
  [{ name := "auth", header := ["X-Id", "X_Id"] }, { name := "auth", header := ["X-Other"] }]

/-- The only expression of a chain that mentions them. -/
def authKinds : List Expression := [⟨0, "auth".toList, .custom⟩]

theorem classify_auth : classify { customs := authCustoms } (chainOf ["auth".toList]) = .ok authKinds := by
  decide +kernel

theorem authRecord_yields : ∃ record stop,
    Yields (customRecord authCustoms ["auth".toList]) {} record stop := by
  apply exists_yields
  rw [customRecord, build, classify_auth, Run.ofSource, pure_bind, authKinds]
  -- the search for a character in a name does not compute, so models are checked by their texts
  dsimp only [absorbAll, absorb, fillFromCustoms, fillFromFields, fillFromArgument, authCustoms,
    Slot.all, synthesizedFor, synthesize, Draft.assign, Request.assign, Model.merge, Model.checked]
  rw [buildFault?_eq_faultByText]
  decide +kernel

theorem auth_demands : ∀ name ∈ ["X-Id", "X_Id", "X-Other"],
    IsDemanded { customs := authCustoms } authKinds .header name := by
  decide +kernel

/-- Of three demanded headers one is documented. -/
theorem auth_documented : ∃ record stop, Yields (customRecord authCustoms ["auth".toList]) {} record stop ∧
    ∀ name ∈ ["X-Id", "X_Id", "X-Other"],
      (Documents standaloneRef record .header name ↔ name = "X_Id") := by
  obtain ⟨record, stop, hbuild⟩ := authRecord_yields
  obtain ⟨classified, hclassified, hdocumented⟩ :=
    demanded_documented_iff standaloneRef isLibrary_noSchemas coherent_empty hbuild
  cases classify_auth.symm.trans hclassified
  have hprevails : ∀ name ∈ ["X-Id", "X_Id", "X-Other"],
      (Prevails (contributed { customs := authCustoms } noSchemas default authKinds .header) name ∧
        Presentable (contributed { customs := authCustoms } noSchemas default authKinds .header) ↔
          name = "X_Id") := by
    decide +kernel
  refine ⟨record, stop, hbuild, fun name hname => ?_⟩
  rw [hdocumented .header name (auth_demands name hname)]
  exact hprevails name hname

/-- A header is lost to one that differs in punctuation, and another one to a declaration with the same
name. -/
theorem auth_headers_lost : ∃ record stop, Yields (customRecord authCustoms ["auth".toList]) {} record stop ∧
    classify { customs := authCustoms } (chainOf ["auth".toList]) = .ok authKinds ∧
    ∀ name ∈ ["X-Id", "X-Other"], IsDemanded { customs := authCustoms } authKinds .header name ∧
      ∀ refTo, ¬ Documents refTo record .header name := by
  obtain ⟨record, stop, hbuild⟩ := authRecord_yields
  obtain ⟨classified, hclassified, hslots⟩ := slot_of_build isLibrary_noSchemas coherent_empty hbuild
  cases classify_auth.symm.trans hclassified
  obtain ⟨model, hget, hrecord, hfields⟩ :=
    hslots .header (contributed_ne_nil (auth_demands "X-Id" (by simp)))
  have hlost : ∀ name ∈ ["X-Id", "X-Other"], name ∉ requiredKeys
      (putFields [] (contributed { customs := authCustoms } noSchemas default authKinds .header)) := by
    decide +kernel
  refine ⟨record, stop, hbuild, classify_auth, fun name hname => ⟨auth_demands name ?_, ?_⟩⟩
  · simp only [List.mem_cons, List.not_mem_nil, or_false] at hname ⊢
    exact hname.imp_right .inr
  · intro refTo hdocuments
    apply hlost name hname
    rw [← hfields]
    exact ((documents_iff hget hrecord).1 hdocuments).2

/-! ## Names that do not collide -/

section

variable {fields : List Field}

theorem mem_of_mem_putFields {field : Field} (h : field ∈ putFields [] fields) : field ∈ fields := by
  obtain ⟨earlier, later, hfields, -⟩ := (lastOfEach_putFields_nil fields).last field h
  rw [hfields]
  simp

/-- Of fields made from names, one prevails if all with its member have its name. -/
theorem prevails_of_distinct (hnamed : ∀ field ∈ fields, ∃ name, field = namedField name) {name : String}
    (hname : namedField name ∈ fields)
    (hdistinct : ∀ other, namedField other ∈ fields → memberOf other = memberOf name → other = name) :
    Prevails fields name := by
  have hmember : (namedField name).member ∈ (putFields [] fields).map Field.member :=
    (lastOfEach_putFields_nil fields).mem_keys_iff.2 (List.mem_map_of_mem hname)
  -- what is kept under the member is made from a name too
  obtain ⟨kept, hkept, hsame⟩ := List.mem_map.1 hmember
  obtain ⟨other, rfl⟩ := hnamed kept (mem_of_mem_putFields hkept)
  obtain rfl : other = name := hdistinct other (mem_of_mem_putFields hkept) hsame
  exact prevails_iff.2 (List.mem_map.2 ⟨_, List.mem_filter.2 ⟨hkept, rfl⟩, rfl⟩)

theorem fieldModels_eq_nil (hnamed : ∀ field ∈ fields, ∃ name, field = namedField name) :
    fieldModels fields = [] := by
  induction fields with
  | nil => rfl
  | cons first rest ih =>
      rw [List.forall_mem_cons] at hnamed
      obtain ⟨⟨name, rfl⟩, hrest⟩ := hnamed
      rw [namedField, fieldModels, ih hrest]
      split <;> rfl

theorem shownFields_subset (fields : List Field) : shownFields fields ⊆ fields := by
  induction fields with
  | nil => exact List.Subset.refl _
  | cons first rest ih =>
      rw [shownFields]
      split
      · exact List.subset_cons_of_subset _ ih
      · exact List.cons_subset_cons _ ih

/-- Fields made from names are all required, and hold no values and no models. -/
theorem checkReferences_named (hnamed : ∀ field ∈ fields, ∃ name, field = namedField name) :
    (Model.record default "" none .ignore fields).checkReferences =
      if referenceKey ∈ requiredKeys fields then .error .misplaced else .ok () := by
  have hnested : (Model.record default "" none .ignore fields).nested = [] := by
    rw [Model.nested, fieldModels_eq_nil hnamed]
  have hdata : (Model.record default "" none .ignore fields).data = [] := by
    rw [Model.data, List.flatMap_eq_nil_iff]
    intro field hfield
    obtain ⟨name, rfl⟩ := hnamed field (shownFields_subset fields hfield)
    rfl
  have hkey : isKeyOf fields referenceKey = true ↔ referenceKey ∈ requiredKeys fields := by
    rw [isKeyOf, List.any_eq_true, requiredKeys, List.mem_map]
    refine exists_congr fun field => ?_
    rw [List.mem_filter, beq_iff_eq]
    refine and_congr_left fun _ => (and_iff_left_of_imp fun hfield => ?_).symm
    obtain ⟨name, rfl⟩ := hnamed field hfield
    rfl
  rw [Model.checkReferences, hnested]
  simp only [List.any_cons, List.any_nil, hdata, Bool.or_false]
  rw [if_neg (by simp)]
  exact if_congr hkey rfl rfl

/-- **The schema of fields made from names can be rendered, unless a property is called like a
reference.** -/
theorem presentable_iff (hnamed : ∀ field ∈ fields, ∃ name, field = namedField name) :
    Presentable fields ↔ ¬ Prevails fields referenceKey := by
  have hkept : ∀ field ∈ putFields [] fields, ∃ name, field = namedField name :=
    fun field hfield => hnamed field (mem_of_mem_putFields hfield)
  rw [Presentable, prevails_iff, checkReferences_named hkept]
  split
  · rename_i hkey
    exact iff_of_false nofun (not_not_intro hkey)
  · rename_i hkey
    exact iff_of_true rfl hkey

end

/-- The fields demanded under a name are those of a custom middleware of this name. -/
theorem exists_custom_of_demandedFields {customs : List Custom} {own : String} {slot : Slot}
    {name : String} (h : name ∈ demandedFields customs own slot) :
    ∃ custom ∈ customs, custom.name = own ∧ name ∈ custom.fields slot := by
  rw [demandedFields] at h
  cases hfind : customs.find? fun custom => custom.name == own && !(custom.fields slot).isEmpty with
  | none =>
      rw [hfind] at h
      cases h
  | some custom =>
      rw [hfind] at h
      have hfound := List.find?_some hfind
      rw [Bool.and_eq_true, beq_iff_eq] at hfound
      exact ⟨custom, List.mem_of_find?_eq_some hfind, hfound.1, h⟩

/-- Without given schemas all fields contributed to a slot are made from names demanded there. -/
theorem exists_demanded_of_contributed {setup : Setup} {provider : Provider} {declaration : Declaration}
    (hgiven : ∀ custom ∈ setup.customs, custom.schemaSlot = none) {classified : List Expression}
    (hcustoms : ∀ expression ∈ classified, expression.kind = .custom) {slot : Slot} {field : Field}
    (h : field ∈ contributed setup provider declaration classified slot) :
    ∃ name, IsDemanded setup classified slot name ∧ field = namedField name := by
  rw [contributed, Account.of, List.mem_flatten] at h
  obtain ⟨fields, hfields, hfield⟩ := h
  obtain ⟨⟨place, fields⟩, hplaced, rfl⟩ := List.mem_map.1 hfields
  obtain ⟨hlisted, hplace⟩ := List.mem_filter.1 hplaced
  obtain ⟨account, haccount, hadded⟩ := mem_schemas_sum.1 hlisted
  obtain ⟨expression, hexpression, rfl⟩ := List.mem_map.1 haccount
  have hkind := hcustoms expression hexpression
  rw [accountOf, hkind] at hadded
  obtain ⟨part, hpart, hown⟩ := mem_schemas_sum.1 hadded
  obtain ⟨settled, hsettled, rfl⟩ := List.mem_map.1 hpart
  obtain ⟨hmem, hmentions⟩ := List.mem_filter.1 hsettled
  obtain ⟨custom, hcustom, rfl⟩ := List.mem_map.1 hmem
  rw [customAccount_settled hcustom, hgiven custom hcustom] at hown
  simp only [Option.bind_none, List.append_nil, List.mem_map, Prod.mk.injEq] at hown
  obtain ⟨own, -, rfl, rfl⟩ := hown
  obtain ⟨name, hname, rfl⟩ := List.mem_map.1 hfield
  -- the fields are those of the first middleware of the name, which is mentioned where another one is
  obtain ⟨first, hfirst, hsame, hdemands⟩ := exists_custom_of_demandedFields hname
  obtain rfl : own = slot := by simpa using hplace
  refine ⟨name, ⟨expression, hexpression, hkind, first, hfirst, ?_, hdemands⟩, rfl⟩
  rw [hsame]
  exact hmentions

/-- **Where no names collide, nothing that is demanded is lost.** With distinct names of custom middlewares
that are given no schemas: where the demanded names of a slot are turned into distinct members and none is
called like a reference, all of them are documented. -/
theorem demanded_documented_of_distinct {setup : Setup} {provider : Provider} {declaration : Declaration}
    {subject : Subject} {chain : List Expression} {session stop : Session} {record : Record}
    (refTo : String → String) (hlibrary : IsLibrary provider) (hsession : Coherent setup provider session)
    (hnames : (setup.customs.map Custom.name).Nodup)
    (hgiven : ∀ custom ∈ setup.customs, custom.schemaSlot = none)
    (hbuild : Yields (build setup provider declaration subject chain) session record stop) :
    ∃ classified, classify setup chain = .ok classified ∧
      ((∀ expression ∈ classified, expression.kind = .custom) → ∀ slot,
        (∀ first second, IsDemanded setup classified slot first → IsDemanded setup classified slot second →
          memberOf first = memberOf second → first = second) →
        ¬ IsDemanded setup classified slot referenceKey →
        ∀ name, IsDemanded setup classified slot name → Documents refTo record slot name) := by
  obtain ⟨classified, hclassified, hslots⟩ := slot_of_build hlibrary hsession hbuild
  refine ⟨classified, hclassified, fun hcustoms slot hdistinct href name hdemanded => ?_⟩
  obtain ⟨model, hget, hrecord, hfields⟩ := hslots slot (contributed_ne_nil hdemanded)
  have hmade : ∀ field ∈ contributed setup provider declaration classified slot,
      ∃ name, IsDemanded setup classified slot name ∧ field = namedField name :=
    fun field hfield => exists_demanded_of_contributed hgiven hcustoms hfield
  have hnamed : ∀ field ∈ contributed setup provider declaration classified slot,
      ∃ name, field = namedField name :=
    fun field hfield => (hmade field hfield).imp fun name h => h.2
  have hown : namedField name ∈ contributed setup provider declaration classified slot := by
    obtain ⟨expression, hexpression, hkind, custom, hcustom, hmentions, hname⟩ := hdemanded
    have hdemands : (custom.fields slot).isEmpty = false :=
      List.isEmpty_eq_false_iff.2 (List.ne_nil_of_mem hname)
    refine mem_contributed hexpression hkind hcustom hmentions hdemands ?_
    -- among distinct names a middleware is the first of its own
    rwa [demandedFields_eq hnames hcustom hdemands]
  have hof : ∀ other, namedField other ∈ contributed setup provider declaration classified slot →
      IsDemanded setup classified slot other := by
    intro other hother
    obtain ⟨made, hdemands, hsame⟩ := hmade _ hother
    obtain rfl : other = made := congrArg Field.key hsame
    exact hdemands
  rw [documents_iff hget hrecord, hfields, ← prevails_iff]
  refine ⟨(presentable_iff hnamed).2 ?_, prevails_of_distinct hnamed hown fun other hother hsame => ?_⟩
  · rintro ⟨earlier, field, later, hsplit, -, -, hkey⟩
    have hfield : field ∈ contributed setup provider declaration classified slot := by
      rw [hsplit]
      simp
    obtain ⟨made, hdemands, rfl⟩ := hmade field hfield
    obtain rfl : made = referenceKey := hkey
    exact href hdemands
  · exact hdistinct other name (hof other hother) hdemanded hsame

end RouteAtlas.Middleware
