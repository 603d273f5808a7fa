import RouteAtlas.Proofs.OpenApi.NullUnions
import RouteAtlas.Schema.Validate

/-!
# Valid values

Which values a schema accepts: an object is a list of keywords, and a value has to meet all of them. A
keyword about values of one kind says nothing about the others, and a key that is no keyword says nothing
at all. An object that is marked as nullable accepts null in addition. A reference stands for the
definition of its name, beside the other keywords of its object. Patterns are read by a function that the
caller gives.

Resolving unions with null keeps the values that are valid for a schema (`valid_nullable_iff`) as long as
a union with null is the only keyword of its object, no object is marked already, and what stands under the
other keywords has no union with null in it.
-/

set_option autoImplicit false

namespace RouteAtlas.OpenApi

open Schema

/-! ## Keywords -/

mutual

/-- Two values are the same: numbers by value, objects up to the order of their entries. -/
def equal : Json → Json → Bool
  | .null, .null => true
  | .bool a, .bool b => a == b
  | .num a, .num b => a.alike b
  | .str a, .str b => a == b
  | .arr xs, .arr ys => equalItems xs ys
  | .obj xs, .obj ys => xs.length == ys.length && equalFields xs ys
  | _, _ => false

/-- Two lists have the same items. -/
def equalItems : List Json → List Json → Bool
  | [], [] => true
  | x :: xs, y :: ys => equal x y && equalItems xs ys
  | _, _ => false

/-- Every entry of the first list has the same value in the second. -/
def equalFields : List (String × Json) → Table String Json → Bool
  | [], _ => true
  | (key, value) :: rest, ys => (ys.get? key).any (equal value) && equalFields rest ys

end

/-- A number without a fraction. -/
def isWhole : Number → Bool
  | .int _ => true
  | .float (.finite _ significand exponent) => 0 ≤ exponent || significand % twoTo exponent.natAbs == 0
  | .float _ => false

/-- A value is of the type of a name. -/
def hasType (name : String) : Json → Bool
  | .null => name == "null"
  | .bool _ => name == "boolean"
  | .num value => name == "number" || (name == "integer" && isWhole value)
  | .str _ => name == "string"
  | .arr _ => name == "array"
  | .obj _ => name == "object"
  | .foreign => false

/-- What a limit is about: the value of a number, the characters of a text, the items of a list or the
entries of an object. -/
inductive Measure where
  | size
  | characters
  | items
  | entries

/-- The measure of a value that has it. -/
def Measure.of? : Measure → Json → Option Number
  | .size, .num number => some number
  | .characters, .str text => some (.int text.length)
  | .items, .arr list => some (.int list.length)
  | .entries, .obj fields => some (.int fields.length)
  | _, _ => none

/-- The keywords that limit a measure, and what each asks of its bound and the measure. -/
def limits : Table String (Measure × (Number → Number → Bool)) :=
  [("minimum", .size, fun bound value => !isLess value bound),
   ("exclusiveMinimum", .size, fun bound value => isLess bound value),
   ("maximum", .size, fun bound value => !isLess bound value),
   ("exclusiveMaximum", .size, fun bound value => isLess value bound),
   ("minLength", .characters, fun bound length => !isLess length bound),
   ("maxLength", .characters, fun bound length => !isLess bound length),
   ("minItems", .items, fun bound count => !isLess count bound),
   ("maxItems", .items, fun bound count => !isLess bound count),
   ("minProperties", .entries, fun bound count => !isLess count bound),
   ("maxProperties", .entries, fun bound count => !isLess bound count)]

/-- A value keeps to a limit. -/
def keepsLimit (key : String) (setting value : Json) : Bool :=
  match limits.get? key, setting with
  | some (measure, holds), .num bound => (measure.of? value).all (holds bound)
  | _, _ => true

/-- An object has an entry under every name of a list. -/
def hasEntries (names : List Json) : Json → Bool
  | .obj members => names.all fun name => name.str?.all (Table.has members)
  | _ => true

/-- A text has the form of a pattern. -/
def hasForm (matching : String → String → Bool) (pattern : String) : Json → Bool
  | .str text => matching pattern text
  | _ => true

/-- A value meets a keyword that asks nothing of its parts. -/
def meetsSetting (matching : String → String → Bool) (key : String) (setting value : Json) : Bool :=
  match key, setting with
  | "type", .str name => hasType name value
  | "const", setting => equal setting value
  | "enum", .arr values => values.any fun allowed => equal allowed value
  | "required", .arr names => hasEntries names value
  | "pattern", .str pattern => hasForm matching pattern value
  | key, setting => keepsLimit key setting value

/-! ## Schemas -/

/-- An object is marked as nullable. -/
def isMarked (fields : Table String Json) : Bool :=
  (fields.get? "nullable").any fun mark => equal mark (.bool true)

section

variable (matching : String → String → Bool) (follow : String → Json → Bool)

mutual

/-- A schema accepts a value; `follow` tells which values a reference accepts. -/
def accepts : Json → Json → Bool
  | .bool allowed, _ => allowed
  | .obj fields, value =>
      (isMarked fields && equal value .null) || meetsAll (propertyNames (.obj fields)) fields value
  | _, _ => false
termination_by structural schema => schema

/-- One schema of a union accepts a value. What is no list says nothing. -/
def acceptsUnion : Json → Json → Bool
  | .arr variants, value => acceptsAny variants value
  | _, _ => true
termination_by structural union => union

/-- One of some schemas accepts a value. -/
def acceptsAny : List Json → Json → Bool
  | [], _ => false
  | schema :: rest, value => accepts schema value || acceptsAny rest value
termination_by structural schemas => schemas

/-- The members of an object are accepted by the properties of their names. What is no object says
nothing. -/
def acceptsProperties : Json → Table String Json → Bool
  | .obj table, members => acceptsMembers table members
  | _, _ => true
termination_by structural properties => properties

/-- The members of an object are accepted by the schemas under their names. -/
def acceptsMembers : List (String × Json) → Table String Json → Bool
  | [], _ => true
  | (name, schema) :: rest, members =>
      ((members.get? name).all fun member => accepts schema member) && acceptsMembers rest members
termination_by structural table => table

/-- A value meets all keywords of a list; `declared` holds the names that the object lists. -/
def meetsAll (declared : List String) : List (String × Json) → Json → Bool
  | [], _ => true
  | (key, setting) :: rest, value =>
      (if key = "anyOf" then acceptsUnion setting value
      else if key = "properties" then value.obj?.all fun members => acceptsProperties setting members
      else if key = "items" then value.arr?.all fun items => items.all fun item => accepts setting item
      else if key = "additionalProperties" then
        value.obj?.all fun members => members.all fun member =>
          declared.contains member.1 || accepts setting member.2
      else if key = "$ref" then setting.str?.all fun reference => follow reference value
      else meetsSetting matching key setting value)
      && meetsAll declared rest value
termination_by structural fields => fields

end

variable {matching follow}

theorem acceptsAny_eq (variants : List Json) (value : Json) :
    acceptsAny matching follow variants value =
      variants.any fun variant => accepts matching follow variant value := by
  induction variants with
  | nil => simp [acceptsAny]
  | cons variant rest ih => simp [acceptsAny, ih]

theorem acceptsMembers_eq (table : List (String × Json)) (members : Table String Json) :
    acceptsMembers matching follow table members =
      table.all fun entry => (members.get? entry.1).all (accepts matching follow entry.2) := by
  induction table with
  | nil => simp [acceptsMembers]
  | cons entry rest ih => rw [acceptsMembers, ih, List.all_cons]

/-- The keywords of an object are met one by one. -/
theorem meetsAll_eq (declared : List String) (fields : List (String × Json)) (value : Json) :
    meetsAll matching follow declared fields value =
      fields.all fun entry => meetsAll matching follow declared [entry] value := by
  induction fields with
  | nil => simp [meetsAll]
  | cons entry rest ih =>
      rw [List.all_cons, ← ih, meetsAll, meetsAll, meetsAll, Bool.and_true]

theorem accepts_obj (fields : List (String × Json)) (value : Json) :
    accepts matching follow (.obj fields) value = ((isMarked fields && equal value .null) ||
      fields.all fun entry => meetsAll matching follow (propertyNames (.obj fields)) [entry] value) := by
  rw [accepts, meetsAll_eq]

section

variable (declared : List String) (value : Json)

theorem meets_anyOf (variants : List Json) :
    meetsAll matching follow declared [("anyOf", .arr variants)] value =
      variants.any fun variant => accepts matching follow variant value := by
  simp [meetsAll, acceptsUnion, acceptsAny_eq]

theorem meets_properties (table : List (String × Json)) :
    meetsAll matching follow declared [("properties", .obj table)] value =
      value.obj?.all fun members =>
        table.all fun entry => (Table.get? members entry.1).all (accepts matching follow entry.2) := by
  simp [meetsAll, acceptsProperties, acceptsMembers_eq]

theorem meets_items (schema : Json) :
    meetsAll matching follow declared [("items", schema)] value =
      value.arr?.all fun items => items.all fun item => accepts matching follow schema item := by
  simp [meetsAll]

theorem meets_additional (schema : Json) :
    meetsAll matching follow declared [("additionalProperties", schema)] value =
      value.obj?.all fun members => members.all fun member =>
        declared.contains member.1 || accepts matching follow schema member.2 := by
  simp [meetsAll]

end

/-- The keywords under which schemas stand. -/
def schemaKeys : List String := ["anyOf", "properties", "items", "additionalProperties"]

/-- The keys that say something about values. -/
def isKeyword (key : String) : Bool :=
  (schemaKeys ++ ["type", "const", "enum", "required", "pattern", "$ref"] ++ Table.keys limits).contains key

theorem ne_of_not_isKeyword {key other : String} (h : isKeyword key = false)
    (hother : isKeyword other = true) : key ≠ other := by
  rintro rfl
  rw [h] at hother
  cases hother

/-- A key that is no keyword says nothing. -/
theorem meets_remark {key : String} (h : isKeyword key = false) (declared : List String)
    (setting value : Json) : meetsAll matching follow declared [(key, setting)] value = true := by
  have hne : ∀ other, isKeyword other = true → key ≠ other := fun other => ne_of_not_isKeyword h
  have hlimit : limits.get? key = none := by
    rw [Table.get?_eq_none_iff]
    intro hmem
    rw [isKeyword, List.contains_iff_mem.2 (List.mem_append_right _ hmem)] at h
    cases h
  have hsetting : meetsSetting matching key setting value = true := by
    unfold meetsSetting
    split
    · exact absurd rfl (hne "type" (by decide))
    · exact absurd rfl (hne "const" (by decide))
    · exact absurd rfl (hne "enum" (by decide))
    · exact absurd rfl (hne "required" (by decide))
    · exact absurd rfl (hne "pattern" (by decide))
    · simp only [keepsLimit, hlimit]
  rw [meetsAll, if_neg (hne "anyOf" (by decide)), if_neg (hne "properties" (by decide)),
    if_neg (hne "items" (by decide)), if_neg (hne "additionalProperties" (by decide)),
    if_neg (hne "$ref" (by decide)), hsetting, meetsAll]
  rfl

/-- Only the keywords of an object count. -/
theorem all_meets_eq (declared : List String) (fields : List (String × Json)) (value : Json) :
    (fields.all fun entry => meetsAll matching follow declared [entry] value) =
      (fields.filter fun entry => isKeyword entry.1).all fun entry =>
        meetsAll matching follow declared [entry] value := by
  rw [List.all_filter]
  congr 1
  funext entry
  cases hkey : isKeyword entry.1 with
  | true => rfl
  | false => exact meets_remark hkey declared entry.2 value

/-! ## Tidy schemas -/

/-- What a value stands for: a schema, or what is under a key of one. -/
inductive Role where
  | schema
  | under (key : String)

/-- A union with null is the only keyword of its object. -/
def IsLone (fields : List (String × Json)) : Prop :=
  ∀ variants, ("anyOf", .arr variants) ∈ fields → nullSchema ∈ variants →
    fields.filter (fun entry => isKeyword entry.1) = [("anyOf", .arr variants)]

/-- A schema that can be resolved without a change of meaning: no object is marked, a union with null is
the only keyword of its object and has objects as members, no union with null stands under a keyword that
holds no schemas, and nothing under another key keeps unions from being resolved. -/
inductive Tidy : Role → Json → Prop where
  | bool (allowed : Bool) : Tidy .schema (.bool allowed)
  | obj {fields : List (String × Json)} : (∀ entry ∈ fields, Tidy (.under entry.1) entry.2) →
      "nullable" ∉ Table.keys fields → IsLone fields → Tidy .schema (.obj fields)
  | union {variants : List Json} : (∀ variant ∈ variants, Tidy .schema variant) →
      (∀ variant ∈ variants, variant.obj?.isSome = true) → Tidy (.under "anyOf") (.arr variants)
  | properties {table : List (String × Json)} : (∀ entry ∈ table, Tidy .schema entry.2) →
      Tidy (.under "properties") (.obj table)
  | items {schema : Json} : Tidy .schema schema → Tidy (.under "items") schema
  | additional {schema : Json} : Tidy .schema schema → Tidy (.under "additionalProperties") schema
  | setting {key : String} {value : Json} : isKeyword key = true → key ∉ schemaKeys → NullFree value →
      Tidy (.under key) value
  | remark {key : String} {value : Json} : isKeyword key = false → StrayFree value →
      Tidy (.under key) value

/-- What stands under a key of a tidy object. -/
theorem Tidy.under_cases {key : String} {value : Json} (h : Tidy (.under key) value) :
    (key = "anyOf" ∧ ∃ variants, value = .arr variants ∧ (∀ variant ∈ variants, Tidy .schema variant) ∧
      ∀ variant ∈ variants, variant.obj?.isSome = true) ∨
    (key = "properties" ∧ ∃ table, value = .obj table ∧ ∀ entry ∈ table, Tidy .schema entry.2) ∨
    ((key = "items" ∨ key = "additionalProperties") ∧ Tidy .schema value) ∨
    (isKeyword key = true ∧ key ∉ schemaKeys ∧ NullFree value) ∨
    (isKeyword key = false ∧ StrayFree value) := by
  cases h with
  | union hvariants hobjects => exact .inl ⟨rfl, _, rfl, hvariants, hobjects⟩
  | properties htable => exact .inr (.inl ⟨rfl, _, rfl, htable⟩)
  | items hschema => exact .inr (.inr (.inl ⟨.inl rfl, hschema⟩))
  | additional hschema => exact .inr (.inr (.inl ⟨.inr rfl, hschema⟩))
  | setting hkeyword hkey hfree => exact .inr (.inr (.inr (.inl ⟨hkeyword, hkey, hfree⟩)))
  | remark hkeyword hfree => exact .inr (.inr (.inr (.inr ⟨hkeyword, hfree⟩)))

/-- A tidy union is a list of tidy objects. -/
theorem Tidy.exists_variants {value : Json} (h : Tidy (.under "anyOf") value) :
    ∃ variants, value = .arr variants ∧ (∀ variant ∈ variants, Tidy .schema variant) ∧
      ∀ variant ∈ variants, variant.obj?.isSome = true := by
  rcases h.under_cases with ⟨-, hvariants⟩ | ⟨hkey, -⟩ | ⟨hkey, -⟩ | ⟨-, hkey, -⟩ | ⟨hkey, -⟩
  · exact hvariants
  · exact absurd hkey (by decide)
  · exact absurd hkey (by decide)
  · exact absurd (by decide) hkey
  · cases hkey

/-- Tidy properties are a table of tidy schemas. -/
theorem Tidy.exists_table {value : Json} (h : Tidy (.under "properties") value) :
    ∃ table, value = .obj table ∧ ∀ entry ∈ table, Tidy .schema entry.2 := by
  rcases h.under_cases with ⟨hkey, -⟩ | ⟨-, htable⟩ | ⟨hkey, -⟩ | ⟨-, hkey, -⟩ | ⟨hkey, -⟩
  · exact absurd hkey (by decide)
  · exact htable
  · exact absurd hkey (by decide)
  · exact absurd (by decide) hkey
  · cases hkey

/-- A table of tidy schemas is no union: under no key does it hold a list. -/
theorem get?_ne_arr_of_tidy {table : List (String × Json)} (h : ∀ entry ∈ table, Tidy .schema entry.2)
    (key : String) (items : List Json) : Table.get? table key ≠ some (.arr items) := by
  intro hget
  cases h _ (Table.mem_of_get? hget)

theorem StrayFree.of_nullFree {json : Json} (h : NullFree json) : StrayFree json := by
  rintro fields hwithin ⟨variants, hunion, hnull, -⟩
  exact h fields hwithin ⟨variants, hunion, hnull⟩

/-- **The unions of a tidy schema can be resolved.** -/
theorem Tidy.strayFree {role : Role} {json : Json} (h : Tidy role json) : StrayFree json := by
  induction h with
  | bool allowed => exact everyObject_leaf rfl rfl
  | @obj fields hentries _ _ ih =>
      refine everyObject_obj.2 ⟨?_, ih⟩
      rintro ⟨variants, hunion, -, other, hother, hobj⟩
      have hmem : other ∈ variants := by
        apply (mem_otherVariants.1 _).1
        rw [hother]
        exact List.mem_singleton_self other
      obtain ⟨members, hmembers, -, hobjects⟩ := (hentries _ (Table.mem_of_get? hunion)).exists_variants
      cases hmembers
      have hobject := hobjects other hmem
      rw [hobj] at hobject
      cases hobject
  | union _ _ ih => exact everyObject_arr.2 ih
  | properties htable ih =>
      refine everyObject_obj.2 ⟨?_, ih⟩
      rintro ⟨variants, hunion, -⟩
      exact get?_ne_arr_of_tidy htable _ _ hunion
  | items _ ih => exact ih
  | additional _ ih => exact ih
  | setting _ _ hfree => exact .of_nullFree hfree
  | remark _ hfree => exact hfree

/-! ## Meaning -/

variable (matching follow) in
/-- Resolving the unions of a value keeps what it means in its role. -/
def KeepsMeaning (json : Json) : Role → Prop
  | .schema => ∀ image, nullable json = .ok image → ∀ value,
      accepts matching follow image value = accepts matching follow json value
  | .under key => ∀ image, nullable json = .ok image → ∀ declared value,
      meetsAll matching follow declared [(key, image)] value =
        meetsAll matching follow declared [(key, json)] value

theorem any_eq_of_forall₂ {α β : Type} {f : α → Bool} {g : β → Bool} {items : List α} {values : List β}
    (h : List.Forall₂ (fun item value => g value = f item) items values) : values.any g = items.any f := by
  induction h with
  | nil => rfl
  | cons hfirst _ ih => rw [List.any_cons, List.any_cons, hfirst, ih]

theorem all_eq_of_forall₂ {α β : Type} {f : α → Bool} {g : β → Bool} {items : List α} {values : List β}
    (h : List.Forall₂ (fun item value => g value = f item) items values) : values.all g = items.all f := by
  induction h with
  | nil => rfl
  | cons hfirst _ ih => rw [List.all_cons, List.all_cons, hfirst, ih]

/-- The variants of a union and their images accept the same values. -/
theorem any_accepts_eq {variants resolved : List Json}
    (h : ∀ variant ∈ variants, KeepsMeaning matching follow variant .schema)
    (hresolved : nullableItems variants = .ok resolved) (value : Json) :
    (resolved.any fun variant => accepts matching follow variant value) =
      variants.any fun variant => accepts matching follow variant value := by
  refine any_eq_of_forall₂ (((List.forall₂_and_left _ _).2 ⟨h, nullableItems_eq_ok_iff.1 hresolved⟩).imp ?_)
  rintro variant image ⟨hkeeps, himage⟩
  exact hkeeps image himage value

theorem keepsMeaning_properties {table : List (String × Json)}
    (htable : ∀ entry ∈ table, Tidy .schema entry.2)
    (h : ∀ entry ∈ table, KeepsMeaning matching follow entry.2 .schema) :
    KeepsMeaning matching follow (.obj table) (.under "properties") := by
  intro image himage declared value
  obtain ⟨resolved, hresolved, rfl⟩ := nullable_obj_cases himage (get?_ne_arr_of_tidy htable "anyOf")
  have hpairs := (List.forall₂_and_left _ _).2 ⟨h, nullableEntries_eq_ok_iff.1 hresolved⟩
  rw [meets_properties, meets_properties]
  congr 1
  funext members
  refine all_eq_of_forall₂ (hpairs.imp ?_)
  rintro entry converted ⟨hkeeps, hname, himage⟩
  rw [hname]
  congr 1
  funext member
  exact hkeeps converted.2 himage member

theorem accepts_keywords (fields : List (String × Json)) (value : Json) :
    accepts matching follow (.obj fields) value = ((isMarked fields && equal value .null) ||
      (fields.filter fun entry => isKeyword entry.1).all fun entry =>
        meetsAll matching follow (propertyNames (.obj fields)) [entry] value) := by
  rw [accepts_obj, all_meets_eq]

theorem isMarked_of_unmarked {fields : Table String Json} (h : "nullable" ∉ Table.keys fields) :
    isMarked fields = false := by
  rw [isMarked, Table.get?_eq_none_iff.2 h]
  rfl

theorem isMarked_of_marked {fields : Table String Json} (h : fields.get? "nullable" = some (.bool true)) :
    isMarked fields = true := by
  rw [isMarked, h]
  rfl

/-- An object whose only keyword is a union accepts what the union accepts, and null if it is marked. -/
theorem accepts_lone {fields : List (String × Json)} {variants : List Json}
    (h : fields.filter (fun entry => isKeyword entry.1) = [("anyOf", .arr variants)]) (value : Json) :
    accepts matching follow (.obj fields) value = ((isMarked fields && equal value .null) ||
      variants.any fun variant => accepts matching follow variant value) := by
  rw [accepts_keywords, h, List.all_cons, List.all_nil, Bool.and_true, meets_anyOf]

/-- The schema of null accepts null alone. -/
theorem accepts_nullSchema (value : Json) :
    accepts matching follow nullSchema value = equal value .null := by
  have htype : hasType "null" value = equal value .null := by
    cases value with
    | _ => rfl
  rw [← htype, nullSchema, accepts, nullEntries]
  simp [isMarked, Table.get?, meetsAll, meetsSetting]

/-- A union with null accepts null and what its other members accept. -/
theorem any_accepts_null {variants : List Json} (h : nullSchema ∈ variants) (value : Json) :
    (variants.any fun variant => accepts matching follow variant value) = (equal value .null ||
      (otherVariants variants).any fun variant => accepts matching follow variant value) := by
  rw [Bool.eq_iff_iff, Bool.or_eq_true, List.any_eq_true, List.any_eq_true]
  constructor
  · rintro ⟨variant, hvariant, haccepts⟩
    by_cases hnull : variant = nullSchema
    · rw [hnull, accepts_nullSchema] at haccepts
      exact .inl haccepts
    · exact .inr ⟨variant, mem_otherVariants.2 ⟨hvariant, hnull⟩, haccepts⟩
  · rintro (hnull | ⟨variant, hvariant, haccepts⟩)
    · exact ⟨nullSchema, h, by rw [accepts_nullSchema, hnull]⟩
    · exact ⟨variant, (mem_otherVariants.1 hvariant).1, haccepts⟩

theorem filter_put {key : String} (hkey : isKeyword key = false) (table : Table String Json) (value : Json) :
    (table.put key value).filter (fun entry => isKeyword entry.1) =
      table.filter fun entry => isKeyword entry.1 := by
  induction table with
  | nil => simp [Table.put, hkey]
  | cons entry rest ih =>
      rw [Table.put]
      split
      · rename_i heq
        simp [heq, hkey]
      · rw [List.filter_cons, List.filter_cons, ih]

theorem filter_putAll {entries : List (String × Json)} (h : ∀ entry ∈ entries, isKeyword entry.1 = false)
    (table : Table String Json) :
    (table.putAll entries).filter (fun entry => isKeyword entry.1) =
      table.filter fun entry => isKeyword entry.1 := by
  induction entries generalizing table with
  | nil => rfl
  | cons entry rest ih =>
      rw [List.forall_mem_cons] at h
      exact (ih h.2 _).trans (filter_put h.1 table entry.2)

theorem filter_keywords_drop {key : String} (hkey : isKeyword key = false) (table : Table String Json) :
    (table.drop key).filter (fun entry => isKeyword entry.1) =
      table.filter fun entry => isKeyword entry.1 := by
  rw [Table.drop, List.filter_filter]
  refine List.filter_congr fun entry _ => ?_
  cases hkeyword : isKeyword entry.1 with
  | false => rfl
  | true => simp [ne_of_not_isKeyword hkey hkeyword |>.symm]

/-- A key that neither is a keyword nor marks an object can be dropped. -/
theorem accepts_drop {key : String} (hkey : isKeyword key = false) (hmark : "nullable" ≠ key)
    (fields : Table String Json) (value : Json) :
    accepts matching follow (.obj (fields.drop key)) value = accepts matching follow (.obj fields) value := by
  have hproperties : "properties" ≠ key := (ne_of_not_isKeyword hkey (by decide)).symm
  have hnames : propertyNames (.obj (fields.drop key)) = propertyNames (.obj fields) := by
    simp only [propertyNames, Json.get?, Table.get?_drop_of_ne fields hproperties]
  rw [accepts_keywords, accepts_keywords fields, filter_keywords_drop hkey, hnames, isMarked, isMarked,
    Table.get?_drop_of_ne fields hmark]

/-- The object of a union with null that is merged with the one member left accepts null and what the
member accepts, as long as the union was its only keyword. -/
theorem accepts_mergedFields {fields member : Table String Json}
    (h : ∀ entry ∈ fields.drop "anyOf", isKeyword entry.1 = false) (value : Json) :
    accepts matching follow (.obj (mergedFields fields member)) value =
      (equal value .null || accepts matching follow (.obj member) value) := by
  have hkeywords : (mergedFields fields member).filter (fun entry => isKeyword entry.1) =
      member.filter fun entry => isKeyword entry.1 := by
    rw [mergedFields, filter_put (by decide), filter_putAll h]
  have habsent : "properties" ∉ Table.keys (fields.drop "anyOf") := by
    intro hmem
    obtain ⟨entry, hentry, hkey⟩ := List.mem_map.1 hmem
    have hremark := h entry hentry
    rw [hkey] at hremark
    cases hremark
  have hnames : propertyNames (.obj (mergedFields fields member)) = propertyNames (.obj member) := by
    simp only [propertyNames, Json.get?, mergedFields]
    rw [Table.get?_put_of_ne _ _ (by decide), get?_putAll_of_not_mem habsent]
  rw [accepts_keywords, accepts_keywords member, hkeywords, hnames,
    isMarked_of_marked (get?_nullable_mergedFields fields member)]
  cases equal value .null with
  | true => rfl
  | false => simp

/-- The object of a union with null that keeps the rest of the union accepts null and what the rest
accepts. -/
theorem accepts_markedFields {fields : Table String Json} {others : List Json}
    (h : ∀ entry ∈ fields.drop "anyOf", isKeyword entry.1 = false) (value : Json) :
    accepts matching follow (.obj (markedFields fields others)) value =
      (equal value .null || others.any fun variant => accepts matching follow variant value) := by
  have hkeywords : (markedFields fields others).filter (fun entry => isKeyword entry.1) =
      [("anyOf", .arr others)] := by
    rw [markedFields, filter_put (by decide), Table.put_of_not_mem_keys _ (not_mem_keys_drop fields "anyOf"),
      List.filter_append, List.filter_eq_nil_iff.2 fun entry hentry => by simp [h entry hentry]]
    rfl
  rw [accepts_lone hkeywords, isMarked_of_marked (get?_nullable_markedFields fields others), Bool.true_and]

/-- Resolving does not change which properties a tidy object lists. -/
theorem propertyNames_nullableEntries {fields entries : List (String × Json)}
    (htidy : ∀ entry ∈ fields, Tidy (.under entry.1) entry.2) (h : nullableEntries fields = .ok entries) :
    propertyNames (.obj entries) = propertyNames (.obj fields) := by
  obtain ⟨hsome, hnone⟩ := get?_nullableEntries h "properties"
  simp only [propertyNames, Json.get?]
  cases hget : Table.get? fields "properties" with
  | none => rw [hnone hget]
  | some value =>
      obtain ⟨image, himage, hnullable⟩ := hsome value hget
      obtain ⟨table, rfl, htable⟩ := (htidy _ (Table.mem_of_get? hget)).exists_table
      obtain ⟨resolved, hresolved, rfl⟩ := nullable_obj_cases hnullable (get?_ne_arr_of_tidy htable "anyOf")
      rw [himage]
      exact keys_nullableEntries hresolved

/-- Beside a union with null a tidy object has no keyword. -/
theorem not_isKeyword_of_lone {fields entries : List (String × Json)} {variants : List Json}
    (hlone : fields.filter (fun entry => isKeyword entry.1) = [("anyOf", .arr variants)])
    (hkeys : Table.keys entries = Table.keys fields) :
    ∀ entry ∈ Table.drop entries "anyOf", isKeyword entry.1 = false := by
  intro entry hentry
  obtain ⟨hmem, hkey⟩ := List.mem_filter.1 hentry
  have hfield : entry.1 ∈ Table.keys fields := by
    rw [← hkeys]
    exact List.mem_map_of_mem hmem
  obtain ⟨field, hfield, hsame⟩ := List.mem_map.1 hfield
  rw [← hsame] at hkey ⊢
  cases hkeyword : isKeyword field.1 with
  | false => rfl
  | true =>
      have hunion : field ∈ fields.filter fun entry => isKeyword entry.1 :=
        List.mem_filter.2 ⟨hfield, hkeyword⟩
      rw [hlone, List.mem_singleton] at hunion
      simp [hunion] at hkey

/-- **Resolving the unions of an object keeps its meaning** where it keeps that of its entries. -/
theorem keepsMeaning_obj {fields : List (String × Json)}
    (htidy : ∀ entry ∈ fields, Tidy (.under entry.1) entry.2) (hunmarked : "nullable" ∉ Table.keys fields)
    (hlone : IsLone fields) (h : ∀ entry ∈ fields, KeepsMeaning matching follow entry.2 (.under entry.1)) :
    KeepsMeaning matching follow (.obj fields) .schema := by
  intro image himage value
  obtain ⟨entries, hentries, resolved, hfields, rfl⟩ := nullable_obj_eq_ok.1 himage
  have hkeys := keys_nullableEntries hentries
  rcases nullableFields_cases hfields with ⟨-, rfl⟩ | ⟨images, hunion, hnull, hresult⟩
  · -- every keyword is met as before
    have hpairs := (List.forall₂_and_left _ _).2 ⟨h, nullableEntries_eq_ok_iff.1 hentries⟩
    rw [accepts_obj, accepts_obj, isMarked_of_unmarked hunmarked, isMarked_of_unmarked (hkeys ▸ hunmarked),
      propertyNames_nullableEntries htidy hentries]
    congr 1
    refine all_eq_of_forall₂ (hpairs.imp ?_)
    rintro ⟨key, before⟩ ⟨sameKey, after⟩ ⟨hkeeps, rfl, hafter⟩
    exact hkeeps after hafter _ value
  · obtain ⟨variants, hvariants, hitems⟩ := get?_arr_of_nullableEntries hentries hunion
    have hmem := Table.mem_of_get? hvariants
    have hkeyword := hlone variants hmem ((nullSchema_mem_iff hitems).1 hnull)
    have hplain := not_isKeyword_of_lone hkeyword hkeys
    have hmeets : (images.any fun variant => accepts matching follow variant value) =
        variants.any fun variant => accepts matching follow variant value := by
      have himages := h _ hmem (.arr images) (nullable_arr_eq_ok.2 ⟨images, hitems, rfl⟩) [] value
      rwa [meets_anyOf, meets_anyOf] at himages
    rw [accepts_lone hkeyword, isMarked_of_unmarked hunmarked, Bool.false_and, Bool.false_or, ← hmeets,
      any_accepts_null hnull]
    rcases hresult with ⟨member, hmember, rfl⟩ | ⟨-, rfl⟩
    · rw [accepts_mergedFields hplain, hmember, List.any_cons, List.any_nil, Bool.or_false]
    · rw [accepts_markedFields hplain]

/-- **Resolving the unions of a tidy value keeps its meaning.** -/
theorem Tidy.keepsMeaning {role : Role} {json : Json} (h : Tidy role json) :
    KeepsMeaning matching follow json role := by
  induction h with
  | bool allowed =>
      intro image himage value
      cases himage
      rfl
  | obj htidy hunmarked hlone ih => exact keepsMeaning_obj htidy hunmarked hlone ih
  | union _ _ ih =>
      intro image himage declared value
      obtain ⟨resolved, hresolved, rfl⟩ := nullable_arr_eq_ok.1 himage
      rw [meets_anyOf, meets_anyOf, any_accepts_eq ih hresolved]
  | properties htable ih => exact keepsMeaning_properties htable ih
  | items _ ih =>
      intro image himage declared value
      simp only [meets_items, ih image himage]
  | additional _ ih =>
      intro image himage declared value
      simp only [meets_additional, ih image himage]
  | setting _ _ hfree =>
      intro image himage declared value
      rw [nullable_of_nullFree hfree, Except.ok.injEq] at himage
      rw [himage]
  | remark hkey _ =>
      intro image himage declared value
      rw [meets_remark hkey, meets_remark hkey]

end

/-! ## References -/

/-- Which values a reference accepts when no more than some number of references are followed in a row. -/
def followed (matching : String → String → Bool) (definitions : List (String × Json)) :
    Nat → String → Json → Bool
  | 0, _, _ => false
  | hops + 1, reference, value =>
      match definitions.find? fun entry => refTo entry.1 == reference with
      | some entry => accepts matching (followed matching definitions hops) entry.2 value
      | none => false

/-- A value is valid for a schema whose references lead to some definitions. -/
def Valid (matching : String → String → Bool) (definitions : List (String × Json)) (schema value : Json) :
    Prop :=
  ∃ hops, accepts matching (followed matching definitions hops) schema value = true

theorem find?_nullableEntries {nested definitions : List (String × Json)}
    (h : nullableEntries nested = .ok definitions) (reference : String) :
    Option.Rel ResolvedEntry (nested.find? fun entry => refTo entry.1 == reference)
      (definitions.find? fun entry => refTo entry.1 == reference) := by
  rw [nullableEntries_eq_ok_iff] at h
  induction h with
  | nil => exact .none
  | @cons entry resolved _ _ hfirst _ ih =>
      rw [List.find?_cons, List.find?_cons, hfirst.1]
      split
      · exact .some hfirst
      · exact ih

/-- Resolved definitions accept what the definitions accept, however far references are followed. -/
theorem followed_nullableEntries {matching : String → String → Bool}
    {nested definitions : List (String × Json)} (htidy : ∀ entry ∈ nested, Tidy .schema entry.2)
    (h : nullableEntries nested = .ok definitions) (hops : Nat) :
    followed matching definitions hops = followed matching nested hops := by
  induction hops with
  | zero => rfl
  | succ hops ih =>
      funext reference value
      have hfound := find?_nullableEntries h reference
      rw [followed, followed, ih]
      cases hnested : nested.find? fun entry => refTo entry.1 == reference with
      | none =>
          rw [hnested] at hfound
          cases hdefinitions : definitions.find? fun entry => refTo entry.1 == reference with
          | none => rfl
          | some resolved =>
              rw [hdefinitions] at hfound
              cases hfound
      | some entry =>
          rw [hnested] at hfound
          cases hdefinitions : definitions.find? fun entry => refTo entry.1 == reference with
          | none =>
              rw [hdefinitions] at hfound
              cases hfound
          | some resolved =>
              rw [hdefinitions] at hfound
              cases hfound with
              | some hresolved =>
                  exact (htidy entry (List.mem_of_find?_eq_some hnested)).keepsMeaning _ hresolved.2 value

/-- **Resolving the unions of tidy schemas keeps the values that are valid.** -/
theorem valid_nullable_iff {matching : String → String → Bool} {nested definitions : List (String × Json)}
    {schema image : Json} (hnested : ∀ entry ∈ nested, Tidy .schema entry.2) (hschema : Tidy .schema schema)
    (hdefinitions : nullableEntries nested = .ok definitions) (himage : nullable schema = .ok image)
    (value : Json) : Valid matching definitions image value ↔ Valid matching nested schema value := by
  refine exists_congr fun hops => ?_
  rw [followed_nullableEntries hnested hdefinitions, hschema.keepsMeaning image himage]

end RouteAtlas.OpenApi
