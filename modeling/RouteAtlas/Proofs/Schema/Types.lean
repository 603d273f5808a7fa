import RouteAtlas.Schema.Render
import Mathlib.Data.List.Basic

/-!
# Field types

The normal form of a type has no union or optional type among its members, and no literal values but those
of the type. So the schema of a type without null is never a union with null
(`nullSchema_not_mem_entries`), whatever the type is.
-/

set_option autoImplicit false

namespace RouteAtlas.Schema

/-! ## Induction on types -/

namespace FieldType

/-- The types that a type is made of. -/
def parts : FieldType → List FieldType
  | .list item => [item]
  | .mapping value => [value]
  | .optional inner => [inner]
  | .union options => options
  | _ => []

theorem sizeOf_lt_of_mem_parts {type part : FieldType} (h : part ∈ type.parts) :
    sizeOf part < sizeOf type := by
  cases type with
  | list item =>
      rw [List.mem_singleton.1 h, list.sizeOf_spec]
      omega
  | mapping value =>
      rw [List.mem_singleton.1 h, mapping.sizeOf_spec]
      omega
  | optional inner =>
      rw [List.mem_singleton.1 h, optional.sizeOf_spec]
      omega
  | union options =>
      have hlt : sizeOf part < sizeOf options := List.sizeOf_lt_of_mem h
      rw [union.sizeOf_spec]
      omega
  | _ => cases h

/-- Induction on types through the types that they are made of. -/
theorem induction_parts {motive : FieldType → Prop}
    (step : ∀ type, (∀ part ∈ type.parts, motive part) → motive type) (type : FieldType) :
    motive type :=
  step type fun part _ => induction_parts step part
termination_by sizeOf type
decreasing_by exact sizeOf_lt_of_mem_parts ‹_›

/-! ## Normal forms -/

/-- A type that is neither a union nor optional. -/
def isFlat : FieldType → Bool
  | .optional _ => false
  | .union _ => false
  | _ => true

theorem members_of_isFlat {type : FieldType} (h : type.isFlat = true) : type.members = [type] := by
  cases type with
  | union options => cases h
  | _ => rfl

end FieldType

/-- What is kept of some items was there. -/
theorem mem_of_mem_kept {α : Type} {same : α → α → Bool} {items kept : List α} {item : α}
    (h : item ∈ items.foldl (fun kept next => if kept.any (same next) then kept else kept ++ [next]) kept) :
    item ∈ kept ∨ item ∈ items := by
  induction items generalizing kept with
  | nil => exact .inl h
  | cons next rest ih =>
      rw [List.foldl_cons] at h
      rcases ih h with hkept | hrest
      · split at hkept
        · exact .inl hkept
        · rcases List.mem_append.1 hkept with hold | hnew
          · exact .inl hold
          · exact .inr (List.mem_singleton.1 hnew ▸ List.mem_cons_self)
      · exact .inr (List.mem_cons_of_mem _ hrest)

theorem mem_of_mem_distinctValues {values : List Json} {value : Json} (h : value ∈ distinctValues values) :
    value ∈ values := by
  rw [distinctValues] at h
  split at h
  · exact h
  · exact (mem_of_mem_kept h).resolve_left List.not_mem_nil

/-- The members of a union of flat types are among them. -/
theorem mem_of_mem_unionOf {types : List FieldType} (hflat : ∀ type ∈ types, type.isFlat = true)
    {member : FieldType} (h : member ∈ (unionOf types).members) : member ∈ types := by
  rw [unionOf] at h
  split at h
  · rename_i type hone
    have htype : type ∈ types := by
      have hkept := List.mem_singleton_self type
      rw [← hone] at hkept
      exact (mem_of_mem_kept hkept).resolve_left List.not_mem_nil
    rw [FieldType.members_of_isFlat (hflat type htype), List.mem_singleton] at h
    exact h ▸ htype
  · exact (mem_of_mem_kept h).resolve_left List.not_mem_nil

theorem normalMembers_eq (options : List FieldType) :
    normalMembers options = options.flatMap fun option => option.normal.members := by
  induction options with
  | nil => rfl
  | cons option rest ih => rw [normalMembers, ih, List.flatMap_cons]

/-- The normal form of a type is flat if the type is, and otherwise a union of null and of members of the
normal forms of its parts. -/
theorem normal_cases (type : FieldType) :
    type.isFlat = true ∧ type.normal.isFlat = true ∨
    ∃ types, type.normal = unionOf types ∧
      ∀ member ∈ types, member = .nothing ∨ ∃ part ∈ type.parts, member ∈ part.normal.members := by
  cases type with
  | optional inner =>
      refine .inr ⟨inner.normal.members ++ [.nothing], by rw [FieldType.normal], fun member hmember => ?_⟩
      rcases List.mem_append.1 hmember with hinner | hnothing
      · exact .inr ⟨inner, List.mem_singleton_self inner, hinner⟩
      · exact .inl (List.mem_singleton.1 hnothing)
  | union options =>
      refine .inr ⟨normalMembers options, by rw [FieldType.normal], fun member hmember => ?_⟩
      rw [normalMembers_eq] at hmember
      exact .inr (List.mem_flatMap.1 hmember)
  | _ => exact .inl ⟨rfl, by simp [FieldType.normal, FieldType.isFlat]⟩

/-- **A member of a normal form** is flat, and it is the whole, null, or a member of the normal form of a
part. -/
theorem mem_normal_cases {type member : FieldType} (h : member ∈ type.normal.members) :
    member.isFlat = true ∧ ((type.isFlat = true ∧ member = type.normal) ∨ member = .nothing ∨
      ∃ part ∈ type.parts, member ∈ part.normal.members) := by
  induction type using FieldType.induction_parts generalizing member with
  | step type ih =>
      rcases normal_cases type with ⟨hflat, hnormal⟩ | ⟨types, hnormal, htypes⟩
      · rw [FieldType.members_of_isFlat hnormal, List.mem_singleton] at h
        exact ⟨h ▸ hnormal, .inl ⟨hflat, h⟩⟩
      · -- the members of a union are told apart from it only if they are flat, so both go together
        have hflat : ∀ member ∈ types, member.isFlat = true := by
          intro member hmember
          rcases htypes member hmember with rfl | ⟨part, hpart, hinner⟩
          · rfl
          · exact (ih part hpart hinner).1
        rw [hnormal] at h
        have hmem := mem_of_mem_unionOf hflat h
        exact ⟨hflat member hmem, .inr (htypes member hmem)⟩

theorem isFlat_of_mem_normal {type member : FieldType} (h : member ∈ type.normal.members) :
    member.isFlat = true := (mem_normal_cases h).1

/-- A type without null has no member that is not in the type. -/
theorem mem_of_mem_withoutNull {type member : FieldType}
    (hflat : ∀ member ∈ type.members, member.isFlat = true)
    (h : member ∈ type.withoutNull.members) : member ∈ type.members := by
  cases type with
  | union options =>
      rw [FieldType.withoutNull] at h
      split at h
      · rename_i option hone
        have hoption : option ∈ options := by
          have hkept := List.mem_singleton_self option
          rw [← hone] at hkept
          exact (List.mem_filter.1 hkept).1
        rw [FieldType.members_of_isFlat (hflat option hoption), List.mem_singleton] at h
        exact h ▸ hoption
      · exact (List.mem_filter.1 h).1
  | _ => exact h

/-- **A type without null** is flat, or a union of flat types other than null. -/
theorem withoutNull_cases (type : FieldType) :
    type.normal.withoutNull.isFlat = true ∨
    ∃ options, type.normal.withoutNull = .union options ∧
      ∀ option ∈ options, option.isFlat = true ∧ option.isNothing = false := by
  have hflat : ∀ member ∈ type.normal.members, member.isFlat = true := fun _ => isFlat_of_mem_normal
  cases hnormal : type.normal with
  | union options =>
      rw [hnormal] at hflat
      rw [FieldType.withoutNull]
      split
      · rename_i option hone
        have hkept := List.mem_singleton_self option
        rw [← hone] at hkept
        exact .inl (hflat option (List.mem_filter.1 hkept).1)
      · refine .inr ⟨_, rfl, fun option hoption => ?_⟩
        obtain ⟨hmem, hnothing⟩ := List.mem_filter.1 hoption
        exact ⟨hflat option hmem, by simpa using hnothing⟩
  | optional inner =>
      rw [hnormal] at hflat
      exact absurd (hflat _ (List.mem_singleton_self _)) (by simp [FieldType.isFlat])
  | _ => exact .inl rfl

/-! ## Literal values -/

theorem optionLiterals_eq (options : List FieldType) :
    optionLiterals options = options.flatMap FieldType.literals := by
  induction options with
  | nil => rfl
  | cons option rest ih => rw [optionLiterals, ih, List.flatMap_cons]

/-- The literal values of a type are those of its members. -/
theorem mem_literals_iff {type : FieldType} {value : Json} :
    value ∈ type.literals ↔ ∃ member ∈ type.members, value ∈ member.literals := by
  cases type with
  | union options => rw [FieldType.literals, optionLiterals_eq, List.mem_flatMap, FieldType.members]
  | _ => simp [FieldType.members]

theorem mem_literals_of_part {type part : FieldType} {value : Json} (hpart : part ∈ type.parts)
    (h : value ∈ part.literals) : value ∈ type.literals := by
  cases type with
  | union options =>
      rw [FieldType.literals, optionLiterals_eq]
      exact List.mem_flatMap.2 ⟨part, hpart, h⟩
  | list item => rwa [FieldType.literals, ← List.mem_singleton.1 hpart]
  | mapping inner => rwa [FieldType.literals, ← List.mem_singleton.1 hpart]
  | optional inner => rwa [FieldType.literals, ← List.mem_singleton.1 hpart]
  | _ => cases hpart

/-- **A normal form has no literal values but those of the type.** -/
theorem mem_literals_of_normal {type : FieldType} {value : Json} (h : value ∈ type.normal.literals) :
    value ∈ type.literals := by
  induction type using FieldType.induction_parts with
  | step type ih =>
      have hpart : ∀ part ∈ type.parts, value ∈ part.normal.literals → value ∈ type.literals :=
        fun part hpart hvalue => mem_literals_of_part hpart (ih part hpart hvalue)
      obtain ⟨member, hmember, hvalue⟩ := mem_literals_iff.1 h
      -- a union is taken member by member: these come from the normal forms of the parts
      rcases (mem_normal_cases hmember).2 with ⟨hflat, rfl⟩ | rfl | ⟨part, hmem, hinner⟩
      · cases type with
        | list item =>
            refine hpart item (List.mem_singleton_self item) ?_
            simpa only [FieldType.normal, FieldType.literals] using h
        | mapping inner =>
            refine hpart inner (List.mem_singleton_self inner) ?_
            simpa only [FieldType.normal, FieldType.literals] using h
        | literal values =>
            simp only [FieldType.normal, FieldType.literals] at h ⊢
            exact mem_of_mem_distinctValues h
        | optional inner => cases hflat
        | union options => cases hflat
        | _ => simp [FieldType.normal, FieldType.literals] at h
      · simp [FieldType.literals] at hvalue
      · exact hpart part hmem (mem_literals_iff.2 ⟨member, hinner, hvalue⟩)

/-- Neither has the type without null. -/
theorem mem_literals_of_withoutNull {type : FieldType} {value : Json}
    (h : value ∈ type.normal.withoutNull.literals) : value ∈ type.literals := by
  obtain ⟨member, hmember, hvalue⟩ := mem_literals_iff.1 h
  have hnormal := mem_of_mem_withoutNull (fun _ => isFlat_of_mem_normal) hmember
  exact mem_literals_of_normal (mem_literals_iff.2 ⟨member, hnormal, hvalue⟩)

/-! ## Schemas of types -/

theorem mem_enterSchema {schemas : List Json} {schema entered : Json}
    (h : schema ∈ enterSchema schemas entered) : schema ∈ schemas ∨ schema = entered := by
  induction schemas with
  | nil => exact .inr (List.mem_singleton.1 h)
  | cons first rest ih =>
      rw [enterSchema] at h
      split at h
      · rcases List.mem_cons.1 h with rfl | hrest
        · exact .inr rfl
        · exact .inl (List.mem_cons_of_mem _ hrest)
      · rcases List.mem_cons.1 h with rfl | hrest
        · exact .inl List.mem_cons_self
        · exact (ih hrest).imp_left (List.mem_cons_of_mem _)

theorem mem_foldl_enterSchema {schemas entered : List Json} {schema : Json}
    (h : schema ∈ entered.foldl enterSchema schemas) : schema ∈ schemas ∨ schema ∈ entered := by
  induction entered generalizing schemas with
  | nil => exact .inl h
  | cons next rest ih =>
      rcases ih h with hput | hrest
      · rcases mem_enterSchema hput with hold | rfl
        · exact .inl hold
        · exact .inr List.mem_cons_self
      · exact .inr (List.mem_cons_of_mem _ hrest)

/-- **The union of schemas** is the list of some of their alternatives, or the only one. -/
theorem anyOf_cases (options : List Entries) :
    ∃ members : List Json, (∀ member ∈ members, ∃ entries ∈ options, member ∈ alternatives entries) ∧
      (members = [.obj (anyOf options)] ∨ anyOf options = [("anyOf", .arr members)]) := by
  refine ⟨(options.flatMap alternatives).foldl enterSchema [], fun member hmember => ?_, ?_⟩
  · exact List.mem_flatMap.1 ((mem_foldl_enterSchema hmember).resolve_left List.not_mem_nil)
  · rw [anyOf]
    split
    · rename_i entries hone
      exact .inl hone
    · exact .inr rfl

/-- The alternatives of a schema that is no lone union are the schema itself. -/
theorem alternatives_cases (entries : Entries) :
    (∃ items, entries = [("anyOf", .arr items)] ∧ alternatives entries = items) ∨
      alternatives entries = [.obj entries] := by
  rw [alternatives.eq_def]
  split
  · rename_i items
    exact .inl ⟨items, rfl, rfl⟩
  · exact .inr rfl

/-- The schema of a choice starts with the value or the values. -/
theorem literalEntries_cases (values : List Json) :
    ∃ first, literalEntries values = first :: settingEntry "type" ((sharedType? values).map Json.str) ∧
      ((∃ value ∈ values, first = ("const", value)) ∨ first = ("enum", .arr values)) := by
  refine ⟨_, rfl, ?_⟩
  split
  · rename_i value
    exact .inl ⟨value, List.mem_singleton_self value, rfl⟩
  · exact .inr rfl

theorem mem_settingEntry {key : String} {value : Option Json} {entry : String × Json}
    (h : entry ∈ settingEntry key value) : entry.1 = key ∧ some entry.2 = value := by
  cases value with
  | none => cases h
  | some setting =>
      rw [List.mem_singleton.1 h]
      exact ⟨rfl, rfl⟩

section

variable {refTo : String → String}

theorem mem_optionEntries {options : List FieldType} {entries : Entries}
    (h : entries ∈ optionEntries refTo options) :
    ∃ option ∈ options, entries = option.entries refTo := by
  induction options with
  | nil => simp [optionEntries] at h
  | cons option rest ih =>
      have hrest : entries ∈ optionEntries refTo rest →
          ∃ other ∈ option :: rest, entries = other.entries refTo := by
        intro hmem
        obtain ⟨other, hother, heq⟩ := ih hmem
        exact ⟨other, List.mem_cons_of_mem _ hother, heq⟩
      by_cases hnothing : option = .nothing
      · rw [hnothing, optionEntries] at h
        exact hrest h
      · rw [optionEntries] at h
        · rcases List.mem_cons.1 h with heq | hmem
          · exact ⟨option, List.mem_cons_self, heq⟩
          · exact hrest hmem
        · exact hnothing

/-- The schema of a flat type is no union. -/
theorem anyOf_not_mem_keys {type : FieldType} (h : type.isFlat = true) :
    "anyOf" ∉ Table.keys (type.entries refTo) := by
  cases type with
  | optional inner => cases h
  | union options => cases h
  | literal values =>
      obtain ⟨first, hentries, hfirst⟩ := literalEntries_cases values
      rw [FieldType.entries, hentries, Table.keys, List.map_cons, List.mem_cons, not_or, List.mem_map]
      constructor
      · rcases hfirst with ⟨value, -, rfl⟩ | rfl
        · simp
        · simp
      · rintro ⟨entry, hentry, hkey⟩
        exact absurd ((mem_settingEntry hentry).1.symm.trans hkey) (by decide)
  | _ => simp [FieldType.entries, nullEntries, Table.keys]

/-- The schema of a flat type other than null is not that of null. -/
theorem entries_ne_nullEntries {type : FieldType} (h : type.isFlat = true)
    (hnothing : type.isNothing = false) : type.entries refTo ≠ nullEntries := by
  cases type with
  | optional inner => cases h
  | union options => cases h
  | nothing => cases hnothing
  | literal values =>
      obtain ⟨first, hentries, hfirst⟩ := literalEntries_cases values
      rw [FieldType.entries, hentries]
      rcases hfirst with ⟨value, -, rfl⟩ | rfl
      · simp [nullEntries]
      · simp [nullEntries]
  | _ => simp [FieldType.entries, nullEntries]

/-- **The schema of a type without null is no union with null.** -/
theorem nullSchema_not_mem_entries (type : FieldType) {variants : List Json}
    (h : ("anyOf", .arr variants) ∈ type.normal.withoutNull.entries refTo) :
    .obj nullEntries ∉ variants := by
  have hkey : ∀ {entries : Entries}, ("anyOf", .arr variants) ∈ entries → "anyOf" ∈ Table.keys entries :=
    fun hmem => List.mem_map_of_mem hmem
  rcases withoutNull_cases type with hflat | ⟨options, hunion, hoptions⟩
  · exact absurd (hkey h) (anyOf_not_mem_keys hflat)
  · have hentries : type.normal.withoutNull.entries refTo = anyOf (optionEntries refTo options) := by
      rw [hunion, FieldType.entries, if_neg]
      rw [List.any_eq_true]
      rintro ⟨option, hoption, hnothing⟩
      rw [(hoptions option hoption).2] at hnothing
      cases hnothing
    -- every member of the union is the schema of an option
    obtain ⟨members, hmembers, hshape⟩ := anyOf_cases (optionEntries refTo options)
    have hflat : ∀ member ∈ members, ∃ option ∈ options, member = .obj (option.entries refTo) := by
      intro member hmember
      obtain ⟨entries, hmem, halternative⟩ := hmembers member hmember
      obtain ⟨option, hoption, rfl⟩ := mem_optionEntries hmem
      rcases alternatives_cases (option.entries refTo) with ⟨items, hlone, -⟩ | hself
      · have habsent := @anyOf_not_mem_keys refTo option (hoptions option hoption).1
        rw [hlone] at habsent
        exact absurd List.mem_cons_self habsent
      · rw [hself] at halternative
        exact ⟨option, hoption, List.mem_singleton.1 halternative⟩
    rw [hentries] at h
    rcases hshape with hone | hlist
    · obtain ⟨option, hoption, heq⟩ := hflat _ (hone ▸ List.mem_singleton_self _)
      rw [Json.obj.inj heq] at h
      exact absurd (hkey h) (anyOf_not_mem_keys (hoptions option hoption).1)
    · rw [hlist, List.mem_singleton] at h
      cases h
      intro hnull
      obtain ⟨option, hoption, heq⟩ := hflat _ hnull
      obtain ⟨hplain, hnothing⟩ := hoptions option hoption
      exact entries_ne_nullEntries hplain hnothing (Json.obj.inj heq).symm

end

end RouteAtlas.Schema
