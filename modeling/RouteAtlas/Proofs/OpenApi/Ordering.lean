import RouteAtlas.Proofs.OpenApi.Validity

/-!
# Sorted schemas

A rendered schema is sorted by its keys, level by level. Sorting moves entries and nothing else: the same
value is found under every key, the schema of null stays what it is and nothing else becomes it, and so
unions with null are neither made nor lost. A schema that is tidy is tidy when it is sorted
(`Tidy.arrange`).
-/

set_option autoImplicit false

namespace RouteAtlas.OpenApi

open Schema

theorem arrangeItems_eq_map (isKept : Bool) (items : List Json) :
    arrangeItems isKept items = items.map (arrange isKept) := by
  induction items with
  | nil => rfl
  | cons item rest ih => rw [arrangeItems, ih, List.map_cons]

theorem arrangeFields_eq_map (fields : Entries) :
    arrangeFields fields = fields.map fun entry => (entry.1, arrange (keepsOrder entry.1) entry.2) := by
  induction fields with
  | nil => rfl
  | cons entry rest ih => rw [arrangeFields, ih, List.map_cons]

theorem arrange_arr (isKept : Bool) (items : List Json) :
    arrange isKept (.arr items) = .arr (items.map (arrange isKept)) := by
  rw [arrange, arrangeItems_eq_map]

theorem arrange_leaf {json : Json} (harr : json.arr? = none) (hobj : json.obj? = none) (isKept : Bool) :
    arrange isKept json = json := by
  cases json with
  | arr items => cases harr
  | obj fields => cases hobj
  | _ => rfl

/-- Sorting turns objects into objects, and nothing else. -/
theorem obj?_isSome_arrange (isKept : Bool) (json : Json) :
    (arrange isKept json).obj?.isSome = json.obj?.isSome := by
  cases json with
  | obj fields =>
      obtain ⟨arranged, harranged, -⟩ := arrange_obj isKept fields
      rw [harranged]
      rfl
  | _ => rfl

/-- Only a list is sorted to a list. -/
theorem eq_arr_of_arrange {isKept : Bool} {json : Json} {items : List Json}
    (h : arrange isKept json = .arr items) :
    ∃ before, json = .arr before ∧ items = before.map (arrange isKept) := by
  cases json with
  | arr before =>
      rw [arrange_arr] at h
      cases h
      exact ⟨before, rfl, rfl⟩
  | obj fields =>
      obtain ⟨arranged, harranged, -⟩ := arrange_obj isKept fields
      rw [harranged] at h
      cases h
  | _ => cases h

theorem eq_str_of_arrange {isKept : Bool} {json : Json} {text : String}
    (h : arrange isKept json = .str text) : json = .str text := by
  cases json with
  | arr items =>
      rw [arrange_arr] at h
      cases h
  | obj fields =>
      obtain ⟨arranged, harranged, -⟩ := arrange_obj isKept fields
      rw [harranged] at h
      cases h
  | _ => exact h

/-! ## Unions with null -/

/-- The schema of null stays what it is, and nothing else becomes it. -/
theorem arrange_eq_nullSchema {isKept : Bool} {json : Json} :
    arrange isKept json = nullSchema ↔ json = nullSchema := by
  constructor
  · intro h
    cases json with
    | obj fields =>
        obtain ⟨arranged, harranged, hperm, -⟩ := arrange_obj isKept fields
        rw [harranged] at h
        cases h
        have hsame : arrangeFields fields = nullEntries := List.perm_singleton.1 hperm.symm
        rw [arrangeFields_eq_map, nullEntries, List.map_eq_singleton_iff] at hsame
        obtain ⟨⟨key, value⟩, rfl, hentry⟩ := hsame
        obtain ⟨rfl, hvalue⟩ := Prod.mk.inj hentry
        obtain rfl : value = .str "null" := eq_str_of_arrange hvalue
        rfl
    | _ => cases h
  · rintro rfl
    obtain ⟨arranged, harranged, hperm, -⟩ := arrange_obj isKept nullEntries
    rw [nullSchema, harranged, List.perm_singleton.1 hperm]
    rfl

/-- What is told of the sorted union of an object and holds before sorting is told of its union. -/
theorem exists_union_of_arranged {fields arranged : Entries} {told : List Json → Prop}
    (hget : ∀ key, Table.get? arranged key = (Table.get? fields key).map (arrange (keepsOrder key)))
    (htold : ∀ isKept variants, told (variants.map (arrange isKept)) → told variants)
    (h : ∃ variants, Table.get? arranged "anyOf" = some (.arr variants) ∧ told variants) :
    ∃ variants, Table.get? fields "anyOf" = some (.arr variants) ∧ told variants := by
  obtain ⟨variants, hunion, hvariants⟩ := h
  rw [hget, Option.map_eq_some_iff] at hunion
  obtain ⟨value, hvalue, harrange⟩ := hunion
  obtain ⟨before, rfl, rfl⟩ := eq_arr_of_arrange harrange
  exact ⟨before, hvalue, htold _ before hvariants⟩

theorem nullSchema_mem_of_arranged {isKept : Bool} {variants : List Json}
    (h : nullSchema ∈ variants.map (arrange isKept)) : nullSchema ∈ variants := by
  obtain ⟨variant, hvariant, hnull⟩ := List.mem_map.1 h
  rwa [arrange_eq_nullSchema.1 hnull] at hvariant

theorem isStray_of_arranged {isKept : Bool} {variants : List Json}
    (h : IsStray (variants.map (arrange isKept))) : IsStray variants := by
  obtain ⟨hnull, other, hother, hobj⟩ := h
  have hothers : otherVariants (variants.map (arrange isKept)) =
      (otherVariants variants).map (arrange isKept) := by
    rw [otherVariants, List.filter_map, otherVariants]
    congr 1
    refine List.filter_congr fun variant _ => ?_
    have hsame : (arrange isKept variant).alike nullSchema = variant.alike nullSchema := by
      rw [Bool.eq_iff_iff, alike_nullSchema, alike_nullSchema, arrange_eq_nullSchema]
    simp [hsame]
  rw [hothers, List.map_eq_singleton_iff] at hother
  obtain ⟨before, hbefore, rfl⟩ := hother
  refine ⟨nullSchema_mem_of_arranged hnull, before, hbefore, ?_⟩
  rwa [← Option.isNone_iff_eq_none, ← Option.not_isSome, ← obj?_isSome_arrange isKept, Option.not_isSome,
    Option.isNone_iff_eq_none]

/-- What holds of every object of a value holds of every object of the sorted value, if it passes from an
object to one with the sorted entries. -/
theorem everyObject_arrange {holds : Table String Json → Prop}
    (hpasses : ∀ fields arranged : Entries, arranged.Perm (arrangeFields fields) →
      (∀ key, Table.get? arranged key = (Table.get? fields key).map (arrange (keepsOrder key))) →
      holds fields → holds arranged)
    {json : Json} (h : EveryObject holds json) (isKept : Bool) : EveryObject holds (arrange isKept json) := by
  induction json using Json.induction_members generalizing isKept with
  | leaf json harr hobj =>
      rw [arrange_leaf harr hobj]
      exact h
  | arr items ih =>
      rw [everyObject_arr] at h
      rw [arrange_arr, everyObject_arr, List.forall_mem_map]
      exact fun item hitem => ih item hitem (h item hitem) isKept
  | obj fields ih =>
      obtain ⟨hown, hentries⟩ := everyObject_obj.1 h
      obtain ⟨arranged, harranged, hperm, hget⟩ := arrange_obj isKept fields
      rw [harranged]
      refine everyObject_obj.2 ⟨hpasses fields arranged hperm hget hown, ?_⟩
      rintro ⟨key, value⟩ hentry
      obtain ⟨original, horiginal, rfl⟩ := mem_arrangeFields (hperm.mem_iff.1 hentry)
      exact ih _ horiginal (hentries _ horiginal) _

theorem NullFree.arrange {json : Json} (h : NullFree json) (isKept : Bool) :
    NullFree (arrange isKept json) := by
  refine everyObject_arrange (fun fields arranged _ hget hfree hunion => hfree ?_) h isKept
  exact exists_union_of_arranged hget (fun _ _ => nullSchema_mem_of_arranged) hunion

theorem StrayFree.arrange {json : Json} (h : StrayFree json) (isKept : Bool) :
    StrayFree (arrange isKept json) := by
  refine everyObject_arrange (fun fields arranged _ hget hfree hunion => hfree ?_) h isKept
  exact exists_union_of_arranged hget (fun _ _ => isStray_of_arranged) hunion

/-! ## Tidy schemas -/

theorem IsLone.arrange {fields arranged : Entries} (h : IsLone fields)
    (hperm : arranged.Perm (arrangeFields fields)) : IsLone arranged := by
  intro variants hmem hnull
  obtain ⟨original, horiginal, heq⟩ := mem_arrangeFields (hperm.mem_iff.1 hmem)
  obtain ⟨before, rfl, rfl⟩ := eq_arr_of_arrange heq.symm
  have hlone := h before horiginal (nullSchema_mem_of_arranged hnull)
  have hkeywords := hperm.filter fun entry => isKeyword entry.1
  rw [arrangeFields_eq_map, List.filter_map] at hkeywords
  have hsame : fields.filter ((fun entry : String × Json => isKeyword entry.1) ∘
      fun entry => (entry.1, Schema.arrange (keepsOrder entry.1) entry.2)) =
        fields.filter fun entry => isKeyword entry.1 := rfl
  -- there is one keyword, so there is no order to change
  rw [hsame, hlone, List.map_singleton, List.perm_singleton] at hkeywords
  rw [hkeywords, arrange_arr]

/-- **A tidy schema is tidy when it is sorted.** -/
theorem Tidy.arrange {role : Role} {json : Json} (h : Tidy role json) (isKept : Bool) :
    Tidy role (arrange isKept json) := by
  induction h generalizing isKept with
  | bool allowed => exact .bool allowed
  | @obj fields _ hunmarked hlone ih =>
      obtain ⟨arranged, harranged, hperm, -⟩ := arrange_obj isKept fields
      rw [harranged]
      refine .obj ?_ ?_ (hlone.arrange hperm)
      · rintro ⟨key, value⟩ hentry
        obtain ⟨original, horiginal, rfl⟩ := mem_arrangeFields (hperm.mem_iff.1 hentry)
        exact ih _ horiginal _
      · have hkeys : (Table.keys arranged).Perm (Table.keys (arrangeFields fields)) := hperm.map _
        rwa [hkeys.mem_iff, keys_arrangeFields]
  | union _ hobjects ih =>
      rw [arrange_arr]
      refine .union ?_ ?_
      · exact List.forall_mem_map.2 fun variant hvariant => ih variant hvariant isKept
      · refine List.forall_mem_map.2 fun variant hvariant => ?_
        rw [obj?_isSome_arrange, hobjects variant hvariant]
  | @properties table _ ih =>
      obtain ⟨arranged, harranged, hperm, -⟩ := arrange_obj isKept table
      rw [harranged]
      refine .properties ?_
      rintro ⟨key, value⟩ hentry
      obtain ⟨original, horiginal, rfl⟩ := mem_arrangeFields (hperm.mem_iff.1 hentry)
      exact ih _ horiginal _
  | items _ ih => exact .items (ih isKept)
  | additional _ ih => exact .additional (ih isKept)
  | setting hkeyword hkey hfree => exact .setting hkeyword hkey (hfree.arrange isKept)
  | remark hkeyword hfree => exact .remark hkeyword (hfree.arrange isKept)

end RouteAtlas.OpenApi
