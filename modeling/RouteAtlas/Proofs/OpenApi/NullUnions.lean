import RouteAtlas.Proofs.OpenApi.Properties
import Mathlib.Data.List.Forall2

/-!
# Unions with null

Resolving takes every union with null out of a value, one object after the other. From what it does to one
object (`nullableFields_cases`) follows that nothing that resolving gives has a union with null in it, at
any depth, so that resolving again changes nothing, and that the object of every such union is marked
(`nullable_resolves_unions`). Resolving fails exactly where a union with null leaves one member that is no
object (`nullable_isOk_iff`).
-/

set_option autoImplicit false

namespace RouteAtlas.OpenApi

open Schema Step

/-! ## Parts of values -/

/-- A value is part of another, as the whole, as an item or as an entry, at any depth. -/
inductive Within (part : Json) : Json → Prop where
  | self : Within part part
  | item {items : List Json} {item : Json} : item ∈ items → Within part item → Within part (.arr items)
  | entry {fields : List (String × Json)} {entry : String × Json} : entry ∈ fields →
      Within part entry.2 → Within part (.obj fields)

/-- Something holds of every object in a value. -/
def EveryObject (holds : Table String Json → Prop) (json : Json) : Prop :=
  ∀ fields, Within (.obj fields) json → holds fields

section

variable {holds : Table String Json → Prop}

theorem everyObject_leaf {json : Json} (harr : json.arr? = none) (hobj : json.obj? = none) :
    EveryObject holds json := by
  intro fields h
  cases h with
  | self => cases hobj
  | item => cases harr
  | entry => cases hobj

theorem everyObject_arr {items : List Json} :
    EveryObject holds (.arr items) ↔ ∀ item ∈ items, EveryObject holds item := by
  constructor
  · intro h item hitem fields hwithin
    exact h fields (.item hitem hwithin)
  · intro h fields hwithin
    cases hwithin with
    | item hitem hwithin => exact h _ hitem fields hwithin

theorem everyObject_obj {fields : List (String × Json)} :
    EveryObject holds (.obj fields) ↔ holds fields ∧ ∀ entry ∈ fields, EveryObject holds entry.2 := by
  constructor
  · intro h
    exact ⟨h fields .self, fun entry hentry inner hwithin => h inner (.entry hentry hwithin)⟩
  · rintro ⟨hown, hentries⟩ inner hwithin
    cases hwithin with
    | self => exact hown
    | entry hentry hwithin => exact hentries _ hentry inner hwithin

end

/-- No object in a value is a union with null. -/
def NullFree (json : Json) : Prop := EveryObject (fun fields => ¬ HasNullUnion fields) json

/-! ## One object -/

theorem get?_putAll_of_not_mem {table : Table String Json} {entries : List (String × Json)} {key : String}
    (h : key ∉ Table.keys entries) : (table.putAll entries).get? key = table.get? key := by
  induction entries generalizing table with
  | nil => rfl
  | cons entry rest ih =>
      rw [Table.keys, List.map_cons, List.mem_cons, not_or] at h
      have hput : (table.putAll (entry :: rest)).get? key = (table.put entry.1 entry.2).get? key := ih h.2
      rw [hput, Table.get?_put_of_ne _ _ h.1]

theorem not_mem_keys_drop (fields : Table String Json) (key : String) :
    key ∉ Table.keys (fields.drop key) := by
  intro hmem
  obtain ⟨entry, hentry, hkey⟩ := List.mem_map.1 hmem
  have hne := (List.mem_filter.1 hentry).2
  simp [hkey] at hne

/-- The union of the member that is left takes the place of the union with null. -/
theorem get?_mergedFields (fields member : Table String Json) :
    (mergedFields fields member).get? "anyOf" = member.get? "anyOf" := by
  rw [mergedFields, Table.get?_put_of_ne _ _ (by decide),
    get?_putAll_of_not_mem (not_mem_keys_drop fields "anyOf")]

theorem get?_markedFields (fields : Table String Json) (others : List Json) :
    (markedFields fields others).get? "anyOf" = some (.arr others) := by
  rw [markedFields, Table.get?_put_of_ne _ _ (by decide), Table.get?_put_self]

/-- **Resolving an object whose entries are free of unions with null leaves none.** -/
theorem nullFree_nullableFields {fields result : Table String Json}
    (hentries : ∀ entry ∈ fields, NullFree entry.2) (h : nullableFields fields = .ok result) :
    NullFree (.obj result) := by
  have hvariants : ∀ {variants : List Json}, ("anyOf", Json.arr variants) ∈ fields →
      ∀ variant ∈ variants, NullFree variant :=
    fun hunion => everyObject_arr.1 (hentries _ hunion)
  refine everyObject_obj.2 ⟨?_, ?_⟩
  · rcases nullableFields_cases h with ⟨hfree, rfl⟩ | ⟨variants, hunion, -, ⟨member, hothers, rfl⟩ | ⟨-, rfl⟩⟩
    · exact hfree
    · have hmem : .obj member ∈ otherVariants variants := by
        rw [hothers]
        exact List.mem_singleton_self _
      have hmember := hvariants (Table.mem_of_get? hunion) _ (mem_otherVariants.1 hmem).1
      rw [HasNullUnion, get?_mergedFields]
      exact (everyObject_obj.1 hmember).1
    · rintro ⟨others, hothers, hnull⟩
      rw [get?_markedFields] at hothers
      cases hothers
      exact (mem_otherVariants.1 hnull).2 rfl
  · refine forall_mem_nullableFields h hentries ?_ ?_ (everyObject_leaf rfl rfl)
    · exact fun variants member hunion hmem => (everyObject_obj.1 (hvariants hunion _ hmem)).2
    · intro variants hunion
      exact everyObject_arr.2 fun variant hvariant =>
        hvariants hunion variant (mem_otherVariants.1 hvariant).1

/-! ## Items and entries -/

theorem exists_forall₂_iff {α β : Type} {related : α → β → Prop} {items : List α} :
    (∃ values, List.Forall₂ related items values) ↔ ∀ item ∈ items, ∃ value, related item value := by
  induction items with
  | nil => simp
  | cons item rest ih =>
      rw [List.forall_mem_cons, ← ih]
      constructor
      · rintro ⟨_, h⟩
        cases h with
        | cons hfirst hrest => exact ⟨⟨_, hfirst⟩, _, hrest⟩
      · rintro ⟨⟨first, hfirst⟩, others, hothers⟩
        exact ⟨first :: others, .cons hfirst hothers⟩

theorem exists_mem_of_forall₂ {α β : Type} {related : α → β → Prop} {items : List α} {values : List β}
    (h : List.Forall₂ related items values) {item : α} (hitem : item ∈ items) :
    ∃ value ∈ values, related item value := by
  induction h with
  | nil => cases hitem
  | cons hfirst _ ih =>
      rcases List.mem_cons.1 hitem with rfl | hlater
      · exact ⟨_, List.mem_cons_self, hfirst⟩
      · obtain ⟨value, hvalue, hrelated⟩ := ih hlater
        exact ⟨value, List.mem_cons_of_mem _ hvalue, hrelated⟩

/-- The items of a list are resolved one by one. -/
theorem nullableItems_eq_ok_iff {items result : List Json} :
    nullableItems items = .ok result ↔
      List.Forall₂ (fun item value => nullable item = .ok value) items result := by
  induction items generalizing result with
  | nil => simp [nullableItems, pure, Except.pure, eq_comm]
  | cons item rest ih =>
      simp only [nullableItems, bind_eq_ok, pure, Except.pure, Except.ok.injEq, ih,
        List.forall₂_cons_left_iff]
      constructor
      · rintro ⟨first, hfirst, others, hothers, rfl⟩
        exact ⟨first, others, hfirst, hothers, rfl⟩
      · rintro ⟨first, others, hfirst, hothers, rfl⟩
        exact ⟨first, hfirst, others, hothers, rfl⟩

/-- An entry whose value has been resolved. -/
def ResolvedEntry (entry resolved : String × Json) : Prop :=
  resolved.1 = entry.1 ∧ nullable entry.2 = .ok resolved.2

/-- The entries of an object are resolved one by one. -/
theorem nullableEntries_eq_ok_iff {fields result : List (String × Json)} :
    nullableEntries fields = .ok result ↔ List.Forall₂ ResolvedEntry fields result := by
  induction fields generalizing result with
  | nil => simp [nullableEntries, pure, Except.pure, eq_comm]
  | cons entry rest ih =>
      simp only [nullableEntries, bind_eq_ok, pure, Except.pure, Except.ok.injEq, ih,
        List.forall₂_cons_left_iff]
      constructor
      · rintro ⟨first, hfirst, others, hothers, rfl⟩
        exact ⟨(entry.1, first), others, ⟨rfl, hfirst⟩, hothers, rfl⟩
      · rintro ⟨⟨key, first⟩, others, ⟨rfl, hfirst⟩, hothers, rfl⟩
        exact ⟨first, hfirst, others, hothers, rfl⟩

theorem nullableItems_isOk_iff {items : List Json} :
    (∃ result, nullableItems items = .ok result) ↔ ∀ item ∈ items, ∃ value, nullable item = .ok value := by
  simp only [nullableItems_eq_ok_iff, exists_forall₂_iff]

theorem nullableEntries_isOk_iff {fields : List (String × Json)} :
    (∃ result, nullableEntries fields = .ok result) ↔
      ∀ entry ∈ fields, ∃ value, nullable entry.2 = .ok value := by
  simp only [nullableEntries_eq_ok_iff, exists_forall₂_iff]
  refine forall₂_congr fun entry _ => ?_
  constructor
  · rintro ⟨resolved, -, hvalue⟩
    exact ⟨resolved.2, hvalue⟩
  · rintro ⟨value, hvalue⟩
    exact ⟨(entry.1, value), rfl, hvalue⟩

/-! ## Whole values -/

theorem nullable_arr_eq_ok {items : List Json} {result : Json} :
    nullable (.arr items) = .ok result ↔
      ∃ resolved, nullableItems items = .ok resolved ∧ .arr resolved = result := by
  simp only [nullable, bind_eq_ok, pure, Except.pure, Except.ok.injEq]

theorem nullable_obj_eq_ok {fields : List (String × Json)} {result : Json} :
    nullable (.obj fields) = .ok result ↔ ∃ entries, nullableEntries fields = .ok entries ∧
      ∃ resolved, nullableFields entries = .ok resolved ∧ .obj resolved = result := by
  simp only [nullable, bind_eq_ok, pure, Except.pure, Except.ok.injEq]

/-- **Nothing that resolving gives has a union with null in it.** -/
theorem nullFree_of_nullable {json result : Json} (h : nullable json = .ok result) : NullFree result := by
  induction json using Json.induction_members generalizing result with
  | leaf json harr hobj =>
      rw [nullable_leaf harr hobj] at h
      cases h
      exact everyObject_leaf harr hobj
  | arr items ih =>
      obtain ⟨resolved, hitems, rfl⟩ := nullable_arr_eq_ok.1 h
      refine everyObject_arr.2 fun value hvalue => ?_
      obtain ⟨item, hitem, hnullable⟩ := mem_nullableItems hitems hvalue
      exact ih item hitem hnullable
  | obj fields ih =>
      obtain ⟨entries, hentries, resolved, hfields, rfl⟩ := nullable_obj_eq_ok.1 h
      refine nullFree_nullableFields (fun entry hentry => ?_) hfields
      obtain ⟨original, horiginal, hnullable⟩ := mem_of_mem_nullableEntries hentries hentry
      exact ih _ horiginal hnullable

/-- **A value without unions with null is left as it is.** -/
theorem nullable_of_nullFree {json : Json} (h : NullFree json) : nullable json = .ok json := by
  induction json using Json.induction_members with
  | leaf json harr hobj => exact nullable_leaf harr hobj
  | arr items ih =>
      rw [NullFree, everyObject_arr] at h
      refine nullable_arr_eq_ok.2 ⟨items, nullableItems_eq_ok_iff.2 (List.forall₂_same.2 ?_), rfl⟩
      exact fun item hitem => ih item hitem (h item hitem)
  | obj fields ih =>
      obtain ⟨hown, hentries⟩ := everyObject_obj.1 h
      refine nullable_obj_eq_ok.2
        ⟨fields, nullableEntries_eq_ok_iff.2 (List.forall₂_same.2 ?_), fields, ?_, rfl⟩
      · exact fun entry hentry => ⟨rfl, ih entry hentry (hentries entry hentry)⟩
      · exact nullableFields_of_not_hasNullUnion hown

/-! ## Unions before and after -/

/-- Only a list resolves to a list. -/
theorem exists_items_of_nullable {json : Json} {result : List Json} (h : nullable json = .ok (.arr result)) :
    ∃ items, json = .arr items ∧ nullableItems items = .ok result := by
  cases json with
  | arr items =>
      obtain ⟨resolved, hitems, heq⟩ := nullable_arr_eq_ok.1 h
      cases heq
      exact ⟨items, rfl, hitems⟩
  | obj fields =>
      obtain ⟨_, -, _, -, heq⟩ := nullable_obj_eq_ok.1 h
      cases heq
  | _ => cases h

/-- An object resolves to an object, and nothing else does. -/
theorem obj?_isSome_of_nullable {json result : Json} (h : nullable json = .ok result) :
    result.obj?.isSome = json.obj?.isSome := by
  cases json with
  | arr items =>
      obtain ⟨_, -, rfl⟩ := nullable_arr_eq_ok.1 h
      rfl
  | obj fields =>
      obtain ⟨_, -, _, -, rfl⟩ := nullable_obj_eq_ok.1 h
      rfl
  | _ =>
      cases h
      rfl

theorem get?_nullable_mergedFields (fields member : Table String Json) :
    (mergedFields fields member).get? "nullable" = some (.bool true) := Table.get?_put_self _ _ _

theorem get?_nullable_markedFields (fields : Table String Json) (others : List Json) :
    (markedFields fields others).get? "nullable" = some (.bool true) := Table.get?_put_self _ _ _

theorem nullable_nullSchema : nullable nullSchema = .ok nullSchema := by
  apply nullable_of_nullFree
  refine everyObject_obj.2 ⟨?_, fun entry hentry => ?_⟩
  · rintro ⟨variants, hunion, -⟩
    cases hunion
  · rw [List.mem_singleton.1 hentry]
    exact everyObject_leaf rfl rfl

/-- Only the schema of null resolves to it: a marked object has an entry that it lacks. -/
theorem eq_nullSchema_of_nullable {json : Json} (h : nullable json = .ok nullSchema) : json = nullSchema := by
  cases json with
  | arr items =>
      obtain ⟨_, -, heq⟩ := nullable_arr_eq_ok.1 h
      cases heq
  | obj fields =>
      obtain ⟨entries, hentries, resolved, hfields, heq⟩ := nullable_obj_eq_ok.1 h
      have hunmarked : Table.get? resolved "nullable" = none := by
        rw [Json.obj.inj heq]
        rfl
      rcases nullableFields_cases hfields with ⟨-, rfl⟩ | ⟨_, -, -, ⟨_, -, rfl⟩ | ⟨-, rfl⟩⟩
      · rw [Json.obj.inj heq, nullEntries, nullableEntries_eq_ok_iff, List.forall₂_cons_right_iff] at hentries
        obtain ⟨⟨key, value⟩, rest, ⟨hkey, hvalue⟩, hrest, rfl⟩ := hentries
        obtain rfl : "type" = key := hkey
        obtain rfl : value = .str "null" := eq_str_of_nullable hvalue
        rw [List.forall₂_nil_right_iff.1 hrest]
        rfl
      · rw [get?_nullable_mergedFields] at hunmarked
        cases hunmarked
      · rw [get?_nullable_markedFields] at hunmarked
        cases hunmarked
  | _ => cases h

theorem eq_nullSchema_iff_of_nullable {variant value : Json} (h : nullable variant = .ok value) :
    value = nullSchema ↔ variant = nullSchema := by
  constructor
  · rintro rfl
    exact eq_nullSchema_of_nullable h
  · rintro rfl
    exact Except.ok.inj (h.symm.trans nullable_nullSchema)

theorem nullSchema_mem_iff {variants resolved : List Json} (h : nullableItems variants = .ok resolved) :
    nullSchema ∈ resolved ↔ nullSchema ∈ variants := by
  constructor
  · intro hmem
    obtain ⟨variant, hvariant, hnullable⟩ := mem_nullableItems h hmem
    rwa [eq_nullSchema_of_nullable hnullable] at hvariant
  · intro hmem
    obtain ⟨value, hvalue, hnullable⟩ := exists_mem_of_forall₂ (nullableItems_eq_ok_iff.1 h) hmem
    rwa [(eq_nullSchema_iff_of_nullable hnullable).2 rfl] at hvalue

/-- The other members are resolved to the other members. -/
theorem nullableItems_otherVariants {variants resolved : List Json}
    (h : nullableItems variants = .ok resolved) :
    nullableItems (otherVariants variants) = .ok (otherVariants resolved) := by
  rw [nullableItems_eq_ok_iff] at h ⊢
  refine List.rel_filter (fun variant value hnullable => ?_) h
  have hnull := eq_nullSchema_iff_of_nullable hnullable
  rw [← alike_nullSchema, ← alike_nullSchema] at hnull
  simp [Bool.eq_iff_iff.2 hnull]

/-- A list under a key of an object is the list under that key before, resolved. -/
theorem get?_arr_of_nullableEntries {fields entries : List (String × Json)} {key : String}
    {resolved : List Json} (h : nullableEntries fields = .ok entries)
    (hget : Table.get? entries key = some (.arr resolved)) :
    ∃ items, Table.get? fields key = some (.arr items) ∧ nullableItems items = .ok resolved := by
  obtain ⟨hsome, hnone⟩ := get?_nullableEntries h key
  cases hfield : Table.get? fields key with
  | none =>
      rw [hnone hfield] at hget
      cases hget
  | some value =>
      obtain ⟨found, hfound, hnullable⟩ := hsome value hfield
      cases hfound.symm.trans hget
      obtain ⟨items, rfl, hitems⟩ := exists_items_of_nullable hnullable
      exact ⟨items, rfl, hitems⟩

/-- What can be told of a union from its resolved members can be told before its object is resolved. -/
theorem exists_union_iff {fields entries : List (String × Json)} {told : List Json → Prop}
    (h : nullableEntries fields = .ok entries)
    (htold : ∀ {variants resolved}, nullableItems variants = .ok resolved →
      (told resolved ↔ told variants)) :
    (∃ variants, Table.get? entries "anyOf" = some (.arr variants) ∧ told variants) ↔
      ∃ variants, Table.get? fields "anyOf" = some (.arr variants) ∧ told variants := by
  constructor
  · rintro ⟨resolved, hunion, hresolved⟩
    obtain ⟨variants, hvariants, hitems⟩ := get?_arr_of_nullableEntries h hunion
    exact ⟨variants, hvariants, (htold hitems).1 hresolved⟩
  · rintro ⟨variants, hunion, hvariants⟩
    obtain ⟨value, hvalue, hnullable⟩ := (get?_nullableEntries h "anyOf").1 _ hunion
    obtain ⟨resolved, hitems, rfl⟩ := nullable_arr_eq_ok.1 hnullable
    exact ⟨resolved, hvalue, (htold hitems).2 hvariants⟩

/-- **The object of a union with null is marked.** -/
theorem get?_nullable_of_hasNullUnion {fields : List (String × Json)} {image : Json}
    (hunion : HasNullUnion fields) (h : nullable (.obj fields) = .ok image) :
    image.get? "nullable" = some (.bool true) := by
  obtain ⟨entries, hentries, resolved, hfields, rfl⟩ := nullable_obj_eq_ok.1 h
  rcases nullableFields_cases hfields with ⟨hfree, -⟩ | ⟨_, -, -, ⟨_, -, rfl⟩ | ⟨-, rfl⟩⟩
  · exact absurd ((exists_union_iff hentries nullSchema_mem_iff).2 hunion) hfree
  · exact get?_nullable_mergedFields _ _
  · exact get?_nullable_markedFields _ _

/-! ## Where resolving fails -/

/-- The members of a union with null leave one other, which is no object. -/
def IsStray (variants : List Json) : Prop :=
  nullSchema ∈ variants ∧ ∃ other, otherVariants variants = [other] ∧ other.obj? = none

/-- The list under `anyOf` is a union with null that leaves one member that is no object. -/
def HasStrayUnion (fields : Table String Json) : Prop :=
  ∃ variants, fields.get? "anyOf" = some (.arr variants) ∧ IsStray variants

theorem nullableFields_isOk_iff {fields : Table String Json} :
    (∃ result, nullableFields fields = .ok result) ↔ ¬ HasStrayUnion fields := by
  constructor
  · rintro ⟨result, h⟩ ⟨variants, hunion, hnull, other, hother, hobj⟩
    rcases nullableFields_cases h with ⟨hfree, -⟩ | ⟨found, hfound, -, ⟨member, hmember, -⟩ | ⟨hothers, -⟩⟩
    · exact hfree ⟨variants, hunion, hnull⟩
    · cases hfound.symm.trans hunion
      cases hmember.symm.trans hother
      cases hobj
    · cases hfound.symm.trans hunion
      exact hothers other hother
  · intro hstray
    by_cases hfree : HasNullUnion fields
    · obtain ⟨variants, hunion, hnull⟩ := hfree
      have hany : variants.any (fun variant => nullSchema.alike variant) = true :=
        List.any_eq_true.2 ⟨nullSchema, hnull, nullSchema_alike.2 rfl⟩
      rw [nullableFields, hunion]
      simp only [hany, if_true, withoutNull]
      split
      · exact ⟨_, rfl⟩
      · rename_i other hshape hother
        have hobj : other.obj? = none := by
          cases other with
          | obj member => exact absurd rfl (hshape member)
          | _ => rfl
        exact absurd ⟨variants, hunion, hnull, other, hother, hobj⟩ hstray
      · exact ⟨_, rfl⟩
    · exact ⟨fields, nullableFields_of_not_hasNullUnion hfree⟩

theorem isStray_iff {variants resolved : List Json} (h : nullableItems variants = .ok resolved) :
    IsStray resolved ↔ IsStray variants := by
  have hothers := nullableItems_eq_ok_iff.1 (nullableItems_otherVariants h)
  have hkind : ∀ {other value : Json}, nullable other = .ok value →
      (value.obj? = none ↔ other.obj? = none) := by
    intro other value hnullable
    rw [← Option.isNone_iff_eq_none, ← Option.isNone_iff_eq_none, ← Option.not_isSome,
      obj?_isSome_of_nullable hnullable, Option.not_isSome]
  unfold IsStray
  rw [nullSchema_mem_iff h]
  refine and_congr_right fun _ => ⟨?_, ?_⟩
  · rintro ⟨value, hvalue, hobj⟩
    rw [hvalue, List.forall₂_cons_right_iff] at hothers
    obtain ⟨other, rest, hnullable, hrest, hother⟩ := hothers
    rw [List.forall₂_nil_right_iff.1 hrest] at hother
    exact ⟨other, hother, (hkind hnullable).1 hobj⟩
  · rintro ⟨other, hother, hobj⟩
    rw [hother, List.forall₂_cons_left_iff] at hothers
    obtain ⟨value, rest, hnullable, hrest, hvalue⟩ := hothers
    rw [List.forall₂_nil_left_iff.1 hrest] at hvalue
    exact ⟨value, hvalue, (hkind hnullable).2 hobj⟩

/-- No union with null in a value leaves one member that is no object. -/
def StrayFree (json : Json) : Prop := EveryObject (fun fields => ¬ HasStrayUnion fields) json

/-- **Resolving fails exactly where a union with null leaves one member that is no object.** -/
theorem nullable_isOk_iff {json : Json} : (∃ result, nullable json = .ok result) ↔ StrayFree json := by
  induction json using Json.induction_members with
  | leaf json harr hobj => exact iff_of_true ⟨json, nullable_leaf harr hobj⟩ (everyObject_leaf harr hobj)
  | arr items ih =>
      have hitems : (∃ result, nullable (.arr items) = .ok result) ↔
          ∃ resolved, nullableItems items = .ok resolved := by
        simp [nullable_arr_eq_ok]
      rw [hitems, nullableItems_isOk_iff, StrayFree, everyObject_arr]
      exact forall₂_congr ih
  | obj fields ih =>
      have hvalues : (∃ entries, nullableEntries fields = .ok entries) ↔
          ∀ entry ∈ fields, StrayFree entry.2 := by
        rw [nullableEntries_isOk_iff]
        exact forall₂_congr ih
      rw [StrayFree, everyObject_obj]
      constructor
      · rintro ⟨result, h⟩
        obtain ⟨entries, hentries, resolved, hfields, rfl⟩ := nullable_obj_eq_ok.1 h
        refine ⟨?_, hvalues.1 ⟨entries, hentries⟩⟩
        rw [HasStrayUnion, ← exists_union_iff hentries isStray_iff]
        exact nullableFields_isOk_iff.1 ⟨resolved, hfields⟩
      · rintro ⟨hown, hinner⟩
        obtain ⟨entries, hentries⟩ := hvalues.2 hinner
        rw [HasStrayUnion, ← exists_union_iff hentries isStray_iff] at hown
        obtain ⟨resolved, hfields⟩ := nullableFields_isOk_iff.2 hown
        exact ⟨.obj resolved, nullable_obj_eq_ok.2 ⟨entries, hentries, resolved, hfields, rfl⟩⟩

theorem Within.trans {part inner whole : Json} (h : Within part inner) (hinner : Within inner whole) :
    Within part whole := by
  induction hinner with
  | self => exact h
  | item hitem _ ih => exact .item hitem ih
  | entry hentry _ ih => exact .entry hentry ih

/-- **Resolving leaves no union with null at any depth**, marks the object of every such union, and
changes nothing when it is done again. -/
theorem nullable_resolves_unions {json result : Json} (h : nullable json = .ok result) :
    (∀ fields, Within (.obj fields) result → ¬ HasNullUnion fields) ∧
    (∀ fields, Within (.obj fields) json → HasNullUnion fields →
      ∃ image, nullable (.obj fields) = .ok image ∧ image.get? "nullable" = some (.bool true)) ∧
    nullable result = .ok result := by
  have hfree : NullFree result := nullFree_of_nullable h
  refine ⟨hfree, fun fields hwithin hunion => ?_, nullable_of_nullFree hfree⟩
  have hwhole : StrayFree json := nullable_isOk_iff.1 ⟨result, h⟩
  have hpart : StrayFree (.obj fields) := fun inner hinner => hwhole inner (hinner.trans hwithin)
  obtain ⟨image, himage⟩ := nullable_isOk_iff.2 hpart
  exact ⟨image, himage, get?_nullable_of_hasNullUnion hunion himage⟩

/-- A union with null inside a union with null: both become one marked object. -/
theorem nested_union_resolves :
    nullable (.obj [("anyOf", .arr [.obj [("anyOf", .arr [.obj [("type", .str "string")], nullSchema])],
        nullSchema]), ("title", .str "Name")]) =
      .ok (.obj [("type", .str "string"), ("nullable", .bool true), ("title", .str "Name")]) ∧
    nullable (.obj [("type", .str "string"), ("nullable", .bool true), ("title", .str "Name")]) =
      .ok (.obj [("type", .str "string"), ("nullable", .bool true), ("title", .str "Name")]) := by
  have h : nullable (.obj [("anyOf", .arr [.obj [("anyOf", .arr [.obj [("type", .str "string")],
      nullSchema])], nullSchema]), ("title", .str "Name")]) =
        .ok (.obj [("type", .str "string"), ("nullable", .bool true), ("title", .str "Name")]) := by
    rfl
  exact ⟨h, (nullable_resolves_unions h).2.2⟩

end RouteAtlas.OpenApi
