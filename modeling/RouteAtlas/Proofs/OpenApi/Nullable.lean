import RouteAtlas.OpenApi.Nullable
import RouteAtlas.Proofs.Table

/-!
# A union with null in one object

A union with null is the list under `anyOf` of an object that has the schema of null among its members.
What resolving such a union does to one object is said once (`nullableFields_cases`): the object stays as
it is, or the one member that is left is merged into it, or the union keeps the other members. From it
follows what holds of every entry of the result (`forall_mem_nullableFields`).
-/

set_option autoImplicit false

namespace RouteAtlas.OpenApi

open Schema

/-! ## The schema of null -/

theorem eq_str_of_alike {registered : Json} {text : String}
    (h : registered.alike (.str text) = true) : registered = .str text := by
  cases registered with
  | str value => simpa [Json.alike] using h
  | _ => simp [Json.alike, Json.asNumber?] at h

theorem eq_str_of_str_alike {value : Json} {text : String} (h : (Json.str text).alike value = true) :
    value = .str text := by
  cases value with
  | str other => rw [eq_of_beq h]
  | _ => cases h

theorem alike_single {key other : String} {value setting : Json} :
    (Json.obj [(key, value)]).alike (.obj [(other, setting)]) = true ↔
      other = key ∧ value.alike setting = true := by
  by_cases hkey : other = key
  · simp [Json.alike, Json.alikeFields, Table.get?, hkey]
  · simp [Json.alike, Json.alikeFields, Table.get?, hkey]

/-- Nothing but the schema of null is equal to it. -/
theorem alike_nullSchema {variant : Json} : variant.alike nullSchema = true ↔ variant = nullSchema := by
  constructor
  · intro h
    cases variant with
    | obj fields =>
        have hlength : fields.length = 1 := eq_of_beq (Bool.and_eq_true_iff.1 h).1
        obtain ⟨⟨key, value⟩, rfl⟩ := List.length_eq_one_iff.1 hlength
        obtain ⟨rfl, hvalue⟩ := alike_single.1 h
        rw [eq_str_of_alike hvalue]
        rfl
    | _ => cases h
  · rintro rfl
    decide +kernel

theorem nullSchema_alike {variant : Json} : nullSchema.alike variant = true ↔ variant = nullSchema := by
  constructor
  · intro h
    cases variant with
    | obj fields =>
        have hlength : 1 = fields.length := eq_of_beq (Bool.and_eq_true_iff.1 h).1
        obtain ⟨⟨key, value⟩, rfl⟩ := List.length_eq_one_iff.1 hlength.symm
        obtain ⟨rfl, hvalue⟩ := alike_single.1 h
        rw [eq_str_of_str_alike hvalue]
        rfl
    | _ => cases h
  · rintro rfl
    decide +kernel

/-- The members of a union other than the schema of null. -/
def otherVariants (variants : List Json) : List Json :=
  variants.filter fun variant => !variant.alike nullSchema

theorem mem_otherVariants {variant : Json} {variants : List Json} :
    variant ∈ otherVariants variants ↔ variant ∈ variants ∧ variant ≠ nullSchema := by
  rw [otherVariants, List.mem_filter, Bool.not_eq_true', ← Bool.not_eq_true, alike_nullSchema]

/-! ## One object -/

/-- The list under `anyOf` has the schema of null among its members. -/
def HasNullUnion (fields : Table String Json) : Prop :=
  ∃ variants, fields.get? "anyOf" = some (.arr variants) ∧ nullSchema ∈ variants

/-- The object of a union with null, of which one member is left. -/
def mergedFields (fields member : Table String Json) : Table String Json :=
  (Table.putAll member (fields.drop "anyOf")).put "nullable" (.bool true)

/-- The object of a union with null, of which a union is left. -/
def markedFields (fields : Table String Json) (others : List Json) : Table String Json :=
  ((fields.drop "anyOf").put "anyOf" (.arr others)).put "nullable" (.bool true)

/-- **What resolving does to one object whose entries are resolved.** -/
theorem nullableFields_cases {fields result : Table String Json} (h : nullableFields fields = .ok result) :
    (¬ HasNullUnion fields ∧ result = fields) ∨
    ∃ variants, fields.get? "anyOf" = some (.arr variants) ∧ nullSchema ∈ variants ∧
      ((∃ member, otherVariants variants = [.obj member] ∧ result = mergedFields fields member) ∨
        (∀ variant, otherVariants variants ≠ [variant]) ∧
          result = markedFields fields (otherVariants variants)) := by
  simp only [nullableFields] at h
  split at h
  · rename_i variants hunion
    split at h
    · rename_i hnull
      obtain ⟨variant, hvariant, halike⟩ := List.any_eq_true.1 hnull
      rw [nullSchema_alike.1 halike] at hvariant
      refine .inr ⟨variants, hunion, hvariant, ?_⟩
      simp only [withoutNull] at h
      split at h
      · rename_i member hothers
        cases h
        exact .inl ⟨member, hothers, rfl⟩
      · cases h
      · rename_i hone
        cases h
        exact .inr ⟨hone, rfl⟩
    · rename_i hnull
      cases h
      refine .inl ⟨?_, rfl⟩
      rintro ⟨others, hothers, hmem⟩
      cases hunion.symm.trans hothers
      exact hnull (List.any_eq_true.2 ⟨nullSchema, hmem, nullSchema_alike.2 rfl⟩)
  · rename_i hlist
    cases h
    refine .inl ⟨?_, rfl⟩
    rintro ⟨variants, hunion, -⟩
    exact hlist variants hunion

theorem nullableFields_of_not_hasNullUnion {fields : Table String Json} (h : ¬ HasNullUnion fields) :
    nullableFields fields = .ok fields := by
  rw [nullableFields]
  split
  · rename_i variants hunion
    rw [if_neg]
    rw [List.any_eq_true]
    rintro ⟨variant, hvariant, halike⟩
    exact h ⟨variants, hunion, nullSchema_alike.1 halike ▸ hvariant⟩
  · rfl

/-! ## The entries of the result -/

theorem mem_mergedFields {fields member : Table String Json} {entry : String × Json}
    (h : entry ∈ mergedFields fields member) :
    entry ∈ member ∨ entry ∈ fields ∨ entry = ("nullable", .bool true) := by
  rcases Table.mem_put h with hput | rfl
  · rcases Table.mem_putAll hput with hmember | hplain
    · exact .inl hmember
    · exact .inr (.inl (Table.mem_of_mem_drop hplain))
  · exact .inr (.inr rfl)

theorem mem_markedFields {fields : Table String Json} {others : List Json} {entry : String × Json}
    (h : entry ∈ markedFields fields others) :
    entry = ("anyOf", .arr others) ∨ entry ∈ fields ∨ entry = ("nullable", .bool true) := by
  rcases Table.mem_put h with hput | rfl
  · rcases Table.mem_put hput with hplain | rfl
    · exact .inr (.inl (Table.mem_of_mem_drop hplain))
    · exact .inl rfl
  · exact .inr (.inr rfl)

/-- **What holds of every entry still does once a union with null is resolved**, if it holds of the
entries of the members, of the union of the other members and of the mark. -/
theorem forall_mem_nullableFields {holds : String × Json → Prop} {fields result : Table String Json}
    (h : nullableFields fields = .ok result) (hfields : ∀ entry ∈ fields, holds entry)
    (hmember : ∀ variants member, ("anyOf", Json.arr variants) ∈ fields → Json.obj member ∈ variants →
      ∀ entry ∈ member, holds entry)
    (hothers : ∀ variants, ("anyOf", Json.arr variants) ∈ fields →
      holds ("anyOf", .arr (otherVariants variants)))
    (hmark : holds ("nullable", .bool true)) : ∀ entry ∈ result, holds entry := by
  rcases nullableFields_cases h with ⟨-, rfl⟩ | ⟨variants, hunion, -, ⟨member, hleft, rfl⟩ | ⟨-, rfl⟩⟩
  · exact hfields
  · have hmem : .obj member ∈ otherVariants variants := by
      rw [hleft]
      exact List.mem_singleton_self _
    intro entry hentry
    rcases mem_mergedFields hentry with hinner | houter | rfl
    · exact hmember variants member (Table.mem_of_get? hunion) (mem_otherVariants.1 hmem).1 entry hinner
    · exact hfields entry houter
    · exact hmark
  · intro entry hentry
    rcases mem_markedFields hentry with rfl | houter | rfl
    · exact hothers variants (Table.mem_of_get? hunion)
    · exact hfields entry houter
    · exact hmark

end RouteAtlas.OpenApi
