import RouteAtlas.OpenApi.Refs
import RouteAtlas.Proofs.Step
import RouteAtlas.Proofs.OpenApi.Nullable

/-!
# The references in a schema

`refs` lists every string that stands under the reference key of an object, at any depth. Resolving
unions with null brings in no reference (`refs_nullable`), and renaming brings in only images of
references that were there (`refs_retarget`). Both are read off the entries of the objects on the way,
so neither needs to know which entry wins where an object has one key twice.
-/

set_option autoImplicit false

namespace RouteAtlas.OpenApi

open Step

/-! ## Collecting references -/

/-- The reference an entry makes by itself. -/
def ownRef (key : String) (value : Json) : List String :=
  if key = "$ref" then value.str?.toList else []

mutual

/-- The string-valued references of a value, at any depth. -/
def refs : Json → List String
  | .arr items => itemRefs items
  | .obj fields => entryRefs fields
  | _ => []

/-- The references of the items of a list. -/
def itemRefs : List Json → List String
  | [] => []
  | item :: rest => refs item ++ itemRefs rest

/-- The references of the entries of an object. -/
def entryRefs : List (String × Json) → List String
  | [] => []
  | (key, value) :: rest => ownRef key value ++ refs value ++ entryRefs rest

end

theorem mem_itemRefs {ref : String} {items : List Json} :
    ref ∈ itemRefs items ↔ ∃ item ∈ items, ref ∈ refs item := by
  induction items with
  | nil => simp [itemRefs]
  | cons item rest ih => simp [itemRefs, ih]

theorem mem_entryRefs {ref : String} {fields : List (String × Json)} :
    ref ∈ entryRefs fields ↔
      ∃ entry ∈ fields, ref ∈ ownRef entry.1 entry.2 ∨ ref ∈ refs entry.2 := by
  induction fields with
  | nil => simp [entryRefs]
  | cons entry rest ih => simp [entryRefs, ih, or_assoc]

/-- An object all of whose entries are among those of another has no further references. -/
theorem entryRefs_mono {fields others : List (String × Json)} (h : ∀ entry ∈ fields, entry ∈ others) :
    ∀ ref ∈ entryRefs fields, ref ∈ entryRefs others := by
  intro ref href
  obtain ⟨entry, hentry, hmem⟩ := mem_entryRefs.1 href
  exact mem_entryRefs.2 ⟨entry, h entry hentry, hmem⟩

theorem mem_refs_of_mem {ref key : String} {value : Json} {fields : List (String × Json)}
    (hentry : (key, value) ∈ fields) (href : ref ∈ refs value) : ref ∈ entryRefs fields :=
  mem_entryRefs.2 ⟨(key, value), hentry, .inr href⟩

theorem mem_ownRef {ref key : String} {value : Json} :
    ref ∈ ownRef key value ↔ key = "$ref" ∧ value = .str ref := by
  unfold ownRef
  split
  · rename_i hkey
    cases value <;> simp [hkey, Json.str?, eq_comm]
  · rename_i hkey
    simp [hkey]

/-! ## Unions with null -/

/-- Taking null out of a union keeps to the references of the schema that holds the union. -/
theorem entryRefs_nullableFields {fields result : Table String Json}
    (h : nullableFields fields = .ok result) : ∀ ref ∈ entryRefs result, ref ∈ entryRefs fields := by
  have hvariant : ∀ {variants : List Json}, ("anyOf", Json.arr variants) ∈ fields →
      ∀ variant ∈ variants, ∀ ref ∈ refs variant, ref ∈ entryRefs fields := by
    intro variants hunion variant hmem ref href
    have hitem : ref ∈ refs (.arr variants) := by
      rw [refs]
      exact mem_itemRefs.2 ⟨variant, hmem, href⟩
    exact mem_refs_of_mem hunion hitem
  have hkept : ∀ entry ∈ result, ∀ ref, ref ∈ ownRef entry.1 entry.2 ∨ ref ∈ refs entry.2 →
      ref ∈ entryRefs fields := by
    refine forall_mem_nullableFields h ?_ ?_ ?_ ?_
    · exact fun entry hentry ref href => mem_entryRefs.2 ⟨entry, hentry, href⟩
    · intro variants member hunion hmember entry hentry ref href
      apply hvariant hunion _ hmember
      rw [refs]
      exact mem_entryRefs.2 ⟨entry, hentry, href⟩
    · intro variants hunion ref href
      simp only [ownRef, refs] at href
      obtain ⟨item, hitem, hitemRef⟩ := mem_itemRefs.1 (by simpa using href)
      exact hvariant hunion item (mem_otherVariants.1 hitem).1 ref hitemRef
    · intro ref href
      simp [ownRef, refs] at href
  intro ref href
  obtain ⟨entry, hentry, hmem⟩ := mem_entryRefs.1 href
  exact hkept entry hentry ref hmem

/-- Only a string resolves to a string. -/
theorem eq_str_of_nullable {json : Json} {text : String} (h : nullable json = .ok (.str text)) :
    json = .str text := by
  cases json with
  | arr items => simp [nullable, bind_eq_ok, pure, Except.pure] at h
  | obj fields => simp [nullable, bind_eq_ok, pure, Except.pure] at h
  | null => cases h
  | bool value => cases h
  | num value => cases h
  | str value => cases h; rfl
  | foreign => cases h

mutual

/-- **Resolving unions with null brings in no reference.** -/
theorem refs_nullable : ∀ {json result : Json}, nullable json = .ok result →
    ∀ ref ∈ refs result, ref ∈ refs json
  | .arr items, result, h => by
      simp only [nullable, bind_eq_ok, pure, Except.pure, Except.ok.injEq] at h
      obtain ⟨resolved, hitems, rfl⟩ := h
      simpa only [refs] using itemRefs_nullableItems hitems
  | .obj fields, result, h => by
      simp only [nullable, bind_eq_ok, pure, Except.pure, Except.ok.injEq] at h
      obtain ⟨resolved, hentries, unioned, hunion, rfl⟩ := h
      simp only [refs]
      intro ref href
      exact entryRefs_nullableEntries hentries ref (entryRefs_nullableFields hunion ref href)
  | .null, result, h => by cases h; exact fun _ href => href
  | .bool _, result, h => by cases h; exact fun _ href => href
  | .num _, result, h => by cases h; exact fun _ href => href
  | .str _, result, h => by cases h; exact fun _ href => href
  | .foreign, result, h => by cases h; exact fun _ href => href

theorem itemRefs_nullableItems : ∀ {items result : List Json}, nullableItems items = .ok result →
    ∀ ref ∈ itemRefs result, ref ∈ itemRefs items
  | [], result, h => by cases h; exact fun _ href => href
  | item :: rest, result, h => by
      simp only [nullableItems, bind_eq_ok, pure, Except.pure, Except.ok.injEq] at h
      obtain ⟨first, hfirst, others, hothers, rfl⟩ := h
      simp only [itemRefs, List.mem_append]
      rintro ref (href | href)
      · exact .inl (refs_nullable hfirst ref href)
      · exact .inr (itemRefs_nullableItems hothers ref href)

theorem entryRefs_nullableEntries : ∀ {fields result : List (String × Json)},
    nullableEntries fields = .ok result → ∀ ref ∈ entryRefs result, ref ∈ entryRefs fields
  | [], result, h => by cases h; exact fun _ href => href
  | (key, value) :: rest, result, h => by
      simp only [nullableEntries, bind_eq_ok, pure, Except.pure, Except.ok.injEq] at h
      obtain ⟨first, hfirst, others, hothers, rfl⟩ := h
      simp only [entryRefs, List.mem_append]
      rintro ref ((hown | href) | href)
      · rw [mem_ownRef] at hown
        obtain ⟨rfl, rfl⟩ := hown
        -- only a string resolves to a string, and then to itself
        exact .inl (.inl (mem_ownRef.2 ⟨rfl, eq_str_of_nullable hfirst⟩))
      · exact .inl (.inr (refs_nullable hfirst ref href))
      · exact .inr (entryRefs_nullableEntries hothers ref href)

end

/-! ## Renaming -/

/-- Only a string is renamed to a string, and it stays as it is: references change in the object that
holds them. -/
theorem eq_str_of_retarget {renames : Table String String} {json : Json} {text : String}
    (h : retarget renames json = .ok (.str text)) : json = .str text := by
  cases json with
  | arr items => simp [retarget, bind_eq_ok, pure, Except.pure] at h
  | obj fields => simp [retarget, bind_eq_ok, pure, Except.pure] at h
  | null => cases h
  | bool value => cases h
  | num value => cases h
  | str value => cases h; rfl
  | foreign => cases h

/-- The reference of an object is still the old one when its entries have been renamed. -/
theorem mem_of_mem_retargetEntries {renames : Table String String} {key text : String} :
    ∀ {fields result : List (String × Json)}, retargetEntries renames fields = .ok result →
      (key, Json.str text) ∈ result → (key, Json.str text) ∈ fields
  | [], result, h, hmem => by cases h; exact hmem
  | (k, value) :: rest, result, h, hmem => by
      simp only [retargetEntries, bind_eq_ok, pure, Except.pure, Except.ok.injEq] at h
      obtain ⟨first, hfirst, others, hothers, rfl⟩ := h
      rcases List.mem_cons.1 hmem with heq | hmem
      · cases heq
        rw [eq_str_of_retarget hfirst]
        exact List.mem_cons_self
      · exact List.mem_cons_of_mem _ (mem_of_mem_retargetEntries hothers hmem)

/-- A reference after renaming: one that was there, or the image of one that was there. -/
def Renamed (renames : Table String String) (before : List String) (ref : String) : Prop :=
  ref ∈ before ∨ ∃ old ∈ before, renames.get? old = some ref

theorem Renamed.mono {renames : Table String String} {before others : List String} {ref : String}
    (hmono : ∀ old ∈ before, old ∈ others) (h : Renamed renames before ref) :
    Renamed renames others ref := by
  rcases h with hmem | ⟨old, hold, hget⟩
  · exact .inl (hmono ref hmem)
  · exact .inr ⟨old, hmono old hold, hget⟩

/-- Renaming the reference of one object: every reference is one of its entries', or the image of its
own. -/
theorem entryRefs_renameRef {renames : Table String String} {fields result : Table String Json}
    (h : renameRef renames fields = .ok result) {ref : String} (href : ref ∈ entryRefs result) :
    ref ∈ entryRefs fields ∨
      ∃ target, ("$ref", Json.str target) ∈ fields ∧ renames.get? target = some ref := by
  simp only [renameRef] at h
  split at h
  · rename_i target hown
    split at h
    · rename_i renamed hrenamed
      cases h
      obtain ⟨entry, hentry, hmem⟩ := mem_entryRefs.1 href
      rcases Table.mem_put hentry with hold | rfl
      · exact .inl (mem_entryRefs.2 ⟨entry, hold, hmem⟩)
      · -- the entry that was put in
        have hrefs : ref = renamed := by simpa [ownRef, refs, Json.str?] using hmem
        exact .inr ⟨target, Table.mem_of_get? hown, by rw [hrefs, hrenamed]⟩
    · cases h
      exact .inl href
  · simp at h
  · simp at h
  · cases h
    exact .inl href

mutual

/-- **Renaming brings in only images of references that were there.** -/
theorem refs_retarget {renames : Table String String} : ∀ {json result : Json},
    retarget renames json = .ok result → ∀ ref ∈ refs result, Renamed renames (refs json) ref
  | .arr items, result, h => by
      simp only [retarget, bind_eq_ok, pure, Except.pure, Except.ok.injEq] at h
      obtain ⟨renamed, hitems, rfl⟩ := h
      simpa only [refs] using itemRefs_retargetItems hitems
  | .obj fields, result, h => by
      simp only [retarget, bind_eq_ok, pure, Except.pure, Except.ok.injEq] at h
      obtain ⟨renamed, hentries, final, hrename, rfl⟩ := h
      simp only [refs]
      intro ref href
      rcases entryRefs_renameRef hrename href with hmem | ⟨target, htarget, hget⟩
      · exact entryRefs_retargetEntries hentries ref hmem
      · -- the object's own reference: its string has not changed below it
        have hown := mem_of_mem_retargetEntries hentries htarget
        have htarget : target ∈ entryRefs fields :=
          mem_entryRefs.2 ⟨_, hown, .inl (mem_ownRef.2 ⟨rfl, rfl⟩)⟩
        exact .inr ⟨target, htarget, hget⟩
  | .null, result, h => by cases h; exact fun _ href => .inl href
  | .bool _, result, h => by cases h; exact fun _ href => .inl href
  | .num _, result, h => by cases h; exact fun _ href => .inl href
  | .str _, result, h => by cases h; exact fun _ href => .inl href
  | .foreign, result, h => by cases h; exact fun _ href => .inl href

theorem itemRefs_retargetItems {renames : Table String String} : ∀ {items result : List Json},
    retargetItems renames items = .ok result →
      ∀ ref ∈ itemRefs result, Renamed renames (itemRefs items) ref
  | [], result, h => by cases h; exact fun _ href => .inl href
  | item :: rest, result, h => by
      simp only [retargetItems, bind_eq_ok, pure, Except.pure, Except.ok.injEq] at h
      obtain ⟨first, hfirst, others, hothers, rfl⟩ := h
      simp only [itemRefs, List.mem_append]
      rintro ref (href | href)
      · exact (refs_retarget hfirst ref href).mono fun _ => List.mem_append_left _
      · exact (itemRefs_retargetItems hothers ref href).mono fun _ => List.mem_append_right _

theorem entryRefs_retargetEntries {renames : Table String String} :
    ∀ {fields result : List (String × Json)}, retargetEntries renames fields = .ok result →
      ∀ ref ∈ entryRefs result, Renamed renames (entryRefs fields) ref
  | [], result, h => by cases h; exact fun _ href => .inl href
  | (key, value) :: rest, result, h => by
      simp only [retargetEntries, bind_eq_ok, pure, Except.pure, Except.ok.injEq] at h
      obtain ⟨first, hfirst, others, hothers, rfl⟩ := h
      simp only [entryRefs, List.mem_append]
      rintro ref ((hown | href) | href)
      · rw [mem_ownRef] at hown
        obtain ⟨rfl, rfl⟩ := hown
        have hsame := mem_ownRef.2 ⟨rfl, eq_str_of_retarget hfirst⟩
        exact .inl (List.mem_append_left _ (List.mem_append_left _ hsame))
      · exact (refs_retarget hfirst ref href).mono fun _ hold =>
          List.mem_append_left _ (List.mem_append_right _ hold)
      · exact (entryRefs_retargetEntries hothers ref href).mono fun _ => List.mem_append_right _

end

/-! ## Renamings that agree -/

theorem renameRef_congr {renames others : Table String String} {fields : Table String Json}
    (h : ∀ target, ("$ref", Json.str target) ∈ fields → renames.get? target = others.get? target) :
    renameRef renames fields = renameRef others fields := by
  simp only [renameRef]
  split
  · rename_i target hown
    rw [h target (Table.mem_of_get? hown)]
  · rfl
  · rfl
  · rfl

mutual

/-- **Renaming looks at nothing but the references that are there.** -/
theorem retarget_congr {renames others : Table String String} : ∀ {json : Json},
    (∀ ref ∈ refs json, renames.get? ref = others.get? ref) →
      retarget renames json = retarget others json
  | .arr items, h => by
      simp only [refs] at h
      simp only [retarget, retargetItems_congr h]
  | .obj fields, h => by
      simp only [refs] at h
      simp only [retarget, retargetEntries_congr h]
      cases hentries : retargetEntries others fields with
      | error misshape => rfl
      | ok renamed =>
          have hrename : renameRef renames renamed = renameRef others renamed := by
            apply renameRef_congr
            intro target hown
            apply h
            exact mem_entryRefs.2 ⟨_, mem_of_mem_retargetEntries hentries hown,
              .inl (mem_ownRef.2 ⟨rfl, rfl⟩)⟩
          simp only [bind, Except.bind, hrename]
  | .null, _ => rfl
  | .bool _, _ => rfl
  | .num _, _ => rfl
  | .str _, _ => rfl
  | .foreign, _ => rfl

theorem retargetItems_congr {renames others : Table String String} : ∀ {items : List Json},
    (∀ ref ∈ itemRefs items, renames.get? ref = others.get? ref) →
      retargetItems renames items = retargetItems others items
  | [], _ => rfl
  | item :: rest, h => by
      simp only [itemRefs, List.mem_append] at h
      simp only [retargetItems, retarget_congr fun ref href => h ref (.inl href),
        retargetItems_congr fun ref href => h ref (.inr href)]

theorem retargetEntries_congr {renames others : Table String String} :
    ∀ {fields : List (String × Json)},
      (∀ ref ∈ entryRefs fields, renames.get? ref = others.get? ref) →
        retargetEntries renames fields = retargetEntries others fields
  | [], _ => rfl
  | (key, value) :: rest, h => by
      simp only [entryRefs, List.mem_append] at h
      simp only [retargetEntries, retarget_congr fun ref href => h ref (.inl (.inr href)),
        retargetEntries_congr fun ref href => h ref (.inr href)]

end

end RouteAtlas.OpenApi
