import RouteAtlas.Proofs.OpenApi.Settling

/-!
# Values with distinct keys

An object of a document has at most one entry under a key. Resolving unions with null and renaming
references keep it so (`hasDistinctKeys_nullable`, `hasDistinctKeys_retarget`), hence every component of
a reachable state has distinct keys where the rendered schemas do (`hasDistinctKeys_assembled`). For such
values the comparison `alike` looks at every entry on both sides. A component that equals a definition
under two renamings therefore tells what both do to each of its references (`renamed_eq_of_alike`).
-/

set_option autoImplicit false

namespace RouteAtlas

/-! ## Induction on values -/

mutual

/-- Induction on values through the members of lists and the entries of objects. -/
theorem Json.induction_members {motive : Json → Prop}
    (leaf : ∀ json, json.arr? = none → json.obj? = none → motive json)
    (arr : ∀ items, (∀ item ∈ items, motive item) → motive (.arr items))
    (obj : ∀ fields, (∀ entry ∈ fields, motive entry.2) → motive (.obj fields)) :
    ∀ json, motive json
  | .arr items => arr items (Json.induction_items leaf arr obj items)
  | .obj fields => obj fields (Json.induction_entries leaf arr obj fields)
  | .null => leaf _ rfl rfl
  | .bool _ => leaf _ rfl rfl
  | .num _ => leaf _ rfl rfl
  | .str _ => leaf _ rfl rfl
  | .foreign => leaf _ rfl rfl

theorem Json.induction_items {motive : Json → Prop}
    (leaf : ∀ json, json.arr? = none → json.obj? = none → motive json)
    (arr : ∀ items, (∀ item ∈ items, motive item) → motive (.arr items))
    (obj : ∀ fields, (∀ entry ∈ fields, motive entry.2) → motive (.obj fields)) :
    ∀ items : List Json, ∀ item ∈ items, motive item
  | [] => by simp
  | first :: rest => List.forall_mem_cons.2
      ⟨Json.induction_members leaf arr obj first, Json.induction_items leaf arr obj rest⟩

theorem Json.induction_entries {motive : Json → Prop}
    (leaf : ∀ json, json.arr? = none → json.obj? = none → motive json)
    (arr : ∀ items, (∀ item ∈ items, motive item) → motive (.arr items))
    (obj : ∀ fields, (∀ entry ∈ fields, motive entry.2) → motive (.obj fields)) :
    ∀ fields : List (String × Json), ∀ entry ∈ fields, motive entry.2
  | [] => by simp
  | (_, value) :: rest => List.forall_mem_cons.2
      ⟨Json.induction_members leaf arr obj value, Json.induction_entries leaf arr obj rest⟩

end

namespace OpenApi

open Schema Step

theorem nullable_leaf {json : Json} (harr : json.arr? = none) (hobj : json.obj? = none) :
    nullable json = .ok json := by
  cases json with
  | arr items => cases harr
  | obj fields => cases hobj
  | _ => rfl

theorem retarget_leaf {json : Json} (renames : Table String String) (harr : json.arr? = none)
    (hobj : json.obj? = none) : retarget renames json = .ok json := by
  cases json with
  | arr items => cases harr
  | obj fields => cases hobj
  | _ => rfl

/-- Only a value that is no list and no object is renamed to one. -/
theorem leaf_of_retarget {json result : Json} {renames : Table String String}
    (h : retarget renames json = .ok result) (harr : result.arr? = none) (hobj : result.obj? = none) :
    json.arr? = none ∧ json.obj? = none := by
  cases json with
  | arr items =>
      simp only [retarget, bind_eq_ok, pure, Except.pure, Except.ok.injEq] at h
      obtain ⟨_, -, rfl⟩ := h
      cases harr
  | obj fields =>
      simp only [retarget, bind_eq_ok, pure, Except.pure, Except.ok.injEq] at h
      obtain ⟨_, -, _, -, rfl⟩ := h
      cases hobj
  | _ => exact ⟨rfl, rfl⟩

theorem refs_leaf {json : Json} (harr : json.arr? = none) (hobj : json.obj? = none) :
    refs json = [] := by
  cases json with
  | arr items => cases harr
  | obj fields => cases hobj
  | _ => rfl

/-! ## Distinct keys -/

mutual

/-- No object has two entries under one key, at any depth. -/
def hasDistinctKeys : Json → Bool
  | .arr items => itemsHaveDistinctKeys items
  | .obj fields => decide (Table.keys fields).Nodup && entriesHaveDistinctKeys fields
  | _ => true

/-- The objects in the items of a list have distinct keys. -/
def itemsHaveDistinctKeys : List Json → Bool
  | [] => true
  | item :: rest => hasDistinctKeys item && itemsHaveDistinctKeys rest

/-- The objects in the entries of an object have distinct keys. -/
def entriesHaveDistinctKeys : List (String × Json) → Bool
  | [] => true
  | (_, value) :: rest => hasDistinctKeys value && entriesHaveDistinctKeys rest

end

theorem hasDistinctKeys_arr {items : List Json} :
    hasDistinctKeys (.arr items) = true ↔ ∀ item ∈ items, hasDistinctKeys item = true := by
  rw [hasDistinctKeys]
  induction items with
  | nil => simp [itemsHaveDistinctKeys]
  | cons item rest ih => simp [itemsHaveDistinctKeys, ih]

theorem hasDistinctKeys_obj {fields : List (String × Json)} :
    hasDistinctKeys (.obj fields) = true ↔
      (Table.keys fields).Nodup ∧ ∀ entry ∈ fields, hasDistinctKeys entry.2 = true := by
  have hentries : entriesHaveDistinctKeys fields = true ↔
      ∀ entry ∈ fields, hasDistinctKeys entry.2 = true := by
    induction fields with
    | nil => simp [entriesHaveDistinctKeys]
    | cons entry rest ih => simp only [entriesHaveDistinctKeys, Bool.and_eq_true, ih, List.forall_mem_cons]
  rw [hasDistinctKeys, Bool.and_eq_true, decide_eq_true_eq, hentries]

/-! ## Unions with null -/

theorem nodup_keys_put {table : Table String Json} (h : table.keys.Nodup) (key : String)
    (value : Json) : (table.put key value).keys.Nodup := by
  rw [Table.keys_put]
  split
  · exact h
  · rename_i hnew
    exact List.nodup_append.2 ⟨h, List.nodup_singleton key, fun a ha b hb heq =>
      hnew (List.mem_singleton.1 hb ▸ heq ▸ ha)⟩

theorem nodup_keys_putAll {table : Table String Json} (h : table.keys.Nodup)
    (entries : List (String × Json)) : (table.putAll entries).keys.Nodup := by
  induction entries generalizing table with
  | nil => exact h
  | cons entry rest ih => exact ih (nodup_keys_put h entry.1 entry.2)

theorem nodup_keys_drop {table : Table String Json} (h : table.keys.Nodup) (key : String) :
    (table.drop key).keys.Nodup :=
  h.sublist (List.filter_sublist.map Prod.fst)

theorem mem_nullableItems {value : Json} {items result : List Json}
    (h : nullableItems items = .ok result) (hmem : value ∈ result) :
    ∃ item ∈ items, nullable item = .ok value := by
  induction items generalizing result with
  | nil =>
      cases h
      simp at hmem
  | cons item rest ih =>
      simp only [nullableItems, bind_eq_ok, pure, Except.pure, Except.ok.injEq] at h
      obtain ⟨first, hfirst, others, hothers, rfl⟩ := h
      rcases List.mem_cons.1 hmem with rfl | hmem
      · exact ⟨item, List.mem_cons_self, hfirst⟩
      · obtain ⟨found, hfound, hvalue⟩ := ih hothers hmem
        exact ⟨found, List.mem_cons_of_mem _ hfound, hvalue⟩

theorem hasDistinctKeys_nullableFields {fields result : Table String Json}
    (hfields : hasDistinctKeys (.obj fields) = true) (h : nullableFields fields = .ok result) :
    hasDistinctKeys (.obj result) = true := by
  obtain ⟨hkeys, hvalues⟩ := hasDistinctKeys_obj.1 hfields
  have hvariants : ∀ {variants : List Json}, ("anyOf", Json.arr variants) ∈ fields →
      ∀ variant ∈ variants, hasDistinctKeys variant = true :=
    fun hunion => hasDistinctKeys_arr.1 (hvalues _ hunion)
  rw [hasDistinctKeys_obj]
  constructor
  · rcases nullableFields_cases h with ⟨-, rfl⟩ | ⟨variants, hunion, -, ⟨member, hothers, rfl⟩ | ⟨-, rfl⟩⟩
    · exact hkeys
    · have hmem : .obj member ∈ otherVariants variants := by
        rw [hothers]
        exact List.mem_singleton_self _
      have hmember := hvariants (Table.mem_of_get? hunion) _ (mem_otherVariants.1 hmem).1
      exact nodup_keys_put (nodup_keys_putAll (hasDistinctKeys_obj.1 hmember).1 _) _ _
    · exact nodup_keys_put (nodup_keys_put (nodup_keys_drop hkeys _) _ _) _ _
  · refine forall_mem_nullableFields h hvalues ?_ ?_ rfl
    · exact fun variants member hunion hmem => (hasDistinctKeys_obj.1 (hvariants hunion _ hmem)).2
    · intro variants hunion
      rw [hasDistinctKeys_arr]
      exact fun item hitem => hvariants hunion item (mem_otherVariants.1 hitem).1

/-- **Resolving unions with null keeps keys distinct.** -/
theorem hasDistinctKeys_nullable {json : Json} : ∀ {result : Json}, hasDistinctKeys json = true →
    nullable json = .ok result → hasDistinctKeys result = true := by
  induction json using Json.induction_members with
  | leaf json harr hobj =>
      intro result hjson h
      rw [nullable_leaf harr hobj, Except.ok.injEq] at h
      exact h ▸ hjson
  | arr items ih =>
      intro result hjson h
      simp only [nullable, bind_eq_ok, pure, Except.pure, Except.ok.injEq] at h
      obtain ⟨resolved, hitems, rfl⟩ := h
      rw [hasDistinctKeys_arr] at hjson ⊢
      intro value hvalue
      obtain ⟨item, hitem, hnullable⟩ := mem_nullableItems hitems hvalue
      exact ih item hitem (hjson item hitem) hnullable
  | obj fields ih =>
      intro result hjson h
      simp only [nullable, bind_eq_ok, pure, Except.pure, Except.ok.injEq] at h
      obtain ⟨resolved, hentries, unioned, hunion, rfl⟩ := h
      obtain ⟨hkeys, hvalues⟩ := hasDistinctKeys_obj.1 hjson
      refine hasDistinctKeys_nullableFields (hasDistinctKeys_obj.2 ⟨?_, ?_⟩) hunion
      · rwa [keys_nullableEntries hentries]
      · rintro ⟨key, value⟩ hvalue
        obtain ⟨original, horiginal, hnullable⟩ := mem_of_mem_nullableEntries hentries hvalue
        exact ih _ horiginal (hvalues _ horiginal) hnullable

/-! ## Renaming -/

theorem mem_retargetItems {renames : Table String String} {value : Json} {items result : List Json}
    (h : retargetItems renames items = .ok result) (hmem : value ∈ result) :
    ∃ item ∈ items, retarget renames item = .ok value := by
  induction items generalizing result with
  | nil =>
      cases h
      simp at hmem
  | cons item rest ih =>
      simp only [retargetItems, bind_eq_ok, pure, Except.pure, Except.ok.injEq] at h
      obtain ⟨first, hfirst, others, hothers, rfl⟩ := h
      rcases List.mem_cons.1 hmem with rfl | hmem
      · exact ⟨item, List.mem_cons_self, hfirst⟩
      · obtain ⟨found, hfound, hvalue⟩ := ih hothers hmem
        exact ⟨found, List.mem_cons_of_mem _ hfound, hvalue⟩

theorem keys_retargetEntries {renames : Table String String} {fields result : List (String × Json)}
    (h : retargetEntries renames fields = .ok result) : Table.keys result = Table.keys fields := by
  induction fields generalizing result with
  | nil =>
      cases h
      rfl
  | cons entry rest ih =>
      rcases entry with ⟨key, value⟩
      simp only [retargetEntries, bind_eq_ok, pure, Except.pure, Except.ok.injEq] at h
      obtain ⟨first, -, others, hothers, rfl⟩ := h
      simpa only [Table.keys, List.map_cons] using congrArg (key :: ·) (ih hothers)

/-- What renaming the reference of one object does to each of its entries. -/
theorem renameRef_cases {renames : Table String String} {fields result : Table String Json}
    (h : renameRef renames fields = .ok result) :
    result.keys = fields.keys ∧ (∀ key, key ≠ "$ref" → result.get? key = fields.get? key) ∧
      (∀ target, fields.get? "$ref" = some (.str target) →
        result.get? "$ref" = some (.str ((renames.get? target).getD target))) ∧
      ∀ value, fields.get? "$ref" = some value → value.arr? = none ∧ value.obj? = none := by
  simp only [renameRef] at h
  split at h
  · rename_i target hown
    have hkey : "$ref" ∈ fields.keys := Table.has_iff_mem_keys.1 (by rw [Table.has, hown]; rfl)
    split at h
    · rename_i renamed hrenamed
      cases h
      refine ⟨by rw [Table.keys_put, if_pos hkey], fun key hne => Table.get?_put_of_ne _ _ hne, ?_, ?_⟩
      · rintro _ hsame
        obtain rfl : target = _ := by simpa [hown] using hsame
        rw [Table.get?_put_self, hrenamed, Option.getD_some]
      · rintro _ hsame
        obtain rfl : Json.str target = _ := by simpa [hown] using hsame
        exact ⟨rfl, rfl⟩
    · rename_i hkept
      cases h
      refine ⟨rfl, fun _ _ => rfl, ?_, ?_⟩
      · rintro _ hsame
        obtain rfl : target = _ := by simpa [hown] using hsame
        rw [hkept, Option.getD_none, hown]
      · rintro _ hsame
        obtain rfl : Json.str target = _ := by simpa [hown] using hsame
        exact ⟨rfl, rfl⟩
  · cases h
  · cases h
  · rename_i htext harr hobj
    cases h
    refine ⟨rfl, fun _ _ => rfl, fun target hown => absurd hown (htext target), fun value hown => ?_⟩
    cases value with
    | arr items => exact absurd hown (harr items)
    | obj entries => exact absurd hown (hobj entries)
    | _ => exact ⟨rfl, rfl⟩

theorem mem_renameRef {renames : Table String String} {fields result : Table String Json}
    (h : renameRef renames fields = .ok result) {entry : String × Json} (hentry : entry ∈ result) :
    entry ∈ fields ∨ ∃ text, entry.2 = .str text := by
  simp only [renameRef] at h
  split at h
  · split at h
    · cases h
      rcases Table.mem_put hentry with hold | rfl
      · exact .inl hold
      · exact .inr ⟨_, rfl⟩
    · cases h
      exact .inl hentry
  · cases h
  · cases h
  · cases h
    exact .inl hentry

/-- **Renaming references keeps keys distinct.** -/
theorem hasDistinctKeys_retarget {renames : Table String String} {json : Json} :
    ∀ {result : Json}, hasDistinctKeys json = true → retarget renames json = .ok result →
      hasDistinctKeys result = true := by
  induction json using Json.induction_members with
  | leaf json harr hobj =>
      intro result hjson h
      rw [retarget_leaf renames harr hobj, Except.ok.injEq] at h
      exact h ▸ hjson
  | arr items ih =>
      intro result hjson h
      simp only [retarget, bind_eq_ok, pure, Except.pure, Except.ok.injEq] at h
      obtain ⟨renamed, hitems, rfl⟩ := h
      rw [hasDistinctKeys_arr] at hjson ⊢
      intro value hvalue
      obtain ⟨item, hitem, hretarget⟩ := mem_retargetItems hitems hvalue
      exact ih item hitem (hjson item hitem) hretarget
  | obj fields ih =>
      intro result hjson h
      simp only [retarget, bind_eq_ok, pure, Except.pure, Except.ok.injEq] at h
      obtain ⟨renamed, hentries, final, hrename, rfl⟩ := h
      obtain ⟨hkeys, hvalues⟩ := hasDistinctKeys_obj.1 hjson
      rw [hasDistinctKeys_obj]
      refine ⟨?_, ?_⟩
      · rwa [(renameRef_cases hrename).1, keys_retargetEntries hentries]
      · rintro ⟨key, value⟩ hvalue
        rcases mem_renameRef hrename hvalue with hold | ⟨text, rfl⟩
        · obtain ⟨original, horiginal, hretarget⟩ := mem_retargetEntries hentries hold
          exact ih _ horiginal (hvalues _ horiginal) hretarget
        · rfl

theorem get?_retargetEntries {renames : Table String String} {key : String} {value : Json}
    {fields result : List (String × Json)} (h : retargetEntries renames fields = .ok result)
    (hget : Table.get? fields key = some value) :
    ∃ renamed, Table.get? result key = some renamed ∧ retarget renames value = .ok renamed := by
  induction fields generalizing result with
  | nil => cases hget
  | cons entry rest ih =>
      rcases entry with ⟨first, original⟩
      simp only [retargetEntries, bind_eq_ok, pure, Except.pure, Except.ok.injEq] at h
      obtain ⟨renamed, hrenamed, others, hothers, rfl⟩ := h
      simp only [Table.get?] at hget ⊢
      split at hget
      · rename_i hkey
        cases hget
        exact ⟨renamed, if_pos hkey, hrenamed⟩
      · rename_i hkey
        rw [if_neg hkey]
        exact ih hothers hget

/-- An entry of a renamed object: its own reference is renamed, and any other value is renamed below. -/
theorem get?_retarget_obj {renames : Table String String} {key : String} {value : Json}
    {fields renamed result : Table String Json} (hentries : retargetEntries renames fields = .ok renamed)
    (hrename : renameRef renames renamed = .ok result) (hget : Table.get? fields key = some value) :
    (∀ target, key = "$ref" → value = .str target →
        result.get? key = some (.str ((renames.get? target).getD target))) ∧
      ∀ ref ∈ refs value, ∃ inner, result.get? key = some inner ∧ retarget renames value = .ok inner := by
  obtain ⟨inner, hinner, hretarget⟩ := get?_retargetEntries hentries hget
  obtain ⟨-, hother, hown, hleaf⟩ := renameRef_cases hrename
  refine ⟨?_, fun ref href => ?_⟩
  · rintro target rfl rfl
    cases hretarget
    exact hown target hinner
  · refine ⟨inner, ?_, hretarget⟩
    rw [hother key, hinner]
    rintro rfl
    -- a value with references below it is a list or an object, and cannot be a reference itself
    obtain ⟨harr, hobj⟩ := hleaf inner hinner
    obtain ⟨hvalueArr, hvalueObj⟩ := leaf_of_retarget hretarget harr hobj
    rw [refs_leaf hvalueArr hvalueObj] at href
    exact absurd href List.not_mem_nil

/-! ## Comparison -/

theorem alikeFields_iff {fields : List (String × Json)} {others : Table String Json} :
    Json.alikeFields fields others = true ↔
      ∀ entry ∈ fields, ∃ other, others.get? entry.1 = some other ∧ entry.2.alike other = true := by
  induction fields with
  | nil => simp [Json.alikeFields]
  | cons entry rest ih =>
      rw [Json.alikeFields, Bool.and_eq_true, ih, List.forall_mem_cons]
      apply and_congr_left'
      cases others.get? entry.1 with
      | none => simp
      | some other => simp

/-- An object with distinct keys that equals another has an equal entry under each of its keys. -/
theorem exists_get?_of_alike {registered : Json} {fields : Table String Json}
    (hdistinct : hasDistinctKeys registered = true) (h : registered.alike (.obj fields) = true) :
    ∃ entries, registered = .obj entries ∧ ∀ key value, fields.get? key = some value →
      ∃ own, Table.get? entries key = some own ∧ own.alike value = true := by
  cases registered with
  | obj entries =>
      rw [Json.alike, Bool.and_eq_true, beq_iff_eq, alikeFields_iff] at h
      obtain ⟨hlength, hentries⟩ := h
      have hnodup := (hasDistinctKeys_obj.1 hdistinct).1
      have hsubset : Table.keys entries ⊆ Table.keys fields := by
        intro key hkey
        obtain ⟨entry, hentry, rfl⟩ := List.mem_map.1 hkey
        obtain ⟨other, hother, -⟩ := hentries entry hentry
        exact Table.has_iff_mem_keys.1 (by rw [Table.has, hother]; rfl)
      -- as many distinct keys as the other has are all of its keys
      have hperm : (Table.keys entries).Perm (Table.keys fields) :=
        (hnodup.subperm hsubset).perm_of_length_le (by simp [Table.keys, hlength])
      refine ⟨entries, rfl, fun key value hvalue => ?_⟩
      have hkey : key ∈ Table.keys entries :=
        hperm.mem_iff.2 (Table.has_iff_mem_keys.1 (by rw [Table.has, hvalue]; rfl))
      obtain ⟨own, hown⟩ := Option.isSome_iff_exists.1 (Table.has_iff_mem_keys.2 hkey)
      obtain ⟨other, hother, halike⟩ := hentries _ (Table.mem_of_get? hown)
      rw [hvalue, Option.some.injEq] at hother
      exact ⟨own, hown, hother ▸ halike⟩
  | _ => simp [Json.alike, Json.asNumber?] at h

theorem exists_items_of_alike {registered : Json} {items : List Json}
    (h : registered.alike (.arr items) = true) :
    ∃ own, registered = .arr own ∧ Json.alikeItems own items = true := by
  cases registered with
  | arr own => exact ⟨own, rfl, by simpa only [Json.alike] using h⟩
  | _ => simp [Json.alike, Json.asNumber?] at h

section

variable {renames others : Table String String}

/-- A list that equals another one under two renamings does so item by item. -/
theorem exists_item_of_alike {items own first second : List Json}
    (hfirst : retargetItems renames items = .ok first)
    (hsecond : retargetItems others items = .ok second)
    (halike : Json.alikeItems own first = true) (halike' : Json.alikeItems own second = true)
    {item : Json} (hitem : item ∈ items) :
    ∃ value ∈ own, ∃ left right, retarget renames item = .ok left ∧ retarget others item = .ok right ∧
      value.alike left = true ∧ value.alike right = true := by
  induction items generalizing own first second with
  | nil => simp at hitem
  | cons head rest ih =>
      simp only [retargetItems, bind_eq_ok, pure, Except.pure, Except.ok.injEq] at hfirst hsecond
      obtain ⟨left, hleft, lefts, hlefts, rfl⟩ := hfirst
      obtain ⟨right, hright, rights, hrights, rfl⟩ := hsecond
      cases own with
      | nil => simp [Json.alikeItems] at halike
      | cons value values =>
          rw [Json.alikeItems, Bool.and_eq_true] at halike halike'
          rcases List.mem_cons.1 hitem with rfl | hitem
          · exact ⟨value, List.mem_cons_self, left, right, hleft, hright, halike.1, halike'.1⟩
          · obtain ⟨found, hfound, hrest⟩ := ih hlefts hrights halike.2 halike'.2 hitem
            exact ⟨found, List.mem_cons_of_mem _ hfound, hrest⟩

/-- **What equals a definition under two renamings tells how its references are renamed**: both
renamings do the same to each of them. -/
theorem renamed_eq_of_alike {definition : Json} : ∀ {registered first second : Json},
    hasDistinctKeys definition = true → hasDistinctKeys registered = true →
    retarget renames definition = .ok first → retarget others definition = .ok second →
    registered.alike first = true → registered.alike second = true →
      ∀ ref ∈ refs definition, (renames.get? ref).getD ref = (others.get? ref).getD ref := by
  induction definition using Json.induction_members with
  | leaf json harr hobj =>
      intro registered first second _ _ _ _ _ _ ref href
      rw [refs_leaf harr hobj] at href
      exact absurd href List.not_mem_nil
  | arr items ih =>
      intro registered first second hdefinition hregistered hfirst hsecond halike halike' ref href
      simp only [retarget, bind_eq_ok, pure, Except.pure, Except.ok.injEq] at hfirst hsecond
      obtain ⟨lefts, hlefts, rfl⟩ := hfirst
      obtain ⟨rights, hrights, rfl⟩ := hsecond
      obtain ⟨own, rfl, hown⟩ := exists_items_of_alike halike
      rw [Json.alike] at halike'
      simp only [refs] at href
      obtain ⟨item, hitem, hinner⟩ := mem_itemRefs.1 href
      obtain ⟨value, hvalue, left, right, hleft, hright, hvalueLeft, hvalueRight⟩ :=
        exists_item_of_alike hlefts hrights hown halike' hitem
      exact ih item hitem (hasDistinctKeys_arr.1 hdefinition item hitem)
        (hasDistinctKeys_arr.1 hregistered value hvalue) hleft hright hvalueLeft hvalueRight ref hinner
  | obj fields ih =>
      intro registered first second hdefinition hregistered hfirst hsecond halike halike' ref href
      simp only [retarget, bind_eq_ok, pure, Except.pure, Except.ok.injEq] at hfirst hsecond
      obtain ⟨lefts, hlefts, leftEntries, hleftEntries, rfl⟩ := hfirst
      obtain ⟨rights, hrights, rightEntries, hrightEntries, rfl⟩ := hsecond
      obtain ⟨hkeys, hvalues⟩ := hasDistinctKeys_obj.1 hdefinition
      obtain ⟨entries, rfl, hentries⟩ := exists_get?_of_alike hregistered halike
      obtain ⟨_, hsame, hentries'⟩ := exists_get?_of_alike hregistered halike'
      cases hsame
      simp only [refs] at href
      obtain ⟨⟨key, value⟩, hentry, hcase⟩ := mem_entryRefs.1 href
      have hget := Table.get?_of_mem hkeys hentry
      obtain ⟨hownLeft, hbelowLeft⟩ := get?_retarget_obj hlefts hleftEntries hget
      obtain ⟨hownRight, hbelowRight⟩ := get?_retarget_obj hrights hrightEntries hget
      -- the entry of the component under this key equals both of the renamed ones
      rcases hcase with hown | hinner
      · obtain ⟨hkey, hvalue⟩ := mem_ownRef.1 hown
        obtain ⟨own, hgetOwn, hleft⟩ := hentries key _ (hownLeft ref hkey hvalue)
        obtain ⟨own', hgetOwn', hright⟩ := hentries' key _ (hownRight ref hkey hvalue)
        rw [hgetOwn, Option.some.injEq] at hgetOwn'
        subst hgetOwn'
        rw [eq_str_of_alike hleft] at hright
        exact (Json.str.inj (eq_str_of_alike hright))
      · obtain ⟨left, hgetLeft, hretargetLeft⟩ := hbelowLeft ref hinner
        obtain ⟨right, hgetRight, hretargetRight⟩ := hbelowRight ref hinner
        obtain ⟨own, hgetOwn, hleft⟩ := hentries key _ hgetLeft
        obtain ⟨own', hgetOwn', hright⟩ := hentries' key _ hgetRight
        rw [hgetOwn, Option.some.injEq] at hgetOwn'
        subst hgetOwn'
        exact ih _ hentry (hvalues _ hentry)
          ((hasDistinctKeys_obj.1 hregistered).2 _ (Table.mem_of_get? hgetOwn))
          hretargetLeft hretargetRight hleft hright ref hinner

end

/-! ## Reachable states -/

/-- The rendered schema of a model has distinct keys. -/
def RendersDistinct (model : Model) : Prop :=
  ∀ schema, rendered model = .ok schema → hasDistinctKeys schema = true

/-- Every component has distinct keys. -/
def HoldsDistinct (assembly : Assembly) : Prop :=
  ∀ entry ∈ assembly.components, hasDistinctKeys entry.2 = true

/-- A step keeps the components with distinct keys, also when it fails. -/
def KeepsDistinct {α : Type} (step : Assemble α) : Prop :=
  ∀ start, HoldsDistinct start → HoldsDistinct (final step start)

theorem keepsDistinct_get : KeepsDistinct (get : Assemble Assembly) := fun _ h => h

theorem keepsDistinct_ofOutcome {α : Type} (outcome : Except Misshape α) :
    KeepsDistinct (Assemble.ofOutcome outcome) := by
  cases outcome with
  | ok value => exact fun _ h => h
  | error misshape => exact fun _ h => h

/-- What is known of the value of the first part may be used for the second. -/
theorem keepsDistinct_bind {α β : Type} {step : Assemble α} {next : α → Assemble β}
    (hstep : KeepsDistinct step)
    (hnext : ∀ value start, (result step start).1 = .ok value → KeepsDistinct (next value)) :
    KeepsDistinct (step >>= next) := by
  intro start hstart
  rcases final_bind step next start with ⟨_, hfinal, -⟩ | ⟨value, hvalue, hfinal⟩
  · rw [hfinal]
    exact hstep start hstart
  · rw [hfinal]
    exact hnext value start hvalue _ (hstep start hstart)

theorem eq_ok_of_result_ofOutcome {α : Type} {outcome : Except Misshape α} {value : α}
    {start : Assembly} (h : (result (Assemble.ofOutcome outcome) start).1 = .ok value) :
    outcome = .ok value := by
  cases outcome with
  | ok given => exact h
  | error misshape => cases h

theorem keepsDistinct_register {name : String} {definition : Json}
    (hdefinition : hasDistinctKeys definition = true) :
    KeepsDistinct (Assemble.register name definition) := by
  intro start hstart entry hentry
  have hregister : Yields (Assemble.register name definition) start () _ := yields_register.2 rfl
  rw [hregister.final_eq] at hentry
  split at hentry
  · exact hstart entry hentry
  · rcases List.mem_append.1 hentry with hold | hnew
    · exact hstart entry hold
    · rw [List.mem_singleton.1 hnew]
      exact hdefinition

theorem keepsDistinct_registerAll (owner : String) (names : Naming) {definitions : List (String × Json)}
    (hdefinitions : ∀ entry ∈ definitions, hasDistinctKeys entry.2 = true) :
    KeepsDistinct (registerAll owner names definitions) := by
  induction definitions with
  | nil => exact fun _ h => h
  | cons entry rest ih =>
      rcases entry with ⟨name, definition⟩
      rw [List.forall_mem_cons] at hdefinitions
      have hrest : KeepsDistinct (do
          let retargeted ← Assemble.ofOutcome (retarget (renamedTargets names) definition)
          Assemble.register ((Table.get? names name).getD name) retargeted
          registerAll owner names rest) := by
        apply keepsDistinct_bind (keepsDistinct_ofOutcome _)
        intro retargeted _ hvalue
        have hretargeted := hasDistinctKeys_retarget hdefinitions.1 (eq_ok_of_result_ofOutcome hvalue)
        exact keepsDistinct_bind (keepsDistinct_register hretargeted) fun _ _ _ => ih hdefinitions.2
      rw [registerAll]
      split
      · -- reporting a new name touches the events alone
        exact keepsDistinct_bind (fun _ h => h) fun _ _ _ => hrest
      · exact hrest

/-- The parts of a schema with distinct keys have distinct keys. -/
theorem hasDistinctKeys_splitDefinitions {schema : Json} {nested fields : List (String × Json)}
    (hschema : hasDistinctKeys schema = true) (h : splitDefinitions schema = .ok (nested, fields)) :
    hasDistinctKeys (.obj nested) = true := by
  cases schema with
  | obj entries =>
      simp only [splitDefinitions] at h
      split at h
      · cases h
        rfl
      · rename_i definitions hdefinitions
        cases h
        exact (hasDistinctKeys_obj.1 hschema).2 _ (Table.mem_of_get? hdefinitions)
      · cases h
  | _ => cases h

/-- The definitions of a schema with distinct keys, with their unions resolved, have distinct keys. -/
theorem hasDistinctKeys_definitions {schema : Json} {nested fields definitions : List (String × Json)}
    (hschema : hasDistinctKeys schema = true) (hsplit : splitDefinitions schema = .ok (nested, fields))
    (hdefinitions : nullableEntries nested = .ok definitions) :
    hasDistinctKeys (.obj definitions) = true := by
  obtain ⟨hkeys, hvalues⟩ := hasDistinctKeys_obj.1 (hasDistinctKeys_splitDefinitions hschema hsplit)
  rw [hasDistinctKeys_obj, keys_nullableEntries hdefinitions]
  refine ⟨hkeys, ?_⟩
  rintro ⟨name, definition⟩ hentry
  obtain ⟨original, horiginal, hnullable⟩ := mem_of_mem_nullableEntries hdefinitions hentry
  exact hasDistinctKeys_nullable (hvalues _ horiginal) hnullable

/-- A call of `component` keeps the components with distinct keys, also when it fails. -/
theorem keepsDistinct_component {model : Model} (hmodel : RendersDistinct model) :
    KeepsDistinct (component model) := by
  rw [component]
  apply keepsDistinct_bind (keepsDistinct_ofOutcome _)
  rintro ⟨nested, fields⟩ _ hparts
  obtain ⟨schema, hschema, hsplit⟩ := bind_eq_ok.1 (eq_ok_of_result_ofOutcome hparts)
  apply keepsDistinct_bind (keepsDistinct_ofOutcome _)
  intro definitions _ hdefinitions
  have hdistinct := hasDistinctKeys_definitions (hmodel schema hschema) hsplit
    (eq_ok_of_result_ofOutcome hdefinitions)
  apply keepsDistinct_bind keepsDistinct_get
  intro assembly _ _
  apply keepsDistinct_bind (keepsDistinct_ofOutcome _)
  intro names _ _
  apply keepsDistinct_bind (keepsDistinct_registerAll _ _ (hasDistinctKeys_obj.1 hdistinct).2)
  intro _ _ _
  exact keepsDistinct_bind (keepsDistinct_ofOutcome _) fun _ _ _ => keepsDistinct_ofOutcome _

/-- **The components of every reachable state have distinct keys.** -/
theorem hasDistinctKeys_assembled {models : List Model} {start : Assembly}
    (hmodels : ∀ model ∈ models, RendersDistinct model) (hstart : HoldsDistinct start) :
    HoldsDistinct (assembled models start) := by
  induction models generalizing start with
  | nil => exact hstart
  | cons model rest ih =>
      rw [List.forall_mem_cons] at hmodels
      exact ih hmodels.2 (keepsDistinct_component hmodels.1 start hstart)

end OpenApi

end RouteAtlas
