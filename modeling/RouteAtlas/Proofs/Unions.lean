import RouteAtlas.Proofs.Table
import RouteAtlas.Schema.Model

/-!
# Ordered unions

When items with keys are gathered one after the other and an item replaces the one with its key in place,
what is left are the last items of their keys, in the order in which the keys came first (`LastOfEach`).
Entering fields in a schema and entering values in a table are both such unions, and a union of what is
left of two lists is what is left of the two lists together (`LastOfEach.union`).
-/

set_option autoImplicit false

namespace RouteAtlas

universe u v

variable {α : Type u} {κ : Type v} [DecidableEq κ] {key : α → κ}

/-- Of all items, those that are kept: one for each key, in the order in which the keys come first, and
each the last item of its key. -/
structure LastOfEach (key : α → κ) (all kept : List α) : Prop where
  keys : kept.map key = (all.map key).eraseDups
  last : ∀ item ∈ kept, ∃ earlier later, all = earlier ++ item :: later ∧ key item ∉ later.map key

/-- Enters an item in place of the one with its key, or at the end. -/
def putLast (key : α → κ) (items : List α) (item : α) : List α :=
  match items with
  | [] => [item]
  | first :: rest => if key first = key item then item :: rest else first :: putLast key rest item

theorem keys_putLast (items : List α) (item : α) :
    (putLast key items item).map key =
      if key item ∈ items.map key then items.map key else items.map key ++ [key item] := by
  induction items with
  | nil => simp [putLast]
  | cons first rest ih =>
      rw [putLast]
      by_cases hsame : key first = key item
      · rw [if_pos hsame, if_pos (by simp [hsame]), List.map_cons, List.map_cons, hsame]
      · rw [if_neg hsame, List.map_cons, ih, List.map_cons]
        by_cases hrest : key item ∈ rest.map key
        · rw [if_pos hrest, if_pos (List.mem_cons_of_mem _ hrest)]
        · have hnew : key item ∉ key first :: rest.map key := by
            rw [List.mem_cons, not_or]
            exact ⟨Ne.symm hsame, hrest⟩
          rw [if_neg hrest, if_neg hnew, List.cons_append]

/-- What is left beside the item that is entered has another key. -/
theorem mem_putLast {items : List α} (hdistinct : (items.map key).Nodup) {item other : α}
    (h : other ∈ putLast key items item) : other = item ∨ (other ∈ items ∧ key other ≠ key item) := by
  induction items with
  | nil =>
      rw [putLast, List.mem_singleton] at h
      exact .inl h
  | cons first rest ih =>
      rw [List.map_cons, List.nodup_cons] at hdistinct
      rw [putLast] at h
      by_cases hsame : key first = key item
      · rw [if_pos hsame] at h
        rcases List.mem_cons.1 h with rfl | hrest
        · exact .inl rfl
        · refine .inr ⟨List.mem_cons_of_mem _ hrest, fun heq => hdistinct.1 ?_⟩
          rw [hsame, ← heq]
          exact List.mem_map_of_mem hrest
      · rw [if_neg hsame] at h
        rcases List.mem_cons.1 h with rfl | hrest
        · exact .inr ⟨List.mem_cons_self, hsame⟩
        · exact (ih hdistinct.2 hrest).imp_right fun ⟨hmem, hne⟩ => ⟨List.mem_cons_of_mem _ hmem, hne⟩

namespace LastOfEach

variable {all given kept fields : List α}

theorem nil (key : α → κ) : LastOfEach key [] [] := ⟨rfl, nofun⟩

/-- Where all keys are distinct, everything is kept. -/
theorem of_nodup (h : (all.map key).Nodup) : LastOfEach key all all := by
  refine ⟨(Table.eraseDups_of_nodup h).symm, fun item hitem => ?_⟩
  obtain ⟨earlier, later, rfl⟩ := List.append_of_mem hitem
  refine ⟨earlier, later, rfl, fun hlater => ?_⟩
  rw [List.map_append, List.map_cons, List.nodup_append] at h
  exact (List.nodup_cons.1 h.2.1).1 hlater

theorem nodup_keys (h : LastOfEach key all kept) : (kept.map key).Nodup := by
  rw [h.keys]
  exact Table.nodup_eraseDups _

theorem mem_keys_iff (h : LastOfEach key all kept) {k : κ} : k ∈ kept.map key ↔ k ∈ all.map key := by
  rw [h.keys, List.mem_eraseDups]

/-- **One more item is entered in what is kept.** -/
theorem concat (h : LastOfEach key all kept) (item : α) :
    LastOfEach key (all ++ [item]) (putLast key kept item) := by
  refine ⟨?_, fun other hother => ?_⟩
  · rw [keys_putLast, List.map_append, List.map_singleton, h.keys]
    split
    · rename_i hold
      rw [Table.eraseDups_concat_of_mem (List.mem_eraseDups.1 hold)]
    · rename_i hnew
      rw [Table.eraseDups_concat_of_not_mem fun hmem => hnew (List.mem_eraseDups.2 hmem)]
  · rcases mem_putLast h.nodup_keys hother with rfl | ⟨hkept, hne⟩
    · exact ⟨all, [], rfl, List.not_mem_nil⟩
    · obtain ⟨earlier, later, rfl, hlater⟩ := h.last other hkept
      refine ⟨earlier, later ++ [item], by simp, ?_⟩
      rw [List.map_append, List.mem_append, List.map_singleton, List.mem_singleton]
      exact fun hmem => hmem.elim hlater hne

theorem foldl (h : LastOfEach key all kept) (items : List α) :
    LastOfEach key (all ++ items) (items.foldl (putLast key) kept) := by
  induction items generalizing all kept with
  | nil => simpa using h
  | cons item items ih => simpa using ih (h.concat item)

/-- The keys that come first are the same when one of two lists is replaced by what is left of it. -/
theorem eraseDups_append (h : LastOfEach key given fields) (before : List κ) :
    (before ++ fields.map key).eraseDups = (before ++ given.map key).eraseDups := by
  rw [List.eraseDups_append, List.eraseDups_append, h.keys, List.removeAll, List.removeAll,
    Table.eraseDups_filter, Table.eraseDups_filter,
    Table.eraseDups_of_nodup (Table.nodup_eraseDups (given.map key))]

/-- **The union of what is left of two lists is what is left of the two together.** -/
theorem union (h : LastOfEach key all kept) (hgiven : LastOfEach key given fields) :
    LastOfEach key (all ++ given) (fields.foldl (putLast key) kept) := by
  have hfold := h.foldl fields
  refine ⟨?_, fun item hitem => ?_⟩
  · rw [hfold.keys, List.map_append, List.map_append, hgiven.eraseDups_append]
  · obtain ⟨earlier, later, hsplit, hlater⟩ := hfold.last item hitem
    have of_fields : item ∈ fields → ∃ earlier later,
        all ++ given = earlier ++ item :: later ∧ key item ∉ later.map key := by
      intro hfields
      obtain ⟨before, behind, rfl, hbehind⟩ := hgiven.last item hfields
      exact ⟨all ++ before, behind, by simp, hbehind⟩
    rcases List.append_eq_append_iff.1 hsplit with ⟨middle, -, rfl⟩ | ⟨middle, rfl, hmiddle⟩
    · exact of_fields (by simp)
    · cases middle with
      | nil =>
          rw [List.nil_append] at hmiddle
          exact of_fields (hmiddle ▸ List.mem_cons_self)
      | cons first middle =>
          rw [List.cons_append] at hmiddle
          obtain ⟨rfl, rfl⟩ := List.cons.inj hmiddle
          -- the item comes from the first list, and its key comes in neither list behind it
          rw [List.map_append, List.mem_append, not_or, hgiven.mem_keys_iff] at hlater
          refine ⟨earlier, middle ++ given, by simp, ?_⟩
          rw [List.map_append, List.mem_append, not_or]
          exact hlater

/-- What is given again changes nothing. -/
theorem again (h : LastOfEach key all kept) (hgiven : LastOfEach key given kept) :
    LastOfEach key (all ++ given) kept := by
  refine ⟨?_, fun item hitem => ?_⟩
  · have hnone : (kept.map key).removeAll (all.map key) = [] := by
      rw [List.removeAll, List.filter_eq_nil_iff]
      intro k hk
      simpa using h.mem_keys_iff.1 hk
    rw [List.map_append, ← hgiven.eraseDups_append, List.eraseDups_append, hnone, ← h.keys]
    simp
  · obtain ⟨earlier, later, rfl, hlater⟩ := hgiven.last item hitem
    exact ⟨all ++ earlier, later, by simp, hlater⟩

omit [DecidableEq κ] in
/-- The last items of one key are the same. -/
theorem eq_of_last {earlier later before behind : List α} {item other : α}
    (h : earlier ++ item :: later = before ++ other :: behind) (hkey : key item = key other)
    (hitem : key item ∉ later.map key) (hother : key other ∉ behind.map key) : item = other := by
  rcases List.append_eq_append_iff.1 h with ⟨middle, -, hmiddle⟩ | ⟨middle, -, hmiddle⟩
  · cases middle with
    | nil => exact (List.cons.inj hmiddle).1
    | cons first rest =>
        obtain ⟨rfl, rfl⟩ := List.cons.inj hmiddle
        exact absurd (by simp [hkey]) hitem
  · cases middle with
    | nil => exact (List.cons.inj hmiddle).1.symm
    | cons first rest =>
        obtain ⟨rfl, rfl⟩ := List.cons.inj hmiddle
        exact absurd (by simp [hkey]) hother

/-- **The last item of its key is kept.** -/
theorem mem_iff (h : LastOfEach key all kept) {item : α} :
    item ∈ kept ↔ ∃ earlier later, all = earlier ++ item :: later ∧ key item ∉ later.map key := by
  refine ⟨h.last item, ?_⟩
  rintro ⟨earlier, later, rfl, hlater⟩
  have hkept : key item ∈ kept.map key := h.mem_keys_iff.2 (by simp)
  obtain ⟨other, hother, hkey⟩ := List.mem_map.1 hkept
  obtain ⟨before, behind, hsplit, hbehind⟩ := h.last other hother
  rwa [eq_of_last hsplit hkey.symm hlater hbehind]

/-- What is kept is determined by what is gathered. -/
theorem unique {other : List α} (h : LastOfEach key all kept) (h' : LastOfEach key all other) :
    kept = other := by
  have hkeys : kept.map key = other.map key := h.keys.trans h'.keys.symm
  have hlength : kept.length = other.length := by
    simpa using congrArg List.length hkeys
  refine List.ext_getElem hlength fun place hplace hplace' => ?_
  -- the items at one place have one key, and no two items left have
  refine List.inj_on_of_nodup_map h'.nodup_keys ?_ (List.getElem_mem hplace') ?_
  · exact h'.mem_iff.2 (h.mem_iff.1 (List.getElem_mem hplace))
  · have hsame := congrArg (fun keys => keys[place]?) hkeys
    simpa [hplace, hplace'] using hsame

end LastOfEach

/-! ## Fields and tables -/

namespace Schema

theorem putField_eq (fields : List Field) (field : Field) :
    putField fields field = putLast Field.member fields field := by
  induction fields with
  | nil => rfl
  | cons first rest ih => rw [putField, putLast, ih]

theorem putFields_eq (fields added : List Field) :
    putFields fields added = added.foldl (putLast Field.member) fields := by
  have hputs : putField = putLast Field.member := by
    funext fields field
    exact putField_eq fields field
  rw [putFields, hputs]

/-- The fields of a schema made from a list. -/
theorem lastOfEach_putFields_nil (fields : List Field) :
    LastOfEach Field.member fields (putFields [] fields) := by
  rw [putFields_eq]
  simpa using (LastOfEach.nil Field.member).foldl fields

/-- Entering the fields of a schema in those of another one is a union. -/
theorem lastOfEach_putFields {all given kept fields : List Field}
    (h : LastOfEach Field.member all kept) (hgiven : LastOfEach Field.member given fields) :
    LastOfEach Field.member (all ++ given) (putFields kept fields) := by
  rw [putFields_eq]
  exact h.union hgiven

end Schema

namespace Table

variable {β : Type v} {δ : Type u} [DecidableEq δ]

theorem put_eq (table : Table δ β) (key : δ) (value : β) :
    table.put key value = putLast Prod.fst table (key, value) := by
  induction table with
  | nil => rfl
  | cons entry rest ih =>
      rcases entry with ⟨k, v⟩
      rw [put, putLast, ih]
      by_cases hk : k = key
      · rw [if_pos hk, if_pos hk, hk]
      · rw [if_neg hk, if_neg hk]

/-- A table made from a list holds the last value of every key, at the place of its first entry. -/
theorem lastOfEach_ofList (entries : List (δ × β)) : LastOfEach Prod.fst entries (ofList entries) := by
  have hputs : (fun (table : Table δ β) (entry : δ × β) => table.put entry.1 entry.2) =
      putLast Prod.fst := by
    funext table entry
    exact put_eq table entry.1 entry.2
  rw [ofList, putAll, hputs]
  simpa using (LastOfEach.nil Prod.fst).foldl entries

end Table

end RouteAtlas
