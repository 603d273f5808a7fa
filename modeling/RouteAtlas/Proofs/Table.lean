import RouteAtlas.Table
import Mathlib.Data.List.Basic
import Mathlib.Data.List.Induction
import Mathlib.Data.List.Nodup

/-!
# What tables hold

Looking up, entering and appending, seen through the entries of a table. An entry found under a key is
an entry of the list; a table grown at its end still answers as before; entering brings in no entry but
the one that is entered. A table made from a list of entries has its keys in the order of their first
entries, each with the value of its last one.
-/

set_option autoImplicit false

namespace RouteAtlas.Table

universe u v w

variable {α : Type u} {β : Type v} {γ : Type w} [DecidableEq α]

theorem mem_of_get? {table : Table α β} {key : α} {value : β} (h : table.get? key = some value) :
    (key, value) ∈ table := by
  induction table with
  | nil => simp [get?] at h
  | cons entry rest ih =>
      rcases entry with ⟨k, v⟩
      simp only [get?] at h
      split at h
      · rename_i hk
        cases h
        subst hk
        exact List.mem_cons_self
      · exact List.mem_cons_of_mem _ (ih h)

theorem has_iff_mem_keys {table : Table α β} {key : α} :
    table.has key = true ↔ key ∈ table.keys := by
  induction table with
  | nil => simp [has, get?, keys]
  | cons entry rest ih =>
      rcases entry with ⟨k, v⟩
      simp only [has, get?, keys, List.map_cons, List.mem_cons] at ih ⊢
      split
      · rename_i hk
        simp [hk]
      · rename_i hk
        rw [ih]
        constructor
        · exact .inr
        · rintro (rfl | hmem)
          · exact absurd rfl hk
          · exact hmem

theorem get?_eq_none_iff {table : Table α β} {key : α} :
    table.get? key = none ↔ key ∉ table.keys := by
  rw [← has_iff_mem_keys, has, ← Option.isNone_iff_eq_none]
  simp

theorem get?_append (front back : Table α β) (key : α) :
    get? (front ++ back) key = (front.get? key).or (back.get? key) := by
  induction front with
  | nil => simp [get?]
  | cons entry rest ih =>
      rcases entry with ⟨k, v⟩
      simp only [List.cons_append, get?]
      split
      · rfl
      · exact ih

/-- A table that has grown at its end answers as before. -/
theorem get?_of_grown {front whole : Table α β} {key : α} {value : β} (hgrown : front <+: whole)
    (h : front.get? key = some value) : whole.get? key = some value := by
  obtain ⟨back, rfl⟩ := hgrown
  rw [get?_append, h, Option.some_or]

theorem has_of_grown {front whole : Table α β} {key : α} (hgrown : front <+: whole)
    (h : front.has key = true) : whole.has key = true := by
  obtain ⟨value, hvalue⟩ := Option.isSome_iff_exists.1 h
  rw [has, get?_of_grown hgrown hvalue, Option.isSome_some]

/-- Where the keys are distinct, every entry is the one found under its key. -/
theorem get?_of_mem {table : Table α β} {key : α} {value : β} (hdistinct : table.keys.Nodup)
    (h : (key, value) ∈ table) : table.get? key = some value := by
  induction table with
  | nil => simp at h
  | cons entry rest ih =>
      rcases entry with ⟨k, v⟩
      simp only [keys, List.map_cons, List.nodup_cons] at hdistinct
      rcases List.mem_cons.1 h with heq | hmem
      · cases heq
        simp [get?]
      · have hne : k ≠ key := by
          rintro rfl
          exact hdistinct.1 (List.mem_map_of_mem hmem)
        rw [get?, if_neg hne]
        exact ih hdistinct.2 hmem

theorem get?_put_eq_some {table : Table α β} {key other : α} {value found : β}
    (h : (table.put key value).get? other = some found) :
    (other = key ∧ found = value) ∨ table.get? other = some found := by
  by_cases hsame : other = key
  · subst hsame
    rw [get?_put_self] at h
    exact .inl ⟨rfl, (Option.some.inj h).symm⟩
  · rw [get?_put_of_ne _ _ hsame] at h
    exact .inr h

theorem mem_put {table : Table α β} {key : α} {value : β} {entry : α × β}
    (h : entry ∈ table.put key value) : entry ∈ table ∨ entry = (key, value) := by
  induction table with
  | nil =>
      rw [put, List.mem_singleton] at h
      exact .inr h
  | cons first rest ih =>
      rcases first with ⟨k, v⟩
      simp only [put] at h
      split at h
      · rename_i hk
        rcases List.mem_cons.1 h with rfl | hmem
        · exact .inr (by rw [hk])
        · exact .inl (List.mem_cons_of_mem _ hmem)
      · rcases List.mem_cons.1 h with rfl | hmem
        · exact .inl List.mem_cons_self
        · exact (ih hmem).imp_left (List.mem_cons_of_mem _)

theorem mem_putAll {table : Table α β} {entries : List (α × β)} {entry : α × β}
    (h : entry ∈ table.putAll entries) : entry ∈ table ∨ entry ∈ entries := by
  induction entries generalizing table with
  | nil => exact .inl h
  | cons first rest ih =>
      rcases ih h with hput | hrest
      · rcases mem_put hput with htable | rfl
        · exact .inl htable
        · exact .inr List.mem_cons_self
      · exact .inr (List.mem_cons_of_mem _ hrest)

theorem mem_of_mem_drop {table : Table α β} {key : α} {entry : α × β} (h : entry ∈ table.drop key) :
    entry ∈ table :=
  List.mem_of_mem_filter h

theorem mem_of_mem_ofList {entries : List (α × β)} {entry : α × β} (h : entry ∈ ofList entries) :
    entry ∈ entries :=
  (mem_putAll h).resolve_left List.not_mem_nil

/-! ## Changed values -/

theorem get?_map (change : β → γ) (table : Table α β) (key : α) :
    get? (table.map (Prod.map id change)) key = (table.get? key).map change := by
  induction table with
  | nil => rfl
  | cons entry rest ih =>
      rcases entry with ⟨k, v⟩
      rw [List.map_cons, Prod.map_apply, id, get?, get?]
      by_cases hk : k = key
      · rw [if_pos hk, if_pos hk, Option.map_some]
      · rw [if_neg hk, if_neg hk, ih]

theorem put_map (change : β → γ) (table : Table α β) (key : α) (value : β) :
    put (table.map (Prod.map id change)) key (change value) =
      (table.put key value).map (Prod.map id change) := by
  induction table with
  | nil => rfl
  | cons entry rest ih =>
      rcases entry with ⟨k, v⟩
      rw [List.map_cons, Prod.map_apply, id, put, put]
      by_cases hk : k = key
      · rw [if_pos hk, if_pos hk, List.map_cons, Prod.map_apply, id]
      · rw [if_neg hk, if_neg hk, ih, List.map_cons, Prod.map_apply, id]

/-! ## Distinct keys -/

theorem put_of_not_mem_keys {table : Table α β} {key : α} (value : β) (h : key ∉ table.keys) :
    table.put key value = table ++ [(key, value)] := by
  induction table with
  | nil => rfl
  | cons entry rest ih =>
      rcases entry with ⟨k, v⟩
      simp only [keys, List.map_cons, List.mem_cons, not_or] at h
      rw [put, if_neg (Ne.symm h.1), ih h.2, List.cons_append]

/-- Entering a value under a key that is present changes the one entry of this key. -/
theorem put_eq_map {table : Table α β} {key : α} (value : β) (hdistinct : table.keys.Nodup)
    (h : key ∈ table.keys) :
    table.put key value = table.map fun entry => (entry.1, if entry.1 = key then value else entry.2) := by
  induction table with
  | nil => cases h
  | cons entry rest ih =>
      rcases entry with ⟨k, v⟩
      simp only [keys, List.map_cons, List.nodup_cons, List.mem_cons] at hdistinct h
      rw [put, List.map_cons]
      by_cases hk : k = key
      · have hrest : rest.map (fun entry => (entry.1, if entry.1 = key then value else entry.2)) = rest := by
          refine (List.map_congr_left fun entry hentry => ?_).trans (List.map_id rest)
          rw [if_neg, id]
          rintro rfl
          exact hdistinct.1 (hk ▸ List.mem_map_of_mem hentry)
        rw [if_pos hk, if_pos hk, hrest]
      · rw [if_neg hk, if_neg hk, ih hdistinct.2 (h.resolve_left (Ne.symm hk))]

theorem putAll_of_distinct {table : Table α β} {entries : List (α × β)}
    (h : (table ++ entries).keys.Nodup) : table.putAll entries = table ++ entries := by
  induction entries generalizing table with
  | nil => simp [putAll]
  | cons entry rest ih =>
      have hnew : entry.1 ∉ table.keys := by
        simp only [keys, List.map_append, List.map_cons, List.nodup_append, List.mem_cons] at h
        intro hmem
        exact h.2.2 _ hmem _ (.inl rfl) rfl
      have hput : table.put entry.1 entry.2 = table ++ [entry] := put_of_not_mem_keys _ hnew
      show (table.put entry.1 entry.2).putAll rest = _
      rw [hput, ih (by simpa using h), List.append_assoc, List.singleton_append]

/-- Entries with distinct keys are a table as they stand. -/
theorem ofList_of_distinct {entries : List (α × β)} (h : keys entries |>.Nodup) :
    ofList entries = entries := by
  rw [ofList, putAll_of_distinct (by simpa using h), List.nil_append]

/-! ## First and last entries -/

section

variable {δ : Type u} {ε : Type v} [BEq δ] [LawfulBEq δ] [BEq ε] [LawfulBEq ε]

theorem eraseDups_concat_of_mem {list : List δ} {item : δ} (h : item ∈ list) :
    (list ++ [item]).eraseDups = list.eraseDups := by
  rw [List.eraseDups_append]
  simp [List.removeAll, h]

theorem eraseDups_concat_of_not_mem {list : List δ} {item : δ} (h : item ∉ list) :
    (list ++ [item]).eraseDups = list.eraseDups ++ [item] := by
  rw [List.eraseDups_append]
  simp [List.removeAll, h, List.eraseDups_cons]

theorem nodup_eraseDups (list : List δ) : list.eraseDups.Nodup := by
  induction list using List.reverseRecOn with
  | nil => exact List.nodup_nil
  | append_singleton list item ih =>
      by_cases hold : item ∈ list
      · rwa [eraseDups_concat_of_mem hold]
      · rw [eraseDups_concat_of_not_mem hold, ← List.concat_eq_append]
        exact ih.concat (by rwa [List.mem_eraseDups])

theorem eraseDups_sublist (list : List δ) : list.eraseDups.Sublist list := by
  induction list using List.reverseRecOn with
  | nil => exact List.Sublist.refl _
  | append_singleton list item ih =>
      by_cases hold : item ∈ list
      · rw [eraseDups_concat_of_mem hold]
        exact ih.trans (List.sublist_append_left _ _)
      · rw [eraseDups_concat_of_not_mem hold]
        exact ih.append (List.Sublist.refl _)

theorem eraseDups_filter (keep : δ → Bool) (list : List δ) :
    (list.filter keep).eraseDups = list.eraseDups.filter keep := by
  induction list using List.reverseRecOn with
  | nil => rfl
  | append_singleton list item ih =>
      rw [List.filter_append]
      by_cases hkeep : keep item = true
      · rw [List.filter_cons_of_pos hkeep, List.filter_nil]
        by_cases hold : item ∈ list
        · rw [eraseDups_concat_of_mem (List.mem_filter.2 ⟨hold, hkeep⟩), eraseDups_concat_of_mem hold, ih]
        · have hnew : item ∉ list.filter keep := fun hmem => hold (List.mem_filter.1 hmem).1
          rw [eraseDups_concat_of_not_mem hnew, eraseDups_concat_of_not_mem hold, ih,
            List.filter_append, List.filter_cons_of_pos hkeep, List.filter_nil]
      · rw [List.filter_cons_of_neg hkeep, List.filter_nil, List.append_nil, ih]
        by_cases hold : item ∈ list
        · rw [eraseDups_concat_of_mem hold]
        · rw [eraseDups_concat_of_not_mem hold, List.filter_append, List.filter_cons_of_neg hkeep,
            List.filter_nil, List.append_nil]

/-- What is met first is met first also without the repetitions. -/
theorem eraseDups_map_eraseDups (change : δ → ε) (list : List δ) :
    (list.eraseDups.map change).eraseDups = (list.map change).eraseDups := by
  induction list using List.reverseRecOn with
  | nil => rfl
  | append_singleton list item ih =>
      rw [List.map_append, List.map_singleton]
      by_cases hold : item ∈ list
      · rw [eraseDups_concat_of_mem hold, eraseDups_concat_of_mem (List.mem_map_of_mem hold), ih]
      · rw [eraseDups_concat_of_not_mem hold, List.map_append, List.map_singleton]
        by_cases hmet : change item ∈ list.map change
        · rw [eraseDups_concat_of_mem hmet, eraseDups_concat_of_mem (by simpa using hmet), ih]
        · rw [eraseDups_concat_of_not_mem hmet, eraseDups_concat_of_not_mem (by simpa using hmet), ih]

theorem eraseDups_of_nodup {list : List δ} (h : list.Nodup) : list.eraseDups = list := by
  induction list using List.reverseRecOn with
  | nil => rfl
  | append_singleton list item ih =>
      rw [List.nodup_append] at h
      rw [eraseDups_concat_of_not_mem fun hmem => h.2.2 item hmem item (by simp) rfl, ih h.1]

end

theorem ofList_concat (entries : List (α × β)) (entry : α × β) :
    ofList (entries ++ [entry]) = (ofList entries).put entry.1 entry.2 := by
  rw [ofList, ofList, putAll, putAll, List.foldl_append]
  rfl

/-- The keys of a table stand in the order in which they were first entered. -/
theorem keys_ofList [BEq α] [LawfulBEq α] (entries : List (α × β)) :
    (ofList entries).keys = (keys entries).eraseDups := by
  induction entries using List.reverseRecOn with
  | nil => rfl
  | append_singleton entries entry ih =>
      have hkeys : keys (entries ++ [entry]) = keys entries ++ [entry.1] := by simp [keys]
      rw [ofList_concat, keys_put, ih, hkeys]
      split
      · rename_i hold
        rw [List.mem_eraseDups] at hold
        rw [eraseDups_concat_of_mem hold]
      · rename_i hnew
        rw [List.mem_eraseDups] at hnew
        rw [eraseDups_concat_of_not_mem hnew]

/-- Under a key stands what was entered last. -/
theorem get?_ofList_eq_some {entries : List (α × β)} {key : α} {value : β}
    (h : (ofList entries).get? key = some value) :
    ∃ earlier later, entries = earlier ++ (key, value) :: later ∧ key ∉ keys later := by
  induction entries using List.reverseRecOn with
  | nil => cases h
  | append_singleton entries entry ih =>
      rw [ofList_concat] at h
      by_cases hkey : key = entry.1
      · subst hkey
        rw [get?_put_self, Option.some.injEq] at h
        subst h
        exact ⟨entries, [], rfl, List.not_mem_nil⟩
      · rw [get?_put_of_ne _ _ hkey] at h
        obtain ⟨earlier, later, rfl, hlater⟩ := ih h
        refine ⟨earlier, later ++ [entry], by simp, ?_⟩
        simpa [keys, hkey] using hlater

end RouteAtlas.Table
