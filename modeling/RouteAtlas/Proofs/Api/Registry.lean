import RouteAtlas.Api.Document
import RouteAtlas.Proofs.Table
import Mathlib.Algebra.BigOperators.Group.List.Lemmas
import Mathlib.Algebra.GroupWithZero.Nat
import Mathlib.Data.List.Dedup

/-!
# Registering and grouping

Records are registered one after the other under the method in lower case and the path, and are then
grouped by path. Either table keeps the order in which its keys were first entered. The registry holds
for a key the record registered last (`last_of_endpoints`), at the place of the one registered first
(`keys_register`); a group holds the records of its path as they stand in the registry (`get?_groups`),
so the keys of a path are met in the order of their first registration (`keys_group`), and the groups
together hold every record once (`sum_groups`).
-/

set_option autoImplicit false

namespace RouteAtlas.Api.Document

/-! ## The registry -/

theorem endpoints_register (records : List Record) (schemes : Table String SecurityScheme) :
    (records.foldl register { schemes := schemes }).endpoints =
      Table.ofList (records.map fun record => (record.key, record)) := by
  induction records using List.reverseRecOn with
  | nil => rfl
  | append_singleton records record ih =>
      rw [List.foldl_append, List.map_append, List.map_singleton, Table.ofList_concat, ← ih]
      rfl

/-- Keys stand in the order of their first registration. -/
theorem keys_register (records : List Record) (schemes : Table String SecurityScheme) :
    (records.foldl register { schemes := schemes }).endpoints.keys =
      (records.map Record.key).eraseDups := by
  rw [endpoints_register, Table.keys_ofList, Table.keys, List.map_map]
  rfl

/-- A record stands under its own key. -/
theorem key_of_mem_endpoints {records : List Record} {schemes : Table String SecurityScheme}
    {entry : (String × String) × Record}
    (h : entry ∈ (records.foldl register { schemes := schemes }).endpoints) :
    entry.1 = entry.2.key := by
  rw [endpoints_register] at h
  obtain ⟨record, -, rfl⟩ := List.mem_map.1 (Table.mem_of_mem_ofList h)
  rfl

theorem map_key_records (records : List Record) (schemes : Table String SecurityScheme) :
    (records.foldl register { schemes := schemes }).records.map Record.key =
      (records.map Record.key).eraseDups := by
  rw [← keys_register records schemes, Document.records, Table.values, Table.keys, List.map_map]
  apply List.map_congr_left
  intro entry hentry
  exact (key_of_mem_endpoints hentry).symm

/-- **The record that is kept is the last one of its key.** -/
theorem last_of_endpoints {records : List Record} {schemes : Table String SecurityScheme}
    {record : Record} (h : record ∈ (records.foldl register { schemes := schemes }).records) :
    ∃ earlier later, records = earlier ++ record :: later ∧
      ∀ other ∈ later, other.key ≠ record.key := by
  obtain ⟨⟨key, found⟩, hentry, rfl⟩ := List.mem_map.1 h
  obtain rfl : key = found.key := key_of_mem_endpoints hentry
  have hdistinct : (records.foldl register { schemes := schemes }).endpoints.keys.Nodup := by
    rw [keys_register]
    exact Table.nodup_eraseDups _
  have hget := Table.get?_of_mem hdistinct hentry
  rw [endpoints_register] at hget
  obtain ⟨earlier, later, hsplit, hlater⟩ := Table.get?_ofList_eq_some hget
  -- the entries are those of the records, so the split of the entries is one of the records
  obtain ⟨front, back, rfl, rfl, hback⟩ := List.map_eq_append_iff.1 hsplit
  obtain ⟨last, rest, rfl, hlast, rfl⟩ := List.map_eq_cons_iff.1 hback
  obtain ⟨-, rfl⟩ := Prod.mk.inj hlast
  refine ⟨front, rest, rfl, ?_⟩
  intro other hother hsame
  apply hlater
  rw [Table.keys, List.map_map, List.mem_map]
  exact ⟨other, hother, hsame⟩

/-! ## The groups -/

/-- Paths stand in the order in which they are first met. -/
theorem keys_groups (records : List Record) :
    (records.foldl addToGroup []).keys = (records.map Record.path).eraseDups := by
  induction records using List.reverseRecOn with
  | nil => rfl
  | append_singleton records record ih =>
      rw [List.foldl_append, List.foldl_cons, List.foldl_nil, addToGroup, Table.keys_put, ih,
        List.map_append, List.map_singleton]
      split
      · rename_i hold
        rw [List.mem_eraseDups] at hold
        rw [Table.eraseDups_concat_of_mem hold]
      · rename_i hnew
        rw [List.mem_eraseDups] at hnew
        rw [Table.eraseDups_concat_of_not_mem hnew]

/-- **A group holds the records of its path**, as they stand. -/
theorem get?_groups (records : List Record) (path : String) :
    ((records.foldl addToGroup []).get? path).getD [] =
      records.filter fun record => record.path = path := by
  induction records using List.reverseRecOn with
  | nil => rfl
  | append_singleton records record ih =>
      rw [List.foldl_append, List.foldl_cons, List.foldl_nil, addToGroup, List.filter_append, ← ih]
      by_cases hpath : record.path = path
      · subst hpath
        rw [Table.get?_put_self, List.filter_cons_of_pos (by simp)]
        rfl
      · rw [Table.get?_put_of_ne _ _ (Ne.symm hpath), List.filter_cons_of_neg (by simpa using hpath),
          List.filter_nil, List.append_nil]

theorem group_eq {records group : List Record} {path : String}
    (h : (path, group) ∈ records.foldl addToGroup []) :
    group = records.filter fun record => record.path = path := by
  have hdistinct : (records.foldl addToGroup []).keys.Nodup := by
    rw [keys_groups]
    exact Table.nodup_eraseDups _
  rw [← get?_groups, Table.get?_of_mem hdistinct h, Option.getD_some]

/-- The groups hold every record once. -/
theorem sum_groups (records : List Record) :
    (((records.map Record.path).eraseDups).map fun path =>
      (records.filter fun record => record.path = path).length).sum = records.length := by
  have hcount : ∀ path, (records.filter fun record => record.path = path).length =
      (records.map Record.path).count path := by
    intro path
    rw [List.count_eq_countP, List.countP_map, List.countP_eq_length_filter]
    rfl
  have hperm : (records.map Record.path).eraseDups.Perm (records.map Record.path).dedup :=
    (List.perm_ext_iff_of_nodup (Table.nodup_eraseDups _) (List.nodup_dedup _)).2
      fun path => by rw [List.mem_eraseDups, List.mem_dedup]
  simp only [hcount]
  rw [(hperm.map _).sum_eq, List.sum_map_count_dedup_eq_length, List.length_map]

/-! ## Both together -/

/-- Paths stand in the order of the first registration of a record of theirs. -/
theorem keys_paths (records : List Record) (schemes : Table String SecurityScheme) :
    (records.foldl register { schemes := schemes }).paths.keys =
      (records.map Record.path).eraseDups := by
  have hpaths : (records.foldl register { schemes := schemes }).records.map Record.path =
      (records.map Record.key).eraseDups.map Prod.snd := by
    rw [← map_key_records records schemes, List.map_map]
    rfl
  rw [paths, keys_groups, hpaths, Table.eraseDups_map_eraseDups, List.map_map]
  rfl

/-- The methods of a path stand in the order of their first registration. -/
theorem keys_group (records : List Record) (schemes : Table String SecurityScheme) (path : String) :
    ((records.foldl register { schemes := schemes }).records.filter fun record =>
        record.path = path).map (fun record => record.key.1) =
      ((records.filter fun record => record.path = path).map fun record => record.key.1).eraseDups := by
  have hkeys : ∀ list : List Record,
      ((list.map Record.key).filter fun key => key.2 = path) =
        ((list.filter fun record => record.path = path).map fun record => record.key.1).map
          fun method => (method, path) := by
    intro list
    rw [List.filter_map, List.map_map]
    apply List.map_congr_left
    intro record hrecord
    have hpath : record.path = path := of_decide_eq_true (List.mem_filter.1 hrecord).2
    rw [← hpath]
    rfl
  have hinjective : Function.Injective fun method : String => (method, path) :=
    fun method other hsame => (Prod.mk.inj hsame).1
  -- under one path a key is told by its method, so both sides are compared as keys
  apply hinjective.list_map
  have hdistinct := (Table.nodup_eraseDups ((records.filter fun record => record.path = path).map
    fun record => record.key.1)).map hinjective
  rw [← Table.eraseDups_of_nodup hdistinct, Table.eraseDups_map_eraseDups, ← hkeys, ← hkeys,
    map_key_records, Table.eraseDups_filter]

end RouteAtlas.Api.Document
