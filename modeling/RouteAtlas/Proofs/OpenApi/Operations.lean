import RouteAtlas.Proofs.Api.Registry
import RouteAtlas.Proofs.OpenApi.Integrity

/-!
# The operations of a document

The records of a registry become the operations of a document, path by path. No endpoint is lost on the
way, none is doubled and none changes its place (`buildDocument_operations`): the document has an
operation for a path and a method exactly when a record was registered for them, the operation is that of
the record registered last, paths and methods stand in the order of their first registration, and there
are as many operations as keys. An operation may refer to components that the operations before it have
left; `RenderedIn` says in which state it is rendered.
-/

set_option autoImplicit false

namespace RouteAtlas.OpenApi

open Api Step

/-- The path items of a document object. -/
def pathsOf (document : Json) : Table String Json :=
  ((document.get? "paths").bind Json.obj?).getD []

/-- The operations of a path in a document object, under their methods. -/
def operationsOf (document : Json) (path : String) : Table String Json :=
  (((pathsOf document).get? path).bind Json.obj?).getD []

/-- The state after rendering the operations of some records one after the other. -/
def afterOperations (records : List Record) (start : Assembly) : Assembly :=
  records.foldl (fun assembly record => final (operation record) assembly) start

theorem afterOperations_append (front back : List Record) (start : Assembly) :
    afterOperations (front ++ back) start = afterOperations back (afterOperations front start) :=
  List.foldl_append

/-- A value is the operation of one of some records, rendered behind those that stand before it. -/
def RenderedIn (order : List Record) (start : Assembly) (record : Record) (value : Json) : Prop :=
  ∃ before after, order = before ++ record :: after ∧
    (result (operation record) (afterOperations before start)).1 = .ok value

theorem RenderedIn.mem {order : List Record} {start : Assembly} {record : Record} {value : Json}
    (h : RenderedIn order start record value) : record ∈ order := by
  obtain ⟨before, after, rfl, -⟩ := h
  simp

/-- What is rendered in a stretch of records is rendered in the whole of them. -/
theorem RenderedIn.within {order : List Record} {start : Assembly} {record : Record} {value : Json}
    (front back : List Record) (h : RenderedIn order (afterOperations front start) record value) :
    RenderedIn (front ++ order ++ back) start record value := by
  obtain ⟨before, after, rfl, hvalue⟩ := h
  refine ⟨front ++ before, after ++ back, by simp, ?_⟩
  rwa [afterOperations_append]

/-! ## Paths -/

/-- A path item has the operations of its records, in order. -/
theorem pathItem_cases {records : List Record} {item : Table String Json} {start stop : Assembly}
    (h : Yields (pathItem records) start item stop) :
    stop = afterOperations records start ∧ item.keys = records.map (fun record => record.key.1) ∧
      ∀ entry ∈ item, ∃ record, record.key.1 = entry.1 ∧ RenderedIn records start record entry.2 := by
  induction records generalizing item start with
  | nil =>
      cases h
      exact ⟨rfl, rfl, by simp⟩
  | cons record rest ih =>
      rw [pathItem] at h
      obtain ⟨first, middle, hfirst, hnext⟩ := yields_bind.1 h
      obtain ⟨others, last, hothers, hpure⟩ := yields_bind.1 hnext
      obtain ⟨rfl, rfl⟩ := yields_pure.1 hpure
      obtain ⟨hstop, hkeys, hentries⟩ := ih hothers
      have hmiddle : middle = afterOperations [record] start := hfirst.final_eq.symm
      refine ⟨?_, ?_, ?_⟩
      · rw [hstop, hmiddle]
        rfl
      · rw [List.map_cons, ← hkeys]
        rfl
      · intro entry hentry
        rcases List.mem_cons.1 hentry with rfl | hentry
        · refine ⟨record, rfl, [], rest, rfl, ?_⟩
          show (result (operation record) start).1 = _
          rw [hfirst]
        · obtain ⟨found, hkey, hrendered⟩ := hentries entry hentry
          rw [hmiddle] at hrendered
          refine ⟨found, hkey, ?_⟩
          simpa using hrendered.within [record] []

/-- The path items have the operations of all groups, in order. -/
theorem pathItems_cases {groups : List (String × List Record)} {paths : Table String Json}
    {start stop : Assembly} (h : Yields (pathItems groups) start paths stop) :
    paths.keys = Table.keys groups ∧ ∀ path value, (path, value) ∈ paths →
      ∃ records item, (path, records) ∈ groups ∧ value = .obj item ∧
        Table.keys item = records.map (fun record => record.key.1) ∧
        ∀ entry ∈ item, ∃ record ∈ records, record.key.1 = entry.1 ∧
          RenderedIn (groups.flatMap Prod.snd) start record entry.2 := by
  induction groups generalizing paths start with
  | nil =>
      cases h
      exact ⟨rfl, by simp⟩
  | cons group rest ih =>
      rcases group with ⟨path, records⟩
      rw [pathItems] at h
      obtain ⟨item, middle, hitem, hnext⟩ := yields_bind.1 h
      obtain ⟨others, last, hothers, hpure⟩ := yields_bind.1 hnext
      obtain ⟨rfl, rfl⟩ := yields_pure.1 hpure
      obtain ⟨hmiddle, hmethods, hentries⟩ := pathItem_cases hitem
      obtain ⟨hkeys, hothers⟩ := ih hothers
      refine ⟨?_, ?_⟩
      · show path :: Table.keys others = path :: Table.keys rest
        rw [hkeys]
      · intro found value hfound
        rcases List.mem_cons.1 hfound with hhere | hfound
        · obtain ⟨rfl, rfl⟩ := Prod.mk.inj hhere
          refine ⟨records, item, List.mem_cons_self, rfl, hmethods, ?_⟩
          intro entry hentry
          obtain ⟨record, hkey, hrendered⟩ := hentries entry hentry
          have hplace : RenderedIn records (afterOperations [] start) record entry.2 := hrendered
          refine ⟨record, hrendered.mem, hkey, ?_⟩
          simpa using hplace.within [] (rest.flatMap Prod.snd)
        · obtain ⟨members, inner, hmembers, hvalue, hinner, hrendered⟩ := hothers found value hfound
          refine ⟨members, inner, List.mem_cons_of_mem _ hmembers, hvalue, hinner, ?_⟩
          intro entry hentry
          obtain ⟨record, hrecord, hkey, hplace⟩ := hrendered entry hentry
          rw [hmiddle] at hplace
          refine ⟨record, hrecord, hkey, ?_⟩
          simpa using hplace.within records []

/-! ## The document -/

/-- The operations of a path in a document that is built are those of the records of the path. -/
theorem operationsOf_cases {document : Document} {info : Info} {object : Json} {stop : Assembly}
    (h : Yields (build document info) {} object stop) (path : String) :
    (operationsOf object path).keys =
        (document.records.filter fun record => record.path = path).map (fun record => record.key.1) ∧
      ∀ entry ∈ operationsOf object path, ∃ record ∈ document.records, record.key = (entry.1, path) ∧
        RenderedIn (document.paths.flatMap Prod.snd) {} record entry.2 := by
  obtain ⟨-, paths, hpaths, hobject, -⟩ := build_cases h
  obtain ⟨hkeys, hitems⟩ := pathItems_cases hpaths
  have hentry : operationsOf object path = ((Table.get? paths path).bind Json.obj?).getD [] := by
    rw [operationsOf, pathsOf, hobject]
    rfl
  cases hget : Table.get? paths path with
  | none =>
      -- a path without an item is the path of no record
      have hnone : document.records.filter (fun record => record.path = path) = [] := by
        rw [Table.get?_eq_none_iff, hkeys, ← Table.get?_eq_none_iff] at hget
        rw [← Document.get?_groups]
        show (Table.get? document.paths path).getD [] = []
        rw [hget, Option.getD_none]
      rw [hentry, hget, hnone]
      exact ⟨rfl, by simp⟩
  | some value =>
      obtain ⟨records, item, hgroup, rfl, hmethods, hentries⟩ :=
        hitems path value (Table.mem_of_get? hget)
      obtain rfl : records = document.records.filter fun record => record.path = path :=
        Document.group_eq hgroup
      rw [hentry, hget]
      refine ⟨hmethods, ?_⟩
      intro entry hmem
      obtain ⟨record, hrecord, hkey, hrendered⟩ := hentries entry hmem
      obtain ⟨hin, hpath⟩ := List.mem_filter.1 hrecord
      exact ⟨record, hin, Prod.ext hkey (of_decide_eq_true hpath), hrendered⟩

/-- **No endpoint is lost, doubled or moved.** Where a document is built from records registered one
after the other, it has an operation for a path and a method exactly when a record was registered for
them; that operation is the one of the last such record; paths and methods stand in the order of their
first registration; and there are as many operations as keys. -/
theorem buildDocument_operations {records : List Record} {schemes : Table String SecurityScheme}
    {info : Info} {object : Json}
    (h : (buildDocument (records.foldl Document.register { schemes := schemes }) info).1 =
      .ok object) :
    object.get? "paths" = some (.obj (pathsOf object)) ∧
      (pathsOf object).keys = (records.map Record.path).eraseDups ∧
      (∀ path, (operationsOf object path).keys =
        ((records.filter fun record => record.path = path).map fun record => record.key.1).eraseDups) ∧
      (∀ path method, (operationsOf object path).has method = true ↔
        ∃ record ∈ records, record.key = (method, path)) ∧
      (∀ path method value, (operationsOf object path).get? method = some value →
        ∃ earlier record later, records = earlier ++ record :: later ∧ record.key = (method, path) ∧
          (∀ other ∈ later, other.key ≠ (method, path)) ∧
          RenderedIn ((records.foldl Document.register { schemes := schemes }).paths.flatMap Prod.snd)
            {} record value) ∧
      ((pathsOf object).keys.map fun path => (operationsOf object path).length).sum =
        (records.map Record.key).eraseDups.length := by
  obtain ⟨stop, hbuilt⟩ : ∃ stop, Yields
      (build (records.foldl Document.register { schemes := schemes }) info) {} object stop :=
    ⟨_, Prod.ext h rfl⟩
  have hpaths := Document.keys_paths records schemes
  have hmethods : ∀ path, (operationsOf object path).keys =
      ((records.filter fun record => record.path = path).map fun record => record.key.1).eraseDups := by
    intro path
    rw [(operationsOf_cases hbuilt path).1, Document.keys_group]
  obtain ⟨-, items, hitems, hobject, -⟩ := build_cases hbuilt
  have hpathsOf : pathsOf object = items := by
    rw [pathsOf, hobject]
    rfl
  have hkeys : (pathsOf object).keys = (records.map Record.path).eraseDups := by
    rw [hpathsOf, (pathItems_cases hitems).1, hpaths]
  refine ⟨by rw [hpathsOf, hobject], hkeys, hmethods, ?_, ?_, ?_⟩
  -- which methods a path has
  · intro path method
    rw [Table.has_iff_mem_keys, hmethods, List.mem_eraseDups, List.mem_map]
    constructor
    · rintro ⟨record, hrecord, hmethod⟩
      obtain ⟨hin, hpath⟩ := List.mem_filter.1 hrecord
      exact ⟨record, hin, Prod.ext hmethod (of_decide_eq_true hpath)⟩
    · rintro ⟨record, hin, hkey⟩
      obtain ⟨hmethod, hpath⟩ := Prod.mk.inj hkey
      exact ⟨record, List.mem_filter.2 ⟨hin, decide_eq_true hpath⟩, hmethod⟩
  -- the record behind an operation is the last one registered under its key
  · intro path method value hvalue
    obtain ⟨record, hrecord, hkey, hrendered⟩ :=
      (operationsOf_cases hbuilt path).2 _ (Table.mem_of_get? hvalue)
    obtain ⟨earlier, later, hsplit, hlater⟩ := Document.last_of_endpoints hrecord
    rw [hkey] at hlater
    exact ⟨earlier, record, later, hsplit, hkey, hlater, hrendered⟩
  -- the operations of a path are as many as its records, so their number is that of all records
  · have hlength : ∀ path, (operationsOf object path).length =
        ((records.foldl Document.register { schemes := schemes }).records.filter fun record =>
          record.path = path).length := by
      intro path
      have hkeys := congrArg List.length (operationsOf_cases hbuilt path).1
      rwa [Table.keys, List.length_map, List.length_map] at hkeys
    have hsum := Document.sum_groups (records.foldl Document.register { schemes := schemes }).records
    rw [← Document.keys_groups] at hsum
    rw [hkeys, ← hpaths]
    simp only [hlength]
    rw [← Document.map_key_records records schemes, List.length_map]
    exact hsum

/-! ## A replaced endpoint -/

/-- Three endpoints on two paths, one of them registered again behind the others. -/
def replacedUsers : List Record :=
  [{ method := "GET", path := "/users", summary := "first", tag := "users" },
   { method := "get", path := "/admin", tag := "admin" },
   { method := "post", path := "/users", tag := "users" },
   { method := "Get", path := "/users", summary := "second", tag := "users" }]

/-- The endpoint that is registered again stays at its place and has its last record. -/
theorem replacedUsers_operations : ∃ object,
    (buildDocument (replacedUsers.foldl Document.register {}) {}).1 = .ok object ∧
      (pathsOf object).keys = ["/users", "/admin"] ∧
      (operationsOf object "/users").keys = ["get", "post"] ∧
      ((operationsOf object "/users").get? "get").bind (·.get? "summary") = some (.str "second") ∧
      ((pathsOf object).keys.map fun path => (operationsOf object path).length).sum = 3 := by
  obtain ⟨object, hobject⟩ : ∃ object,
      (buildDocument (replacedUsers.foldl Document.register {}) {}).1 = .ok object := ⟨_, rfl⟩
  obtain ⟨-, hpaths, hmethods, -, -, hcount⟩ := buildDocument_operations hobject
  refine ⟨object, hobject, ?_, ?_, ?_, ?_⟩
  · rw [hpaths]
    decide +kernel
  · rw [hmethods]
    decide +kernel
  · cases hobject
    rfl
  · rw [hcount]
    decide +kernel

end RouteAtlas.OpenApi
