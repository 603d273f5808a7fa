import RouteAtlas.Proofs.OpenApi.Properties

/-!
# What the check of a document reports

The check reads the path parameters of an operation back from the document and compares their names with
the names in braces of its path. For a document built from records it finds exactly the property names of
the schemas in the path slots (`operationFinding_of_operation`), so its findings are told by the records
alone: one for each record whose two sets of names differ, with the names that each side lacks in
ascending order (`checkPaths_buildDocument`).
-/

set_option autoImplicit false

namespace RouteAtlas.OpenApi

open Schema Api Route Step

/-! ## Missing names -/

/-- A list holds the names with a property, each once and in ascending order. -/
structure Ascending (names : List String) (property : String → Prop) : Prop where
  sorted : names.Pairwise (· < ·)
  mem : ∀ name, name ∈ names ↔ property name

theorem Ascending.eq_nil_iff {names : List String} {property : String → Prop}
    (h : Ascending names property) : names = [] ↔ ∀ name, ¬ property name := by
  rw [List.eq_nil_iff_forall_not_mem]
  exact forall_congr' fun name => not_congr (h.mem name)

/-- There is only one such list. -/
theorem Ascending.unique {names others : List String} {property : String → Prop}
    (h : Ascending names property) (h' : Ascending others property) : names = others := by
  have hdistinct : ∀ {list : List String}, list.Pairwise (· < ·) → list.Nodup := by
    intro list hsorted
    apply hsorted.imp
    rintro first _ hlt rfl
    exact String.lt_irrefl first hlt
  have hperm : names.Perm others := by
    rw [List.perm_ext_iff_of_nodup (hdistinct h.sorted) (hdistinct h'.sorted)]
    intro name
    rw [h.mem, h'.mem]
  exact hperm.eq_of_pairwise (fun _ _ _ _ hlt hgt => absurd hgt (Std.not_gt_of_lt hlt)) h.sorted h'.sorted

theorem ascending_sortedNames (names : List String) :
    Ascending (sortedNames names) fun name => name ∈ names := by
  constructor
  · have hsorted : (names.mergeSort fun a b => a ≤ b).Pairwise fun a b => decide (a ≤ b) = true := by
      apply List.pairwise_mergeSort
      · intro a b c hab hbc
        exact decide_eq_true (String.le_trans (of_decide_eq_true hab) (of_decide_eq_true hbc))
      · intro a b
        rw [Bool.or_eq_true, decide_eq_true_eq, decide_eq_true_eq]
        exact String.le_total a b
    have hdistinct := Table.nodup_eraseDups (names.mergeSort fun a b => a ≤ b)
    -- what is in order and without repetition is in strict order
    have hboth := (hsorted.sublist (Table.eraseDups_sublist _)).and hdistinct
    exact hboth.imp fun h => Std.lt_of_le_of_ne (of_decide_eq_true h.1) h.2
  · intro name
    rw [sortedNames, List.mem_eraseDups, List.mem_mergeSort]

theorem ascending_missingNames (names others : List String) :
    Ascending (missingNames names others) fun name => name ∈ names ∧ name ∉ others := by
  have hsorted := ascending_sortedNames (names.filter fun name => !others.contains name)
  refine ⟨hsorted.sorted, fun name => ?_⟩
  rw [missingNames, hsorted.mem, List.mem_filter]
  simp

/-- The wording about names of a template that are not declared and declared names that are not in the
template. Where there are neither, nothing is reported. -/
def report : List String → List String → Option String
  | [], [] => none
  | undeclared, [] => some ("undeclared path parameters: " ++ ", ".intercalate undeclared)
  | [], unknown => some ("path parameters not in template: " ++ ", ".intercalate unknown)
  | undeclared, unknown => some ("undeclared path parameters: " ++ ", ".intercalate undeclared
      ++ "; path parameters not in template: " ++ ", ".intercalate unknown)

theorem report_eq_none_iff {undeclared unknown : List String} :
    report undeclared unknown = none ↔ undeclared = [] ∧ unknown = [] := by
  cases undeclared <;> cases unknown <;> simp [report]

/-- The clauses of a finding, joined. -/
theorem report_eq (undeclared unknown : List String) :
    (match findingClause "undeclared path parameters: " undeclared
        ++ findingClause "path parameters not in template: " unknown with
      | [] => (pure none : Except Misshape (Option String))
      | clauses => pure (some ("; ".intercalate clauses))) = .ok (report undeclared unknown) := by
  cases undeclared with
  | nil =>
      cases unknown with
      | nil => rfl
      | cons name others => rfl
  | cons name others =>
      cases unknown with
      | nil => rfl
      | cons other rest =>
          have hjoin : ∀ first second : String, "; ".intercalate [first, second] =
              first ++ "; " ++ second := fun _ _ => rfl
          simp only [findingClause, List.isEmpty_cons, Bool.false_eq_true, if_false,
            List.singleton_append, hjoin, report]
          have hlead : "; " ++ "path parameters not in template: " =
              "; path parameters not in template: " := rfl
          rw [← hlead]
          simp only [String.append_assoc]
          rfl

/-! ## One operation -/

/-- The names in braces of a path. -/
def templateNames (path : String) : List String := (placeholders path.toList).map String.ofList

/-- What is reported about a record: the names of its path and of the schema in its path slot. -/
def finding (record : Record) : Option String :=
  report (missingNames (templateNames record.path) (slotNames record.request .path))
    (missingNames (slotNames record.request .path) (templateNames record.path))

/-- The path parameters read back are those at the place of the path. -/
theorem declaredNames_of_forall₂ {places : List (String × String)} {parameters : List Json}
    (h : List.Forall₂ IsParameter places parameters) :
    declaredNames parameters =
      .ok ((places.filter fun spot => spot.2 = Slot.path.name).map fun spot => .str spot.1) := by
  induction h with
  | nil => rfl
  | @cons spot parameter places parameters hfirst _ ih =>
      obtain ⟨fields, rfl⟩ : ∃ fields, parameter = .obj fields := by
        cases parameter with
        | obj fields => exact ⟨fields, rfl⟩
        | _ => cases hfirst.name
      have hname : Table.get? fields "name" = some (.str spot.1) := hfirst.name
      have hplace : Table.get? fields "in" = some (.str spot.2) := hfirst.place
      by_cases hpath : spot.2 = Slot.path.name
      · have hread : pathParameter? (.obj fields) = .ok (some (.str spot.1)) := by
          rw [hpath] at hplace
          simp only [pathParameter?, hplace, hname, Slot.name]
        rw [declaredNames, hread, ih, List.filter_cons_of_pos (by simpa using hpath)]
        rfl
      · have hread : pathParameter? (.obj fields) = .ok none := by
          simp only [pathParameter?, hplace]
          split
          · rename_i heq
            exact absurd (Json.str.inj (Option.some.inj heq)) hpath
          · rfl
        rw [declaredNames, hread, ih, List.filter_cons_of_neg (by simpa using hpath)]
        rfl

/-- Of the parameters of a request those in the path are told by the path slot. -/
theorem pathNames_spots (request : Request) :
    ((spots request parameterOrder).filter fun spot => spot.2 = Slot.path.name).map
        (fun spot => Json.str spot.1) = (slotNames request .path).map Json.str := by
  simp [spots, parameterOrder, Slot.name, List.filter_map, Function.comp_def]

/-- **The check finds the property names of the path slot** in the operation of a record. -/
theorem operationFinding_of_operation {record : Record} {start stop : Assembly} {value : Json}
    (hrecords : ∀ slot ∈ parameterOrder, ∀ model ∈ record.request.get? slot, isRecord model = true)
    (h : Yields (operation record) start value stop) :
    operationFinding (templateNames record.path) value = .ok (finding record) := by
  obtain ⟨fields, rfl, hitems, hspots, -⟩ := operation_cases hrecords h
  have hdeclared := declaredNames_of_forall₂ hspots
  rw [pathNames_spots] at hdeclared
  have hread : ((slotNames record.request .path).map Json.str).filterMap Json.str? =
      slotNames record.request .path := by
    rw [List.filterMap_map]
    exact List.filterMap_some
  simp only [operationFinding, hitems, hdeclared, bind, Except.bind, hread, List.length_map]
  rw [if_neg (not_not.2 rfl)]
  exact report_eq _ _

/-! ## The parameters of an operation -/

/-- What tells a parameter of an operation: its name and its place. -/
def spotOf (parameter : Json) : Option Json × Option Json :=
  (parameter.get? "name", parameter.get? "in")

theorem nodup_spots {request : Request}
    (hdistinct : ∀ slot ∈ parameterOrder, (slotNames request slot).Nodup) :
    (spots request parameterOrder).Nodup := by
  rw [spots, List.nodup_flatMap]
  constructor
  · intro slot hslot
    exact (hdistinct slot hslot).map fun _ _ heq => (Prod.mk.inj heq).1
  · -- two slots have no place in common
    have hplaces : parameterOrder.Pairwise fun slot other => slot.name ≠ other.name := by decide
    apply hplaces.imp
    intro slot other hne spot hspot hspot'
    obtain ⟨_, -, rfl⟩ := List.mem_map.1 hspot
    obtain ⟨_, -, heq⟩ := List.mem_map.1 hspot'
    exact hne (Prod.mk.inj heq).2.symm

theorem map_spotOf {places : List (String × String)} {parameters : List Json}
    (h : List.Forall₂ IsParameter places parameters) :
    parameters.map spotOf =
      places.map fun spot => (some (Json.str spot.1), some (Json.str spot.2)) := by
  induction h with
  | nil => rfl
  | cons hfirst _ ih => rw [List.map_cons, List.map_cons, ih, spotOf, hfirst.name, hfirst.place]

theorem exists_spot {places : List (String × String)} {parameters : List Json}
    (h : List.Forall₂ IsParameter places parameters) :
    ∀ parameter ∈ parameters, ∃ spot, IsParameter spot parameter := by
  induction h with
  | nil => simp
  | cons hfirst _ ih => exact List.forall_mem_cons.2 ⟨⟨_, hfirst⟩, ih⟩

/-- **The parameters of an operation are told apart by name and place, and those in the path are
required.** -/
theorem parametersOf_operation {record : Record} {start stop : Assembly} {value : Json}
    (hrecords : ∀ slot ∈ parameterOrder, ∀ model ∈ record.request.get? slot, isRecord model = true)
    (h : Yields (operation record) start value stop) :
    ((parametersOf value).map spotOf).Nodup ∧
      ∀ parameter ∈ parametersOf value, ∃ name place, spotOf parameter =
          (some (.str name), some (.str place)) ∧
        (place = Slot.path.name → parameter.get? "required" = some (.bool true)) := by
  obtain ⟨_, -, -, hspots, hdistinct⟩ := operation_cases hrecords h
  refine ⟨?_, ?_⟩
  · rw [map_spotOf hspots]
    apply (nodup_spots hdistinct).map
    intro spot other heq
    simp only [Prod.mk.injEq, Option.some.injEq, Json.str.injEq] at heq
    exact Prod.ext heq.1 heq.2
  · intro parameter hparameter
    obtain ⟨spot, hspot⟩ := exists_spot hspots parameter hparameter
    exact ⟨spot.1, spot.2, by rw [spotOf, hspot.name, hspot.place], hspot.required⟩

/-! ## Labels -/

/-- The name under which a finding about an operation is kept. -/
def label (verb : Verb) (path : String) : String := verb.upperName ++ " " ++ path

theorem upperName_injective {verb other : Verb} (h : verb.upperName = other.upperName) :
    verb = other := by
  have hall : ∀ verb ∈ Verb.all, ∀ other ∈ Verb.all, verb.upperName = other.upperName →
      verb = other := by decide
  exact hall verb (Verb.mem_all verb) other (Verb.mem_all other) h

/-- A label tells the verb and the path: no verb has a blank in it. -/
theorem label_injective {verb other : Verb} {path path' : String}
    (h : label verb path = label other path') : verb = other ∧ path = path' := by
  have hblank : ∀ verb : Verb, ∀ c ∈ verb.upperName.toList, (c != ' ') = true := by
    intro verb
    apply List.all_eq_true.1
    cases verb <;> decide
  have htext : verb.upperName.toList ++ ' ' :: path.toList =
      other.upperName.toList ++ ' ' :: path'.toList := by
    simpa [label, String.toList_append] using congrArg String.toList h
  have hverb := congrArg (List.takeWhile (· != ' ')) htext
  rw [List.takeWhile_append_of_pos (hblank verb), List.takeWhile_append_of_pos (hblank other)] at hverb
  simp only [List.takeWhile_cons, bne_self_eq_false, Bool.false_eq_true, if_false,
    List.append_nil] at hverb
  obtain rfl : verb = other := upperName_injective (String.toList_injective hverb)
  refine ⟨rfl, ?_⟩
  simpa [label] using h

/-! ## All operations -/

/-- The findings about the operations of a path, where each operation that a verb has is an object. -/
theorem itemFindings_eq {path : String} {expected : List String} {item : Table String Json}
    {found : Verb → Option String} {verbs : List Verb}
    (h : ∀ verb, (item.get? verb.name = none ∧ found verb = none) ∨
      ∃ fields, item.get? verb.name = some (.obj fields) ∧
        operationFinding expected (.obj fields) = .ok (found verb)) :
    itemFindings path expected item verbs =
      .ok (verbs.filterMap fun verb => (found verb).map fun finding => (label verb path, finding)) := by
  induction verbs with
  | nil => rfl
  | cons verb rest ih =>
      rcases h verb with ⟨hnone, hfound⟩ | ⟨fields, hsome, hfinding⟩
      · simp only [itemFindings, hnone, ih, bind, Except.bind, pure, Except.pure, List.filterMap_cons,
          hfound]
        rfl
      · simp only [itemFindings, hsome, hfinding, ih, bind, Except.bind, pure, Except.pure,
          List.filterMap_cons]
        cases found verb with
        | none => rfl
        | some finding => rfl

/-- The findings about all operations, path by path and verb by verb. -/
def findingsOf (found : String → Verb → Option String) (paths : List String) :
    Table String String :=
  paths.flatMap fun path => Verb.all.filterMap fun verb =>
    (found path verb).map fun finding => (label verb path, finding)

theorem pathFindings_eq {found : String → Verb → Option String} {paths : List (String × Json)}
    (h : ∀ entry ∈ paths, ∃ item, entry.2 = .obj item ∧
      ∀ verb, (Table.get? item verb.name = none ∧ found entry.1 verb = none) ∨
        ∃ fields, Table.get? item verb.name = some (.obj fields) ∧
          operationFinding (templateNames entry.1) (.obj fields) = .ok (found entry.1 verb)) :
    pathFindings paths = .ok (findingsOf found (Table.keys paths)) := by
  induction paths with
  | nil => rfl
  | cons entry rest ih =>
      rcases entry with ⟨path, value⟩
      rw [List.forall_mem_cons] at h
      obtain ⟨⟨item, rfl, hitem⟩, hrest⟩ := h
      have hfirst : itemFindings path (templateNames path) item Verb.all = .ok _ :=
        itemFindings_eq hitem
      rw [templateNames] at hfirst
      simp only [pathFindings, hfirst, ih hrest, bind, Except.bind, pure, Except.pure]
      rfl

section

variable {found : String → Verb → Option String} {paths : List String}

theorem mem_findingsOf {entry : String × String} :
    entry ∈ findingsOf found paths ↔
      ∃ path ∈ paths, ∃ verb finding, found path verb = some finding ∧
        entry = (label verb path, finding) := by
  simp only [findingsOf, List.mem_flatMap, List.mem_filterMap, Option.map_eq_some_iff]
  constructor
  · rintro ⟨path, hpath, verb, -, finding, hfound, rfl⟩
    exact ⟨path, hpath, verb, finding, hfound, rfl⟩
  · rintro ⟨path, hpath, verb, finding, hfound, rfl⟩
    exact ⟨path, hpath, verb, Verb.mem_all verb, finding, hfound, rfl⟩

theorem keys_findingsOf_nodup (hpaths : paths.Nodup) : (findingsOf found paths).keys.Nodup := by
  rw [Table.keys, findingsOf, List.map_flatMap, List.nodup_flatMap]
  constructor
  · intro path _
    rw [List.map_filterMap]
    apply List.Nodup.filterMap _ (by decide)
    intro verb other key hkey hkey'
    simp only [Option.map_map, Option.mem_map, Function.comp_apply] at hkey hkey'
    obtain ⟨_, -, rfl⟩ := hkey
    obtain ⟨_, -, hsame⟩ := hkey'
    exact (label_injective hsame).1.symm
  · -- the labels of two paths have no name in common
    apply hpaths.imp
    intro path other hne key hkey hkey'
    simp only [List.mem_map, List.mem_filterMap, Option.map_eq_some_iff] at hkey hkey'
    obtain ⟨_, ⟨verb, -, _, -, rfl⟩, rfl⟩ := hkey
    obtain ⟨_, ⟨verb', -, _, -, rfl⟩, hsame⟩ := hkey'
    exact hne (label_injective hsame).2.symm

theorem get?_findingsOf (hpaths : paths.Nodup) {path : String} (hpath : path ∈ paths) (verb : Verb) :
    (findingsOf found paths).get? (label verb path) = found path verb := by
  cases hfound : found path verb with
  | some finding =>
      exact Table.get?_of_mem (keys_findingsOf_nodup hpaths)
        (mem_findingsOf.2 ⟨path, hpath, verb, finding, hfound, rfl⟩)
  | none =>
      rw [Table.get?_eq_none_iff]
      intro hkey
      obtain ⟨_, hentry, hlabel⟩ := List.mem_map.1 hkey
      obtain ⟨path', -, verb', finding, hsome, rfl⟩ := mem_findingsOf.1 hentry
      obtain ⟨rfl, rfl⟩ := label_injective hlabel
      rw [hfound] at hsome
      cases hsome

end

/-! ## The document -/

/-- What is reported about the record of a verb and a path, if there is one. -/
def findingAt (document : Document) (path : String) (verb : Verb) : Option String :=
  (document.records.find? fun record => record.key = (verb.name, path)).bind finding

/-- The record of a key is told by it. -/
theorem find?_record {records : List Record} {key : String × String}
    (hkeys : (records.map Record.key).Nodup) {record : Record} (hrecord : record ∈ records)
    (hkey : record.key = key) : records.find? (fun record => record.key = key) = some record := by
  cases hfind : records.find? fun record => record.key = key with
  | none =>
      have hnone := List.find?_eq_none.1 hfind record hrecord
      simp [hkey] at hnone
  | some found =>
      have hsame : found.key = key := by simpa using List.find?_some hfind
      rw [List.inj_on_of_nodup_map hkeys (List.mem_of_find?_eq_some hfind) hrecord
        (hsame.trans hkey.symm)]

section

variable {document : Document} {info : Info} {object : Json} {stop : Assembly}

/-- The schemas that become parameters are those of record models. -/
def ParametersFromRecords (document : Document) : Prop :=
  ∀ record ∈ document.records, ∀ slot ∈ parameterOrder, ∀ model ∈ record.request.get? slot,
    isRecord model = true

/-- The operation of a verb on a path, as the check sees it. -/
theorem operationFinding_of_build (hkeys : (document.records.map Record.key).Nodup)
    (hmodels : ParametersFromRecords document) (h : Yields (build document info) {} object stop)
    (path : String) (verb : Verb) :
    ((operationsOf object path).get? verb.name = none ∧ findingAt document path verb = none) ∨
      ∃ fields, (operationsOf object path).get? verb.name = some (.obj fields) ∧
        operationFinding (templateNames path) (.obj fields) = .ok (findingAt document path verb) := by
  obtain ⟨hmethods, hentries⟩ := operationsOf_cases h path
  cases hget : (operationsOf object path).get? verb.name with
  | none =>
      refine .inl ⟨rfl, ?_⟩
      rw [Table.get?_eq_none_iff, hmethods] at hget
      have hfind : document.records.find? (fun record => record.key = (verb.name, path)) = none := by
        rw [List.find?_eq_none]
        intro record hrecord hkey
        obtain ⟨hmethod, hpath⟩ := Prod.mk.inj (of_decide_eq_true hkey)
        exact hget (List.mem_map.2 ⟨record, List.mem_filter.2 ⟨hrecord, decide_eq_true hpath⟩, hmethod⟩)
      rw [findingAt, hfind]
      rfl
  | some value =>
      obtain ⟨record, hrecord, hkey, _, _, -, hrendered⟩ := hentries _ (Table.mem_of_get? hget)
      have hyields : Yields (operation record) _ value _ := Prod.ext hrendered rfl
      obtain ⟨fields, rfl, -⟩ := operation_cases (hmodels record hrecord) hyields
      refine .inr ⟨fields, rfl, ?_⟩
      rw [findingAt, find?_record hkeys hrecord hkey, ← (Prod.mk.inj hkey).2]
      exact operationFinding_of_operation (hmodels record hrecord) hyields

/-- **The findings of the check are told by the records.** -/
theorem checkPaths_of_build (hkeys : (document.records.map Record.key).Nodup)
    (hmodels : ParametersFromRecords document) (h : Yields (build document info) {} object stop) :
    checkPaths object = .ok (findingsOf (findingAt document) document.paths.keys) := by
  obtain ⟨-, paths, hpaths, hobject, -⟩ := build_cases h
  obtain ⟨hpathKeys, hitems⟩ := pathItems_cases hpaths
  have hdistinct : (Table.keys paths).Nodup := by
    rw [hpathKeys, Document.paths, Document.keys_groups]
    exact Table.nodup_eraseDups _
  cases object with
  | obj fields =>
      have hfields : Table.get? fields "paths" = some (.obj paths) := hobject
      simp only [checkPaths, hfields]
      rw [← hpathKeys]
      apply pathFindings_eq
      rintro ⟨path, value⟩ hentry
      obtain ⟨_, item, -, rfl, -⟩ := hitems path value hentry
      have hoperations : operationsOf (.obj fields) path = item := by
        rw [operationsOf, pathsOf, hobject]
        show ((Table.get? paths path).bind Json.obj?).getD [] = item
        rw [Table.get?_of_mem hdistinct hentry]
        rfl
      refine ⟨item, rfl, fun verb => ?_⟩
      rw [← hoperations]
      exact operationFinding_of_build hkeys hmodels h path verb
  | _ => cases hobject

end

/-- **The check reports exactly the mismatches of the records.** For a document built from registered
records whose parameters come from record models, the check succeeds. It reports about operations of
records only, once about each; about a record it reports if and only if the names in braces of its path
differ from the property names of the schema rendered for its path slot, and then it lists the names that
each side lacks in ascending order. The parameters of every operation are told apart by name and place,
and those in the path are required. -/
theorem checkPaths_buildDocument {records : List Record} {schemes : Table String SecurityScheme}
    {document : Document} {info : Info} {object : Json}
    (hdocument : document = records.foldl Document.register { schemes := schemes })
    (hmodels : ParametersFromRecords document)
    (h : (buildDocument document info).1 = .ok object) :
    ∃ findings : Table String String, checkPaths object = .ok findings ∧ findings.keys.Nodup ∧
      (∀ key ∈ findings.keys, ∃ record ∈ document.records, ∃ verb : Verb,
        record.key.1 = verb.name ∧ key = label verb record.path) ∧
      (∀ record ∈ document.records, ∀ verb : Verb, record.key.1 = verb.name →
        (findings.has (label verb record.path) = true ↔
          ¬ ∀ name, name ∈ templateNames record.path ↔ name ∈ slotNames record.request .path) ∧
        ∃ undeclared unknown,
          Ascending undeclared (fun name =>
            name ∈ templateNames record.path ∧ name ∉ slotNames record.request .path) ∧
          Ascending unknown (fun name =>
            name ∈ slotNames record.request .path ∧ name ∉ templateNames record.path) ∧
          findings.get? (label verb record.path) = report undeclared unknown) ∧
      ∀ path, ∀ entry ∈ operationsOf object path,
        ((parametersOf entry.2).map spotOf).Nodup ∧
        ∀ parameter ∈ parametersOf entry.2, ∃ name place,
          spotOf parameter = (some (.str name), some (.str place)) ∧
          (place = Slot.path.name → parameter.get? "required" = some (.bool true)) := by
  obtain ⟨stop, hbuilt⟩ : ∃ stop, Yields (build document info) {} object stop := ⟨_, Prod.ext h rfl⟩
  have hkeys : (document.records.map Record.key).Nodup := by
    rw [hdocument, Document.map_key_records]
    exact Table.nodup_eraseDups _
  have hpaths : document.paths.keys = (document.records.map Record.path).eraseDups :=
    Document.keys_groups _
  have hdistinct : document.paths.keys.Nodup := by
    rw [hpaths]
    exact Table.nodup_eraseDups _
  refine ⟨_, checkPaths_of_build hkeys hmodels hbuilt, keys_findingsOf_nodup hdistinct, ?_, ?_, ?_⟩
  -- a label with a finding is that of the record found for its verb and path
  · intro key hkey
    obtain ⟨_, hentry, rfl⟩ := List.mem_map.1 hkey
    obtain ⟨path, -, verb, text, hfound, rfl⟩ := mem_findingsOf.1 hentry
    obtain ⟨record, hfind, -⟩ := Option.bind_eq_some_iff.1 hfound
    have hsame : record.key = (verb.name, path) := by simpa using List.find?_some hfind
    obtain ⟨hmethod, rfl⟩ := Prod.mk.inj hsame
    exact ⟨record, List.mem_of_find?_eq_some hfind, verb, hmethod, rfl⟩
  -- records have distinct keys, so what is found under a label is what its record gives
  · intro record hrecord verb hverb
    have hpath : record.path ∈ document.paths.keys := by
      rw [hpaths, List.mem_eraseDups]
      exact List.mem_map_of_mem hrecord
    have hkey : record.key = (verb.name, record.path) := Prod.ext hverb rfl
    have hget : (findingsOf (findingAt document) document.paths.keys).get? (label verb record.path) =
        finding record := by
      rw [get?_findingsOf hdistinct hpath, findingAt, find?_record hkeys hrecord hkey]
      rfl
    have hundeclared := ascending_missingNames (templateNames record.path)
      (slotNames record.request .path)
    have hunknown := ascending_missingNames (slotNames record.request .path)
      (templateNames record.path)
    refine ⟨?_, _, _, hundeclared, hunknown, hget⟩
    rw [Table.has, hget, Option.isSome_iff_ne_none, finding, Ne, report_eq_none_iff,
      hundeclared.eq_nil_iff, hunknown.eq_nil_iff, not_iff_not]
    constructor
    · rintro ⟨hleft, hright⟩ name
      exact ⟨fun hname => by_contra fun hnot => hleft name ⟨hname, hnot⟩,
        fun hname => by_contra fun hnot => hright name ⟨hname, hnot⟩⟩
    · intro hsame
      exact ⟨fun name hname => hname.2 ((hsame name).1 hname.1),
        fun name hname => hname.2 ((hsame name).2 hname.1)⟩
  · intro path entry hentry
    obtain ⟨record, hrecord, -, _, _, -, hrendered⟩ := (operationsOf_cases hbuilt path).2 entry hentry
    have hyields : Yields (operation record) _ entry.2 _ := Prod.ext hrendered rfl
    exact parametersOf_operation (hmodels record hrecord) hyields

/-! ## Two operations of one path -/

/-- A record with a property for each of some keys. -/
def keyed (name : String) (keys : List String) : Model :=
  .record default name none .ignore (keys.map fun key => .mk key .anything {})

/-- The rendered schema of such a record. -/
def keyedSchema (name : String) (keys : List String) : Json :=
  .obj [("properties", .obj (keys.map fun key => (key, .obj [("title", .str (titleOf key))]))),
    ("required", .arr (keys.map Json.str)), ("title", .str name), ("type", .str "object")]

/-- An endpoint on a path that names two parameters. -/
def lookup (method : String) (request : Request) : Record :=
  { method := method, path := "/users/{id}/{slug}", tag := "users", request := request }

/-- Two endpoints of the path. -/
def lookups (user slug query : Model) : List Record :=
  [lookup "GET" { path := some user, query := some query }, lookup "delete" { path := some slug }]

theorem sortFields_body (type properties required title : Json) :
    sortFields [("type", type), ("properties", properties), ("required", required), ("title", title)] =
      [("properties", properties), ("required", required), ("title", title), ("type", type)] := by
  simp [sortFields, List.mergeSort, List.MergeSort.Internal.splitInTwo]

theorem arrange_keyed (name : String) (keys : List String) :
    arrange false (.obj [("type", .str "object"),
      ("properties", .obj (keys.map fun key => (key, .obj [("title", .str (titleOf key))]))),
      ("required", .arr (keys.map Json.str)), ("title", .str name)]) = keyedSchema name keys := by
  have hproperties : arrangeFields (keys.map fun key => (key, .obj [("title", .str (titleOf key))])) =
      keys.map fun key => (key, .obj [("title", .str (titleOf key))]) := by
    induction keys with
    | nil => rfl
    | cons key rest ih =>
        simp only [List.map_cons, arrangeFields, ih]
        simp [arrange, arrangeFields, sortFields]
  have hrequired : arrangeItems false (keys.map Json.str) = keys.map Json.str := by
    clear hproperties
    induction keys with
    | nil => rfl
    | cons key rest ih => simp [arrangeItems, arrange, ih]
  simp [arrange, arrangeFields, keepsOrder, sortFields_body, hproperties, hrequired, keyedSchema]

theorem component_of_rendered {model : Model} {schema : Json} (h : rendered model = .ok schema) :
    component model = component (.given default model.name schema) := by
  simp only [component, h]
  rfl

theorem records_lookups (user slug query : Model) :
    ((lookups user slug query).foldl Document.register {}).records = lookups user slug query := by
  have hget : ∀ request, (lookup "GET" request).key = ("get", "/users/{id}/{slug}") := fun _ =>
    Prod.ext (show String.ofList (Text.lower "GET".toList) = "get" by decide +kernel) rfl
  have hdelete : ∀ request, (lookup "delete" request).key = ("delete", "/users/{id}/{slug}") :=
    fun _ => Prod.ext (show String.ofList (Text.lower "delete".toList) = "delete" by decide +kernel) rfl
  simp [lookups, Document.records, Table.values, Document.register, hget, hdelete, Table.put]

/-- The document of the endpoints depends on their models only through what these give. -/
theorem build_lookups_congr {user slug query user' slug' query' : Model}
    (huser : component user = component user') (hslug : component slug = component slug')
    (hquery : component query = component query') :
    build ((lookups user slug query).foldl Document.register {}) {} =
      build ((lookups user' slug' query').foldl Document.register {}) {} := by
  have hpaths : ∀ user slug query : Model,
      ((lookups user slug query).foldl Document.register {}).paths =
        [("/users/{id}/{slug}", lookups user slug query)] := by
    intro user slug query
    rw [Document.paths, records_lookups]
    rfl
  have hschemes : ∀ user slug query : Model,
      ((lookups user slug query).foldl Document.register {}).schemes = [] := fun _ _ _ => rfl
  simp only [build, hpaths, componentsObject, hschemes]
  simp only [lookups, lookup, pathItems, pathItem, Record.key, operation, requestParameters,
    parameterOrder, Request.get?, parameters, huser, hslug, hquery]

/-- The endpoints with path schemas that name `key` and `id`, and `slug` and `id`. -/
def userLookups : List Record :=
  lookups (keyed "UserPath" ["key", "id"]) (keyed "SlugPath" ["slug", "id"]) (keyed "UserQuery" ["id"])

/-- The path of both endpoints names `id` and `slug`: the first lacks `slug` and declares `key`, which is
not in the path, and the second declares what the path names. -/
theorem userLookups_findings : ∃ object findings,
    (buildDocument (userLookups.foldl Document.register {}) {}).1 = .ok object ∧
      checkPaths object = .ok findings ∧
      Table.get? findings "GET /users/{id}/{slug}" =
        some "undeclared path parameters: slug; path parameters not in template: key" ∧
      Table.get? findings "DELETE /users/{id}/{slug}" = none := by
  have huser : rendered (keyed "UserPath" ["key", "id"]) = .ok (keyedSchema "UserPath" ["key", "id"]) :=
    congrArg Except.ok (arrange_keyed "UserPath" ["key", "id"])
  have hslug : rendered (keyed "SlugPath" ["slug", "id"]) =
      .ok (keyedSchema "SlugPath" ["slug", "id"]) :=
    congrArg Except.ok (arrange_keyed "SlugPath" ["slug", "id"])
  have hquery : rendered (keyed "UserQuery" ["id"]) = .ok (keyedSchema "UserQuery" ["id"]) :=
    congrArg Except.ok (arrange_keyed "UserQuery" ["id"])
  obtain ⟨object, hobject⟩ : ∃ object,
      (buildDocument (userLookups.foldl Document.register {}) {}).1 = .ok object := by
    rw [buildDocument, userLookups, build_lookups_congr (component_of_rendered huser)
      (component_of_rendered hslug) (component_of_rendered hquery)]
    exact ⟨_, rfl⟩
  have hrecords := records_lookups (keyed "UserPath" ["key", "id"]) (keyed "SlugPath" ["slug", "id"])
    (keyed "UserQuery" ["id"])
  have hmodels : ParametersFromRecords (userLookups.foldl Document.register {}) := by
    intro record hrecord slot hslot model hmodel
    rw [userLookups, hrecords] at hrecord
    simp only [lookups, List.mem_cons, List.not_mem_nil, or_false] at hrecord
    simp only [parameterOrder, List.mem_cons, List.not_mem_nil, or_false] at hslot
    rcases hrecord with rfl | rfl <;> rcases hslot with rfl | rfl | rfl <;> cases hmodel <;> rfl
  obtain ⟨findings, hfindings, -, -, hreports, -⟩ := checkPaths_buildDocument rfl hmodels hobject
  have htemplate : templateNames "/users/{id}/{slug}" = ["id", "slug"] := by decide +kernel
  refine ⟨object, findings, hobject, hfindings, ?_, ?_⟩
  · have hmem : lookup "GET" { path := some (keyed "UserPath" ["key", "id"]), query := some (keyed
        "UserQuery" ["id"]) } ∈ (userLookups.foldl Document.register {}).records := by
      rw [userLookups, hrecords]
      exact List.mem_cons_self
    obtain ⟨-, undeclared, unknown, hundeclared, hunknown, hget⟩ :=
      hreports _ hmem .get (by decide +kernel)
    have hnames : slotNames { path := some (keyed "UserPath" ["key", "id"]), query := some (keyed
        "UserQuery" ["id"]) } .path = ["key", "id"] := by
      simp only [slotNames, Request.get?, huser]
      rfl
    simp only [lookup, hnames, htemplate] at hundeclared hunknown
    obtain rfl : undeclared = ["slug"] := hundeclared.unique ⟨by simp, by grind⟩
    obtain rfl : unknown = ["key"] := hunknown.unique ⟨by simp, by grind⟩
    exact hget
  · have hmem : lookup "delete" { path := some (keyed "SlugPath" ["slug", "id"]) } ∈
        (userLookups.foldl Document.register {}).records := by
      rw [userLookups, hrecords]
      exact List.mem_cons_of_mem _ List.mem_cons_self
    obtain ⟨-, undeclared, unknown, hundeclared, hunknown, hget⟩ :=
      hreports _ hmem .delete (by decide +kernel)
    have hnames : slotNames { path := some (keyed "SlugPath" ["slug", "id"]) } .path =
        ["slug", "id"] := by
      simp only [slotNames, Request.get?, hslug]
      rfl
    simp only [lookup, hnames, htemplate] at hundeclared hunknown
    obtain rfl : undeclared = [] := hundeclared.unique ⟨by simp, by grind⟩
    obtain rfl : unknown = [] := hunknown.unique ⟨by simp, by grind⟩
    exact hget

end RouteAtlas.OpenApi
