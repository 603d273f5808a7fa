import RouteAtlas.Proofs.OpenApi.Merging

/-!
# Naming that settles

Renaming fails only at a reference that is a list or an object, so it succeeds on a schema all of whose
references are strings (`exists_retarget`), and resolving unions with null keeps them strings
(`hasTextRefs_nullable`). Naming the definitions of such a schema therefore always gives names. Where no
definition refers to itself, directly or through others, the rounds of naming come to rest before they
are used up, whatever components there are; `component_settles` draws the conclusion for a call: the
name of a definition was unused, or the component that it held, and still holds, is the definition with
its references renamed.
-/

set_option autoImplicit false

namespace RouteAtlas.OpenApi

open Schema Step

/-! ## References that are strings -/

mutual

/-- Every value under the reference key of an object, at any depth, is a string. -/
def hasTextRefs : Json → Bool
  | .arr items => itemsHaveTextRefs items
  | .obj fields => entriesHaveTextRefs fields
  | _ => true

/-- The references in the items of a list are strings. -/
def itemsHaveTextRefs : List Json → Bool
  | [] => true
  | item :: rest => hasTextRefs item && itemsHaveTextRefs rest

/-- The references in the entries of an object are strings. -/
def entriesHaveTextRefs : List (String × Json) → Bool
  | [] => true
  | (key, value) :: rest =>
      (key != "$ref" || value.str?.isSome) && hasTextRefs value && entriesHaveTextRefs rest

end

/-- An entry is not one of a reference that is no string. -/
def IsTextEntry (entry : String × Json) : Prop := entry.1 = "$ref" → ∃ text, entry.2 = .str text

theorem itemsHaveTextRefs_iff {items : List Json} :
    itemsHaveTextRefs items = true ↔ ∀ item ∈ items, hasTextRefs item = true := by
  induction items with
  | nil => simp [itemsHaveTextRefs]
  | cons item rest ih => simp [itemsHaveTextRefs, ih]

theorem entriesHaveTextRefs_iff {fields : List (String × Json)} :
    entriesHaveTextRefs fields = true ↔
      ∀ entry ∈ fields, IsTextEntry entry ∧ hasTextRefs entry.2 = true := by
  induction fields with
  | nil => simp [entriesHaveTextRefs]
  | cons entry rest ih =>
      rcases entry with ⟨key, value⟩
      have hentry : (key != "$ref" || value.str?.isSome) = true ↔ IsTextEntry (key, value) := by
        rw [Bool.or_eq_true, bne_iff_ne, IsTextEntry]
        by_cases hkey : key = "$ref"
        · cases value <;> simp [hkey, Json.str?]
        · simp [hkey]
      simp only [entriesHaveTextRefs, Bool.and_eq_true, hentry, ih, List.forall_mem_cons]

/-! ## Unions with null -/

theorem textEntries_nullableFields {fields result : Table String Json}
    (hfields : entriesHaveTextRefs fields = true) (h : nullableFields fields = .ok result) :
    entriesHaveTextRefs result = true := by
  rw [entriesHaveTextRefs_iff] at hfields ⊢
  have hvariants : ∀ {variants : List Json}, ("anyOf", Json.arr variants) ∈ fields →
      ∀ variant ∈ variants, hasTextRefs variant = true := by
    intro variants hunion
    have harr := (hfields _ hunion).2
    rwa [hasTextRefs, itemsHaveTextRefs_iff] at harr
  refine forall_mem_nullableFields h hfields ?_ ?_ ⟨fun hkey => absurd hkey (by decide), rfl⟩
  · intro variants member hunion hmem
    have hmember := hvariants hunion _ hmem
    rwa [hasTextRefs, entriesHaveTextRefs_iff] at hmember
  · intro variants hunion
    refine ⟨fun hkey => absurd hkey (show "anyOf" ≠ "$ref" by decide), ?_⟩
    rw [hasTextRefs, itemsHaveTextRefs_iff]
    exact fun item hitem => hvariants hunion item (mem_otherVariants.1 hitem).1

mutual

/-- **Resolving unions with null keeps references strings.** -/
theorem hasTextRefs_nullable : ∀ {json result : Json}, hasTextRefs json = true →
    nullable json = .ok result → hasTextRefs result = true
  | .arr items, result, hjson, h => by
      simp only [nullable, bind_eq_ok, pure, Except.pure, Except.ok.injEq] at h
      obtain ⟨resolved, hitems, rfl⟩ := h
      rw [hasTextRefs] at hjson ⊢
      exact textItems_nullableItems hjson hitems
  | .obj fields, result, hjson, h => by
      simp only [nullable, bind_eq_ok, pure, Except.pure, Except.ok.injEq] at h
      obtain ⟨resolved, hentries, unioned, hunion, rfl⟩ := h
      rw [hasTextRefs] at hjson ⊢
      exact textEntries_nullableFields (textEntries_nullableEntries hjson hentries) hunion
  | .null, result, hjson, h => by cases h; exact hjson
  | .bool _, result, hjson, h => by cases h; exact hjson
  | .num _, result, hjson, h => by cases h; exact hjson
  | .str _, result, hjson, h => by cases h; exact hjson
  | .foreign, result, hjson, h => by cases h; exact hjson

theorem textItems_nullableItems : ∀ {items result : List Json}, itemsHaveTextRefs items = true →
    nullableItems items = .ok result → itemsHaveTextRefs result = true
  | [], result, hitems, h => by cases h; exact hitems
  | item :: rest, result, hitems, h => by
      simp only [nullableItems, bind_eq_ok, pure, Except.pure, Except.ok.injEq] at h
      obtain ⟨first, hfirst, others, hothers, rfl⟩ := h
      rw [itemsHaveTextRefs, Bool.and_eq_true] at hitems ⊢
      exact ⟨hasTextRefs_nullable hitems.1 hfirst, textItems_nullableItems hitems.2 hothers⟩

theorem textEntries_nullableEntries : ∀ {fields result : List (String × Json)},
    entriesHaveTextRefs fields = true → nullableEntries fields = .ok result →
      entriesHaveTextRefs result = true
  | [], result, hfields, h => by cases h; exact hfields
  | (key, value) :: rest, result, hfields, h => by
      simp only [nullableEntries, bind_eq_ok, pure, Except.pure, Except.ok.injEq] at h
      obtain ⟨first, hfirst, others, hothers, rfl⟩ := h
      simp only [entriesHaveTextRefs, Bool.and_eq_true, Bool.or_eq_true] at hfields ⊢
      obtain ⟨⟨hown, hvalue⟩, hrest⟩ := hfields
      refine ⟨⟨hown.imp_right fun htext => ?_, hasTextRefs_nullable hvalue hfirst⟩,
        textEntries_nullableEntries hrest hothers⟩
      -- a string is resolved to itself
      cases value with
      | str text => cases hfirst; rfl
      | _ => simp [Json.str?] at htext

end

/-! ## Renaming succeeds -/

theorem mem_retargetEntries {renames : Table String String} {key : String} {value : Json} :
    ∀ {fields result : List (String × Json)}, retargetEntries renames fields = .ok result →
      (key, value) ∈ result → ∃ original, (key, original) ∈ fields ∧
        retarget renames original = .ok value
  | [], result, h, hmem => by cases h; simp at hmem
  | (first, original) :: rest, result, h, hmem => by
      simp only [retargetEntries, bind_eq_ok, pure, Except.pure, Except.ok.injEq] at h
      obtain ⟨renamed, hrenamed, others, hothers, rfl⟩ := h
      rcases List.mem_cons.1 hmem with heq | hmem
      · cases heq
        exact ⟨original, List.mem_cons_self, hrenamed⟩
      · obtain ⟨found, hfound, hretarget⟩ := mem_retargetEntries hothers hmem
        exact ⟨found, List.mem_cons_of_mem _ hfound, hretarget⟩

/-- The reference of one object is renamed if it is a string, or there is none. -/
theorem exists_renameRef (renames : Table String String) {fields : Table String Json}
    (h : ∀ entry ∈ fields, IsTextEntry entry) : ∃ result, renameRef renames fields = .ok result := by
  cases hown : Table.get? fields "$ref" with
  | none => exact ⟨fields, by simp only [renameRef, hown]⟩
  | some value =>
      obtain ⟨target, rfl⟩ := h _ (Table.mem_of_get? hown) rfl
      cases hrename : Table.get? renames target with
      | none => exact ⟨fields, by simp only [renameRef, hown, hrename]⟩
      | some renamed =>
          exact ⟨fields.put "$ref" (.str renamed), by simp only [renameRef, hown, hrename]⟩

mutual

/-- **Renaming succeeds where all references are strings.** -/
theorem exists_retarget (renames : Table String String) : ∀ {json : Json}, hasTextRefs json = true →
    ∃ result, retarget renames json = .ok result
  | .arr items, h => by
      rw [hasTextRefs] at h
      obtain ⟨renamed, hrenamed⟩ := exists_retargetItems renames h
      exact ⟨.arr renamed, by rw [retarget, hrenamed]; rfl⟩
  | .obj fields, h => by
      rw [hasTextRefs] at h
      obtain ⟨renamed, hrenamed⟩ := exists_retargetEntries renames h
      -- a string is renamed to itself, so the reference of the object is a string still
      have htext : ∀ entry ∈ renamed, IsTextEntry entry := by
        rintro ⟨key, value⟩ hentry hkey
        obtain ⟨original, horiginal, hvalue⟩ := mem_retargetEntries hrenamed hentry
        obtain ⟨text, rfl⟩ := (entriesHaveTextRefs_iff.1 h _ horiginal).1 hkey
        cases hvalue
        exact ⟨text, rfl⟩
      obtain ⟨final, hfinal⟩ := exists_renameRef renames htext
      refine ⟨.obj final, ?_⟩
      rw [retarget, hrenamed]
      simp only [bind, Except.bind, hfinal]
      rfl
  | .null, _ => ⟨_, rfl⟩
  | .bool _, _ => ⟨_, rfl⟩
  | .num _, _ => ⟨_, rfl⟩
  | .str _, _ => ⟨_, rfl⟩
  | .foreign, _ => ⟨_, rfl⟩

theorem exists_retargetItems (renames : Table String String) : ∀ {items : List Json},
    itemsHaveTextRefs items = true → ∃ result, retargetItems renames items = .ok result
  | [], _ => ⟨[], rfl⟩
  | item :: rest, h => by
      rw [itemsHaveTextRefs, Bool.and_eq_true] at h
      obtain ⟨first, hfirst⟩ := exists_retarget renames h.1
      obtain ⟨others, hothers⟩ := exists_retargetItems renames h.2
      exact ⟨first :: others, by rw [retargetItems, hfirst, hothers]; rfl⟩

theorem exists_retargetEntries (renames : Table String String) :
    ∀ {fields : List (String × Json)}, entriesHaveTextRefs fields = true →
      ∃ result, retargetEntries renames fields = .ok result
  | [], _ => ⟨[], rfl⟩
  | (key, value) :: rest, h => by
      simp only [entriesHaveTextRefs, Bool.and_eq_true] at h
      obtain ⟨first, hfirst⟩ := exists_retarget renames h.1.2
      obtain ⟨others, hothers⟩ := exists_retargetEntries renames h.2
      exact ⟨(key, first) :: others, by rw [retargetEntries, hfirst, hothers]; rfl⟩

end

/-! ## Naming succeeds -/

theorem exists_nameAll (components : Table String Json) (names : Naming) {definitions : List (String × Json)}
    (h : ∀ entry ∈ definitions, ∀ renames, ∃ result, retarget renames entry.2 = .ok result) :
    ∃ next, nameAll components names definitions = .ok next := by
  induction definitions with
  | nil => exact ⟨[], rfl⟩
  | cons entry rest ih =>
      rcases entry with ⟨name, definition⟩
      rw [List.forall_mem_cons] at h
      obtain ⟨retargeted, hretargeted⟩ := h.1 (renamedTargets names)
      obtain ⟨others, hothers⟩ := ih h.2
      exact ⟨_, by rw [nameAll, hretargeted, hothers]; rfl⟩

theorem exists_settle (components : Table String Json) {definitions : List (String × Json)}
    (h : ∀ entry ∈ definitions, ∀ renames, ∃ result, retarget renames entry.2 = .ok result)
    (rounds : Nat) (names : Naming) :
    ∃ result, settle components definitions rounds names = .ok result := by
  induction rounds generalizing names with
  | zero => exact ⟨names, rfl⟩
  | succ rounds ih =>
      obtain ⟨next, hnext⟩ := exists_nameAll components names h
      by_cases hsame : next = names
      · exact ⟨names, by rw [settle, hnext]; simp [bind, Except.bind, hsame, pure, Except.pure]⟩
      · obtain ⟨result, hresult⟩ := ih next
        exact ⟨result, by rw [settle, hnext]; simpa [bind, Except.bind, hsame] using hresult⟩

/-! ## A call -/

section

variable {model : Model} {schema : Json} {nested fields definitions : List (String × Json)}

/-- The definitions of a schema, resolved and named, where their references are strings. -/
theorem exists_hoisting (hschema : rendered model = .ok schema)
    (hsplit : splitDefinitions schema = .ok (nested, fields))
    (hdefinitions : nullableEntries nested = .ok definitions)
    (htexts : ∀ entry ∈ nested, hasTextRefs entry.2 = true) (components : Table String Json) :
    ∃ hoisting : Hoisting model components, hoisting.schema = schema ∧ hoisting.nested = nested ∧
      hoisting.definitions = definitions ∧
      ∀ entry ∈ definitions, hasTextRefs entry.2 = true := by
  have hresolved : ∀ entry ∈ definitions, hasTextRefs entry.2 = true := by
    rintro ⟨name, definition⟩ hentry
    obtain ⟨original, horiginal, hnullable⟩ := mem_of_mem_nullableEntries hdefinitions hentry
    exact hasTextRefs_nullable (htexts _ horiginal) hnullable
  obtain ⟨names, hnames⟩ := exists_settle components
    (fun entry hentry renames => exists_retarget renames (hresolved entry hentry))
    (definitions.length + 1) (definitions.map fun entry => (entry.1, entry.1))
  exact ⟨⟨schema, nested, fields, definitions, names, hschema, hsplit, hdefinitions, hnames⟩,
    rfl, rfl, rfl, hresolved⟩

/-- **Naming settles.** Among any components, the definitions of a schema that are not recursive and
whose references are strings are named in rounds that come to rest in time. The name of a definition was
unused before the call, or it held, and holds after the call, the definition with its references
renamed. -/
theorem component_settles (start : Assembly) (hschema : rendered model = .ok schema)
    (hsplit : splitDefinitions schema = .ok (nested, fields))
    (hdistinct : (Table.keys nested).Nodup)
    (htexts : ∀ entry ∈ nested, hasTextRefs entry.2 = true) (hnonrec : NonRecursive nested)
    (hdefinitions : nullableEntries nested = .ok definitions) :
    ∃ hoisting : Hoisting model start.components, hoisting.definitions = definitions ∧
      Breaks start.components definitions (definitions.length + 1)
        (definitions.map fun (name, _) => (name, name)) hoisting.names ∧
      ∀ entry ∈ definitions, ∃ retargeted, retarget hoisting.renames entry.2 = .ok retargeted ∧
        (start.components.get? (hoisting.given entry.1) = none ∨
          ∃ registered, start.components.get? (hoisting.given entry.1) = some registered ∧
            registered.alike retargeted = true ∧
            (final (component model) start).components.get? (hoisting.given entry.1) =
              some registered) := by
  obtain ⟨hoisting, rfl, rfl, rfl, hresolved⟩ :=
    exists_hoisting hschema hsplit hdefinitions htexts start.components
  have hschemaDistinct : (definitionsOf hoisting.schema).keys.Nodup := by
    rwa [← (splitDefinitions_eq hoisting.split_eq).1]
  have hkeys : (Table.keys hoisting.definitions).Nodup := by
    rwa [keys_nullableEntries hoisting.definitions_eq]
  refine ⟨hoisting, rfl, breaks_of_naming hkeys (hnonrec.nullableEntries hoisting.definitions_eq)
    hoisting.names_eq, fun entry hentry => ?_⟩
  obtain ⟨retargeted, hretargeted⟩ := exists_retarget hoisting.renames (hresolved entry hentry)
  refine ⟨retargeted, hretargeted, ?_⟩
  have hfree := hoisting.isFree_given hschemaDistinct hnonrec hentry hretargeted
  cases hused : start.components.get? (hoisting.given entry.1) with
  | none => exact .inl rfl
  | some registered =>
      -- a name that was used is free only for an equal definition, and a component is kept
      rw [isFree, hused] at hfree
      exact .inr ⟨registered, rfl, hfree,
        Table.get?_of_grown (component_grows model start) hused⟩

end

/-! ## A name that is given up late -/

/-- A definition without references, and one that refers to it. -/
def embedding (doc : String) : List (String × Json) :=
  [("A", noted "A" doc), ("B", .obj [("$ref", .str (refTo "A"))])]

/-- A model with such definitions. -/
def embedder (doc : String) : Model :=
  .given default "Embedder" (.obj [("$defs", .obj (embedding doc)), ("type", .str "object")])

theorem nonRecursive_embedding (doc : String) : NonRecursive (embedding doc) := by
  have hrefers : ∀ name other, RefersTo (embedding doc) name other → name = "B" ∧ other = "A" := by
    rintro name other ⟨definition, hdefinition, href⟩
    simp only [embedding, List.mem_cons, Prod.mk.injEq, List.not_mem_nil, or_false] at hdefinition
    rcases hdefinition with ⟨-, rfl⟩ | ⟨rfl, rfl⟩
    · simp [noted, refs, entryRefs, ownRef] at href
    · simp only [refs, entryRefs, ownRef, Json.str?] at href
      exact ⟨rfl, refTo_injective (by simpa using href)⟩
  intro name hcycle
  obtain ⟨next, hfirst, -⟩ := Relation.TransGen.head'_iff.1 hcycle
  obtain ⟨last, -, hlast⟩ := Relation.TransGen.tail'_iff.1 hcycle
  have hdiffer : "B" ≠ "A" := by decide
  exact hdiffer ((hrefers _ _ hfirst).1.symm.trans (hrefers _ _ hlast).2)

/-- With another `A` in the components and a `B` that refers to it, `B` keeps its name in the first
round and is given `B2` in the second; the third finds the names at rest. -/
theorem embedder_settles : NonRecursive (embedding "two") ∧
    ∃ hoisting : Hoisting (embedder "two") (embedding "one"),
      Breaks (embedding "one") (embedding "two") 3 [("A", "A"), ("B", "B")] hoisting.names ∧
      ∀ entry ∈ embedding "two", ∃ retargeted, retarget hoisting.renames entry.2 = .ok retargeted ∧
        (Table.get? (embedding "one") (hoisting.given entry.1) = none ∨
          ∃ registered, Table.get? (embedding "one") (hoisting.given entry.1) = some registered ∧
            registered.alike retargeted = true ∧
            (final (component (embedder "two")) { components := embedding "one" }).components.get?
              (hoisting.given entry.1) = some registered) := by
  refine ⟨nonRecursive_embedding "two", ?_⟩
  have hschema : rendered (embedder "two") =
      .ok (.obj [("$defs", .obj (embedding "two")), ("type", .str "object")]) := rfl
  have hsplit : splitDefinitions (.obj [("$defs", .obj (embedding "two")), ("type", .str "object")]) =
      .ok (embedding "two", [("type", .str "object")]) := rfl
  have hdefinitions : nullableEntries (embedding "two") = .ok (embedding "two") := rfl
  obtain ⟨hoisting, -, hbreaks, hentries⟩ := component_settles { components := embedding "one" }
    hschema hsplit (by decide) (by decide) (nonRecursive_embedding "two") hdefinitions
  exact ⟨hoisting, hbreaks, hentries⟩

end RouteAtlas.OpenApi
