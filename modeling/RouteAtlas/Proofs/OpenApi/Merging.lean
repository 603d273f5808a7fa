import RouteAtlas.Proofs.OpenApi.Integrity

/-!
# Definitions that are merged

Where no definition refers to itself, the name that a definition is given is unused or holds an equal
definition. Names are chosen against the components from before the call alone, though, so several
definitions of one schema can be given one unused name; the first of them is registered and stands for
all. `component_keeps_iff` says that this is the only way for a definition to get lost: every
definition of a schema is found, with its references renamed, under the name it is given, exactly when
no two definitions that are given one unused name differ.
-/

set_option autoImplicit false

namespace RouteAtlas.OpenApi

open Schema Step

/-- Two values are the same, or compare as equal. -/
def Agrees (first second : Json) : Prop := first = second ∨ first.alike second = true

section

variable {model : Model} {components : Table String Json}

/-- Every definition is found, with its references renamed, under the name it is given. -/
def Hoisting.Keeps (hoisting : Hoisting model components) (stop : Assembly) : Prop :=
  ∀ entry ∈ hoisting.definitions, ∀ retargeted, retarget hoisting.renames entry.2 = .ok retargeted →
    ∃ registered, stop.components.get? (hoisting.given entry.1) = some registered ∧
      Agrees registered retargeted

/-- The first of the definitions that are given a name. -/
def Hoisting.claimant (hoisting : Hoisting model components) (name : String) :
    Option (String × Json) :=
  hoisting.definitions.find? fun entry => hoisting.given entry.1 == name

/-- A definition that is given an unused name agrees with the first that is given it. -/
def Hoisting.Unmerged (hoisting : Hoisting model components) : Prop :=
  ∀ entry ∈ hoisting.definitions, components.has (hoisting.given entry.1) = false →
    ∀ first ∈ hoisting.claimant (hoisting.given entry.1), ∀ kept retargeted,
      retarget hoisting.renames first.2 = .ok kept →
      retarget hoisting.renames entry.2 = .ok retargeted → Agrees kept retargeted

/-- A schema is hoisted in one way only. -/
instance : Subsingleton (Hoisting model components) where
  allEq first second := by
    rcases first with ⟨schema, nested, fields, definitions, names, hschema, hsplit, hdefinitions, hnames⟩
    rcases second with ⟨schema', nested', fields', definitions', names', hschema', hsplit',
      hdefinitions', hnames'⟩
    obtain rfl : schema = schema' := by simpa [hschema] using hschema'
    obtain ⟨rfl, rfl⟩ : nested = nested' ∧ fields = fields' := by simpa [hsplit] using hsplit'
    obtain rfl : definitions = definitions' := by simpa [hdefinitions] using hdefinitions'
    obtain rfl : names = names' := by simpa [hnames] using hnames'
    rfl

end

/-! ## Registering -/

/-- An unused name that some definition is given holds the first such definition afterwards. -/
theorem get?_of_registerAll {owner given : String} {names : Naming} {first : String × Json} :
    ∀ {definitions : List (String × Json)} {start stop : Assembly},
      Yields (registerAll owner names definitions) start () stop →
      start.components.has given = false →
      definitions.find? (fun entry => names.given entry.1 == given) = some first →
        ∃ kept, retarget (renamedTargets names) first.2 = .ok kept ∧
          stop.components.get? given = some kept
  | [], _, _, _, _, hfirst => by simp at hfirst
  | (name, definition) :: rest, start, stop, h, hunused, hfirst => by
      obtain ⟨retargeted, middle, hretarget, hmiddle, hrest⟩ := registerAll_cons h
      by_cases hname : names.given name = given
      · -- this is the first one: its name is unused, so it is registered, and stays
        subst hname
        rw [List.find?_cons_of_pos (by simp)] at hfirst
        cases hfirst
        rw [if_neg (by simp [hunused])] at hmiddle
        refine ⟨retargeted, hretarget, ?_⟩
        have hnew : middle.components.get? (names.given name) = some retargeted := by
          rw [hmiddle, Table.get?_append, Table.get?_eq_none_iff.2, Option.none_or]
          · simp [Table.get?]
          · rw [← Table.has_iff_mem_keys, hunused]
            exact Bool.false_ne_true
        exact Table.get?_of_grown (grows_of_yields (grows_registerAll _ _ _) hrest) hnew
      · rw [List.find?_cons_of_neg (by simpa using hname)] at hfirst
        refine get?_of_registerAll hrest ?_ hfirst
        -- another name is registered, if any
        rw [hmiddle, ← Bool.not_eq_true, Table.has_iff_mem_keys]
        rw [← Bool.not_eq_true, Table.has_iff_mem_keys] at hunused
        split
        · exact hunused
        · simpa [Table.keys, Ne.symm hname] using hunused

/-! ## Names at rest -/

theorem mem_of_mem_nullableEntries {name : String} {definition : Json} :
    ∀ {fields result : List (String × Json)}, nullableEntries fields = .ok result →
      (name, definition) ∈ result → ∃ original, (name, original) ∈ fields ∧
        nullable original = .ok definition
  | [], result, h, hmem => by
      cases h
      simp at hmem
  | (key, value) :: rest, result, h, hmem => by
      simp only [nullableEntries, bind_eq_ok, pure, Except.pure, Except.ok.injEq] at h
      obtain ⟨first, hfirst, others, hothers, rfl⟩ := h
      rcases List.mem_cons.1 hmem with heq | hmem
      · cases heq
        exact ⟨value, List.mem_cons_self, hfirst⟩
      · obtain ⟨original, horiginal, hnullable⟩ := mem_of_mem_nullableEntries hothers hmem
        exact ⟨original, List.mem_cons_of_mem _ horiginal, hnullable⟩

/-- Resolving unions with null makes no definition recursive. -/
theorem NonRecursive.nullableEntries {nested definitions : List (String × Json)}
    (hnonrec : NonRecursive nested) (h : OpenApi.nullableEntries nested = .ok definitions) :
    NonRecursive definitions := by
  intro name hcycle
  have hle : RefersTo definitions ≤ RefersTo nested := by
    rintro low high ⟨definition, hdefinition, href⟩
    obtain ⟨original, horiginal, hnullable⟩ := mem_of_mem_nullableEntries h hdefinition
    exact ⟨original, horiginal, refs_nullable hnullable _ href⟩
  exact hnonrec name (Relation.TransGen.mono hle name name hcycle)

section

variable {model : Model} {start stop : Assembly} {value : Json}

/-- The given name of a definition is unused, or holds an equal definition from before. -/
theorem Hoisting.isFree_given (hoisting : Hoisting model start.components)
    (hdistinct : (definitionsOf hoisting.schema).keys.Nodup) (hnonrec : NonRecursive hoisting.nested)
    {entry : String × Json} (hentry : entry ∈ hoisting.definitions) {retargeted : Json}
    (hretarget : retarget hoisting.renames entry.2 = .ok retargeted) :
    isFree start.components retargeted (hoisting.given entry.1) = true := by
  have hkeys : (Table.keys hoisting.definitions).Nodup := by
    rw [hoisting.keys_definitions]
    exact hdistinct
  have hfixed := naming_fixed hkeys (hnonrec.nullableEntries hoisting.definitions_eq) hoisting.names_eq
  -- the round that changes nothing has named this very definition
  obtain ⟨renamed, hrenamed, hgiven⟩ := get?_nameAll hkeys hfixed hentry
  rw [show renamedTargets hoisting.names = hoisting.renames from rfl, hretarget, Except.ok.injEq]
    at hrenamed
  subst hrenamed
  rw [Hoisting.given, Naming.given, hgiven, Option.getD_some]
  exact isFree_vacantName start.components retargeted entry.1

/-- **Definitions get lost only by being merged.** After a schema whose definitions are not recursive,
every definition is found under the name it is given exactly when all that are given one unused name
agree with the first of them. -/
theorem component_keeps_iff (hoisting : Hoisting model start.components)
    (hdistinct : (definitionsOf hoisting.schema).keys.Nodup) (hnonrec : NonRecursive hoisting.nested)
    (h : Yields (component model) start value stop) : hoisting.Keeps stop ↔ hoisting.Unmerged := by
  obtain ⟨same, hregister, -⟩ := component_cases h
  obtain rfl : same = hoisting := Subsingleton.elim _ _
  have hgrown : start.components <+: stop.components :=
    grows_of_yields (grows_registerAll _ _ _) hregister
  constructor
  · intro hkeeps entry hentry hunused first hfirst kept retargeted hkept hretarget
    obtain ⟨registered, hregistered, hagrees⟩ := hkeeps entry hentry retargeted hretarget
    obtain ⟨found, hfound, hget⟩ := get?_of_registerAll hregister hunused hfirst
    rw [show renamedTargets same.names = same.renames from rfl, hkept, Except.ok.injEq] at hfound
    rw [hregistered, Option.some.injEq] at hget
    rw [hfound, ← hget]
    exact hagrees
  · intro hunmerged entry hentry retargeted hretarget
    cases hused : start.components.has (same.given entry.1) with
    | true =>
        -- the name was used before, and then it holds an equal definition
        obtain ⟨registered, hregistered⟩ := Option.isSome_iff_exists.1 hused
        have hfree := same.isFree_given hdistinct hnonrec hentry hretarget
        rw [isFree, hregistered] at hfree
        exact ⟨registered, Table.get?_of_grown hgrown hregistered, .inr hfree⟩
    | false =>
        obtain ⟨first, hfirst⟩ : ∃ first, same.claimant (same.given entry.1) = some first := by
          rw [← Option.isSome_iff_exists, Hoisting.claimant, List.find?_isSome]
          exact ⟨entry, hentry, by simp⟩
        obtain ⟨kept, hkept, hget⟩ := get?_of_registerAll hregister hused hfirst
        exact ⟨kept, hget, hunmerged entry hentry hused first hfirst kept retargeted hkept hretarget⟩

end

/-! ## A merge -/

theorem nonRecursive_of_entryRefs {definitions : List (String × Json)}
    (h : entryRefs definitions = []) : NonRecursive definitions := by
  have hnone : ∀ name other, ¬ RefersTo definitions name other := by
    rintro name other ⟨definition, hdefinition, href⟩
    have hmem : refTo other ∈ entryRefs definitions := mem_refs_of_mem hdefinition href
    simp [h] at hmem
  intro name hcycle
  obtain ⟨other, hrefers, -⟩ := Relation.TransGen.head'_iff.1 hcycle
  exact hnone name other hrefers

/-- The schema of a model without fields. -/
def noted (name doc : String) : Json :=
  .obj [("description", .str doc), ("properties", .obj []), ("title", .str name),
    ("type", .str "object")]

/-- The definitions of models without fields. -/
def notedAll (nested : List (String × String)) : List (String × Json) :=
  nested.map fun (name, doc) => (name, noted name doc)

/-- The entries of a schema with a property for each of some models. -/
def holderFields (name : String) (nested : List (String × String)) : List (String × Json) :=
  [("properties", .obj (nested.map fun (model, _) => (model, .obj [("$ref", .str (refTo model))]))),
    ("required", .arr (nested.map fun (model, _) => .str model)), ("title", .str name),
    ("type", .str "object")]

/-- A model with a property for each of some models. -/
def holder (name : String) (nested : List (String × String)) : Model :=
  .given default name (.obj (("$defs", .obj (notedAll nested)) :: holderFields name nested))

/-- The state after a holder of a model `A`. -/
def holding : Assembly := assembled [holder "First" [("A", "one")]] {}

/-- Another `A` is given the name `A2`. -/
def hoistedBeside : Hoisting (holder "Second" [("A", "two")]) holding.components where
  schema := .obj (("$defs", .obj (notedAll [("A", "two")])) :: holderFields "Second" [("A", "two")])
  nested := notedAll [("A", "two")]
  fields := holderFields "Second" [("A", "two")]
  definitions := notedAll [("A", "two")]
  names := [("A", "A2")]
  rendered_eq := rfl
  split_eq := rfl
  definitions_eq := rfl
  names_eq := rfl

/-- Another `A` and an `A2` are both given the name `A2`. -/
def hoistedTogether :
    Hoisting (holder "Second" [("A", "two"), ("A2", "three")]) holding.components where
  schema := .obj (("$defs", .obj (notedAll [("A", "two"), ("A2", "three")]))
    :: holderFields "Second" [("A", "two"), ("A2", "three")])
  nested := notedAll [("A", "two"), ("A2", "three")]
  fields := holderFields "Second" [("A", "two"), ("A2", "three")]
  definitions := notedAll [("A", "two"), ("A2", "three")]
  names := [("A", "A2"), ("A2", "A2")]
  rendered_eq := rfl
  split_eq := rfl
  definitions_eq := rfl
  names_eq := rfl

/-- By itself the other `A` is kept. -/
theorem hoistedBeside_keeps : ∃ value stop,
    Yields (component (holder "Second" [("A", "two")])) holding value stop ∧
      hoistedBeside.Keeps stop := by
  obtain ⟨value, stop, hyields⟩ : ∃ value stop,
      Yields (component (holder "Second" [("A", "two")])) holding value stop := ⟨_, _, rfl⟩
  refine ⟨value, stop, hyields, (component_keeps_iff hoistedBeside (by decide)
    (nonRecursive_of_entryRefs rfl) hyields).2 ?_⟩
  intro entry hentry _ first hfirst kept retargeted hkept hretarget
  -- there is one definition, and it is the first that is given its name
  have hmem : first ∈ hoistedBeside.definitions := List.mem_of_find?_eq_some hfirst
  obtain rfl : entry = ("A", noted "A" "two") := List.mem_singleton.1 hentry
  obtain rfl : first = ("A", noted "A" "two") := List.mem_singleton.1 hmem
  rw [hretarget, Except.ok.injEq] at hkept
  exact .inl hkept.symm

/-- Together with an `A2` it stands for both, and the `A2` is lost. -/
theorem hoistedTogether_merges : NonRecursive hoistedTogether.nested ∧
    ∃ value stop, Yields (component (holder "Second" [("A", "two"), ("A2", "three")])) holding
      value stop ∧ ¬ hoistedTogether.Keeps stop := by
  refine ⟨nonRecursive_of_entryRefs rfl, _, _, rfl, ?_⟩
  intro hkeeps
  obtain ⟨registered, hregistered, hagrees⟩ :=
    hkeeps ("A2", noted "A2" "three") (by simp [hoistedTogether, notedAll]) _ rfl
  obtain rfl : noted "A" "two" = registered := Option.some.inj hregistered
  rcases hagrees with heq | halike
  · simp [noted] at heq
  · revert halike
    decide

end RouteAtlas.OpenApi
