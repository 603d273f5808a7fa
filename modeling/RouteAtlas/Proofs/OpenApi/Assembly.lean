import RouteAtlas.OpenApi.Components
import RouteAtlas.Proofs.OpenApi.References

/-!
# Hoisting the definitions of a schema

One call of `component` renders a schema, names its definitions, registers them and gives the rest of
the schema. `component_cases` says once what a successful call has done; `registerAll_cases` says what
registering leaves in the components. Whether a call succeeds or fails, the components only grow at
their end (`component_grows`), so a component once registered is found unchanged ever after.
-/

set_option autoImplicit false

namespace RouteAtlas.OpenApi

open Schema Step

/-! ## Steps of assembling -/

theorem yields_ofOutcome {α : Type} {outcome : Except Misshape α} {value : α} {start stop : Assembly} :
    Yields (Assemble.ofOutcome outcome) start value stop ↔ outcome = .ok value ∧ stop = start := by
  cases outcome with
  | ok given =>
      rw [Assemble.ofOutcome, yields_pure, Except.ok.injEq]
      exact and_congr_left' eq_comm
  | error misshape => simp [Assemble.ofOutcome, not_yields_throw]

/-- The components after a step extend those before it. -/
def Grows {α : Type} (step : Assemble α) : Prop :=
  ∀ start : Assembly, start.components <+: (final step start).components

theorem grows_pure {α : Type} (value : α) : Grows (pure value) := fun _ => List.prefix_rfl

theorem grows_throw {α : Type} (misshape : Misshape) : Grows (throw misshape : Assemble α) :=
  fun _ => List.prefix_rfl

theorem grows_get : Grows (get : Assemble Assembly) := fun _ => List.prefix_rfl

theorem grows_ofOutcome {α : Type} (outcome : Except Misshape α) :
    Grows (Assemble.ofOutcome outcome) := by
  cases outcome with
  | ok value => exact grows_pure value
  | error misshape => exact grows_throw misshape

theorem grows_bind {α β : Type} {step : Assemble α} {next : α → Assemble β} (hstep : Grows step)
    (hnext : ∀ value, Grows (next value)) : Grows (step >>= next) := by
  intro start
  rcases final_bind step next start with ⟨_, hfinal, -⟩ | ⟨value, -, hfinal⟩
  · rw [hfinal]
    exact hstep start
  · rw [hfinal]
    exact (hstep start).trans (hnext value _)

theorem grows_register (name : String) (definition : Json) :
    Grows (Assemble.register name definition) := by
  intro start
  show start.components <+:
    (if start.components.has name then start
      else { start with components := start.components ++ [(name, definition)] }).components
  split
  · exact List.prefix_rfl
  · exact List.prefix_append _ _

theorem grows_registerAll (owner : String) (names : Naming) (definitions : List (String × Json)) :
    Grows (registerAll owner names definitions) := by
  induction definitions with
  | nil => exact grows_pure ()
  | cons entry rest ih =>
      rcases entry with ⟨name, definition⟩
      have hrest : Grows (do
          let retargeted ← Assemble.ofOutcome (retarget (renamedTargets names) definition)
          Assemble.register ((Table.get? names name).getD name) retargeted
          registerAll owner names rest) := by
        apply grows_bind (grows_ofOutcome _)
        intro retargeted
        exact grows_bind (grows_register _ retargeted) fun _ => ih
      rw [registerAll]
      split
      · -- reporting a new name touches the events alone
        exact grows_bind (fun _ => List.prefix_rfl) fun _ => hrest
      · exact hrest

theorem grows_of_yields {α : Type} {step : Assemble α} (hstep : Grows step) {start stop : Assembly}
    {value : α} (h : Yields step start value stop) : start.components <+: stop.components := by
  rw [← h.final_eq]
  exact hstep start

/-- **A call of `component` keeps every component**, also when it fails. -/
theorem component_grows (model : Model) : Grows (component model) := by
  rw [component]
  apply grows_bind (grows_ofOutcome _)
  rintro ⟨nested, fields⟩
  apply grows_bind (grows_ofOutcome _)
  intro definitions
  apply grows_bind grows_get
  intro assembly
  apply grows_bind (grows_ofOutcome _)
  intro names
  apply grows_bind (grows_registerAll _ _ _)
  intro _
  exact grows_bind (grows_ofOutcome _) fun _ => grows_ofOutcome _

/-- The state after rendering some models one after the other, each time going on with what is there. -/
def assembled (models : List Model) (start : Assembly) : Assembly :=
  models.foldl (fun assembly model => final (component model) assembly) start

theorem assembled_append (earlier later : List Model) (start : Assembly) :
    assembled (earlier ++ later) start = assembled later (assembled earlier start) :=
  List.foldl_append

/-- The components after any models extend those before them. -/
theorem assembled_grows (models : List Model) (start : Assembly) :
    start.components <+: (assembled models start).components := by
  induction models generalizing start with
  | nil => exact List.prefix_rfl
  | cons model rest ih => exact (component_grows model start).trans (ih _)

/-! ## What a successful call has done -/

/-- The parts of a schema on its way into the document: its definitions, resolved, the rest, and the
names of the definitions among the given components. -/
structure Hoisting (model : Model) (components : Table String Json) where
  schema : Json
  nested : List (String × Json)
  fields : List (String × Json)
  definitions : List (String × Json)
  names : Naming
  rendered_eq : rendered model = .ok schema
  split_eq : splitDefinitions schema = .ok (nested, fields)
  definitions_eq : nullableEntries nested = .ok definitions
  names_eq : naming components definitions = .ok names

/-- The component name of a definition. -/
def Naming.given (names : Naming) (name : String) : String := (Table.get? names name).getD name

/-- The component under which a definition is registered. -/
def Hoisting.given {model : Model} {components : Table String Json}
    (hoisting : Hoisting model components) (name : String) : String :=
  hoisting.names.given name

/-- The changes of references that come with a hoisting. -/
def Hoisting.renames {model : Model} {components : Table String Json}
    (hoisting : Hoisting model components) : Table String String :=
  renamedTargets hoisting.names

/-- A successful call of `component`: the definitions are registered under their names, and the rest of
the schema is given with its references renamed. -/
theorem component_cases {model : Model} {start stop : Assembly} {value : Json}
    (h : Yields (component model) start value stop) :
    ∃ hoisting : Hoisting model start.components,
      Yields (registerAll model.name hoisting.names hoisting.definitions) start () stop ∧
      ∃ plain, nullable (.obj hoisting.fields) = .ok plain ∧
        retarget hoisting.renames plain = .ok value := by
  rw [component] at h
  obtain ⟨⟨nested, fields⟩, s₁, y₁, h₁⟩ := yields_bind.1 h
  obtain ⟨hparts, rfl⟩ := yields_ofOutcome.1 y₁
  obtain ⟨definitions, s₂, y₂, h₂⟩ := yields_bind.1 h₁
  obtain ⟨hdefinitions, rfl⟩ := yields_ofOutcome.1 y₂
  obtain ⟨assembly, s₃, hget, h₃⟩ := yields_bind.1 h₂
  cases hget
  obtain ⟨names, s₄, y₄, h₄⟩ := yields_bind.1 h₃
  obtain ⟨hnames, rfl⟩ := yields_ofOutcome.1 y₄
  obtain ⟨_, s₅, hregister, h₅⟩ := yields_bind.1 h₄
  obtain ⟨plain, s₆, y₆, h₆⟩ := yields_bind.1 h₅
  obtain ⟨hplain, rfl⟩ := yields_ofOutcome.1 y₆
  obtain ⟨hvalue, rfl⟩ := yields_ofOutcome.1 h₆
  obtain ⟨schema, hrendered, hsplit⟩ := bind_eq_ok.1 hparts
  exact ⟨⟨schema, nested, fields, definitions, names, hrendered, hsplit, hdefinitions, hnames⟩,
    hregister, plain, hplain, hvalue⟩

/-- The entry of a registered definition. -/
theorem yields_register {name : String} {definition : Json} {start stop : Assembly} :
    Yields (Assemble.register name definition) start () stop ↔
      stop = if start.components.has name then start
        else { start with components := start.components ++ [(name, definition)] } := by
  show (Except.ok (), _) = (Except.ok (), stop) ↔ _
  rw [Prod.mk.injEq]
  exact ⟨fun h => h.2.symm, fun h => ⟨rfl, h.symm⟩⟩

/-- One step of registering: the first definition is registered unless its name is taken, and the
others follow. -/
theorem registerAll_cons {owner name : String} {names : Naming} {definition : Json}
    {rest : List (String × Json)} {start stop : Assembly}
    (h : Yields (registerAll owner names ((name, definition) :: rest)) start () stop) :
    ∃ retargeted middle, retarget (renamedTargets names) definition = .ok retargeted ∧
      middle.components = (if start.components.has (names.given name) then start.components
        else start.components ++ [(names.given name, retargeted)]) ∧
      Yields (registerAll owner names rest) middle () stop := by
  -- whether or not the new name is reported, the components are those of the start
  have hrest : ∃ reported : Assembly, reported.components = start.components ∧
      Yields (do
        let retargeted ← Assemble.ofOutcome (retarget (renamedTargets names) definition)
        Assemble.register (names.given name) retargeted
        registerAll owner names rest) reported () stop := by
    rw [registerAll] at h
    split at h
    · obtain ⟨_, reported, hreport, hrest⟩ := yields_bind.1 h
      have hsame : reported.components = start.components := by
        cases hreport
        rfl
      exact ⟨reported, hsame, hrest⟩
    · exact ⟨start, rfl, h⟩
  obtain ⟨reported, hsame, hrest⟩ := hrest
  obtain ⟨retargeted, s₁, y₁, h₁⟩ := yields_bind.1 hrest
  obtain ⟨hretarget, rfl⟩ := yields_ofOutcome.1 y₁
  obtain ⟨_, middle, hregister, h₂⟩ := yields_bind.1 h₁
  refine ⟨retargeted, middle, hretarget, ?_, h₂⟩
  rw [yields_register.1 hregister, ← hsame]
  split
  · rfl
  · rfl

/-- Every definition has a component under its name when all are registered. -/
theorem has_of_registerAll {owner name : String} {names : Naming} :
    ∀ {definitions : List (String × Json)} {start stop : Assembly},
      Yields (registerAll owner names definitions) start () stop →
        name ∈ Table.keys definitions → stop.components.has (names.given name) = true
  | [], _, _, _, hname => by simp [Table.keys] at hname
  | (first, definition) :: rest, start, stop, h, hname => by
      obtain ⟨retargeted, middle, -, hmiddle, hrest⟩ := registerAll_cons h
      rcases List.mem_cons.1 hname with rfl | hname
      · have hfirst : middle.components.has (names.given name) = true := by
          rw [hmiddle]
          split
          · assumption
          · rw [Table.has_iff_mem_keys]
            simp [Table.keys]
        exact Table.has_of_grown (grows_of_yields (grows_registerAll _ _ _) hrest) hfirst
      · exact has_of_registerAll hrest hname

/-- A component is one from before or a definition with its references renamed. -/
theorem mem_of_registerAll {owner : String} {names : Naming} {entry : String × Json} :
    ∀ {definitions : List (String × Json)} {start stop : Assembly},
      Yields (registerAll owner names definitions) start () stop → entry ∈ stop.components →
        entry ∈ start.components ∨ ∃ definition, definition ∈ definitions ∧
          entry.1 = names.given definition.1 ∧
          retarget (renamedTargets names) definition.2 = .ok entry.2
  | [], start, stop, h, hentry => by
      cases h
      exact .inl hentry
  | (first, definition) :: rest, start, stop, h, hentry => by
      obtain ⟨retargeted, middle, hretarget, hmiddle, hrest⟩ := registerAll_cons h
      rcases mem_of_registerAll hrest hentry with hearlier | ⟨found, hfound, hshape⟩
      · rw [hmiddle] at hearlier
        split at hearlier
        · exact .inl hearlier
        · rcases List.mem_append.1 hearlier with hstart | hnew
          · exact .inl hstart
          · rw [List.mem_singleton] at hnew
            subst hnew
            exact .inr ⟨(first, definition), List.mem_cons_self, rfl, hretarget⟩
      · exact .inr ⟨found, List.mem_cons_of_mem _ hfound, hshape⟩

end RouteAtlas.OpenApi
