import RouteAtlas.Proofs.Canonical.Extraction
import RouteAtlas.Proofs.Middleware.Resolvers
import RouteAtlas.Proofs.Router.Reading
import RouteAtlas.Proofs.Router.Spans
import Mathlib.Logic.Relation

/-!
# Routers being expanded

While a run adds a router it expands the routers that the router is reached through. `Enters` is one
step deeper into the recursion: a mount is followed and its router is located. The stacks of routers
that come about by such steps are the `Expansion`s of a run, and their names are what the run compares
mounts with.

A run that is cut off at some depth has an expansion of that depth (`exists_expansion_of_tooDeep`).
Where routers are located by the name they are defined with, the names of an expansion are distinct
names of definitions, so that an expansion is no deeper than the sources define routers, and the depth
that a run is given does not show (`generate_terminates`).
-/

set_option autoImplicit false

namespace RouteAtlas.Generator

open Text Route Router Middleware Api Schema Step
open Canonical (definitionsIn definitionsIn_toUTF8 definitionCount_eq)

/-! ## Stacks of routers -/

/-- The mounts on a router. -/
def mountsOn (declaration : Declaration) : List Mount :=
  (mounts declaration.span [] (some declaration.name)).mounts

theorem mem_openMounts {declaration : Declaration} {names : List Text} {mount : Mount} :
    mount ∈ openMounts declaration names ↔ mount ∈ mountsOn declaration ∧ mount.router ∉ names := by
  rw [openMounts, List.mem_filter, mountsOn]
  simp

/-- The mounts of the main file, if it can be read. -/
def mainMounts (context : Context) (file : Path) (basePath : String) : List Mount :=
  match textOf context.reader file with
  | .ok code => (mounts code basePath.toList none).mounts
  | .error _ => []

/-- The names of the routers being expanded, outermost first. -/
def namesOf (stack : List Declaration) : List Text := stack.map Declaration.name

@[simp] theorem namesOf_concat (stack : List Declaration) (declaration : Declaration) :
    namesOf (stack ++ [declaration]) = namesOf stack ++ [declaration.name] := by
  simp [namesOf]

/-- The mounts that a run follows while it expands some routers, each with the file it stands in. -/
inductive Follows (context : Context) (file : Path) (basePath : String) :
    List Declaration → Mount → Path → Prop where
  | root {mount : Mount} : mount ∈ mainMounts context file basePath →
      Follows context file basePath [] mount file
  | inner {outer : List Declaration} {current : Declaration} {mount : Mount} :
      mount ∈ openMounts current (namesOf (outer ++ [current])) →
      Follows context file basePath (outer ++ [current]) mount current.file

section

variable {context : Context} {file : Path} {basePath : String} {mount : Mount} {origin : Path}

theorem follows_nil_iff : Follows context file basePath [] mount origin ↔
    mount ∈ mainMounts context file basePath ∧ origin = file := by
  constructor
  · intro h
    generalize hstack : ([] : List Declaration) = stack at h
    cases h with
    | root hmount => exact ⟨hmount, rfl⟩
    | inner _ => simp at hstack
  · rintro ⟨hmount, rfl⟩
    exact .root hmount

theorem follows_concat_iff {outer : List Declaration} {current : Declaration} :
    Follows context file basePath (outer ++ [current]) mount origin ↔
      (mount ∈ mountsOn current ∧ mount.router ∉ namesOf (outer ++ [current])) ∧
        origin = current.file := by
  rw [← mem_openMounts]
  constructor
  · intro h
    generalize hstack : outer ++ [current] = stack at h
    cases h with
    | root _ => simp at hstack
    | inner hmount =>
        obtain ⟨rfl, hcurrent⟩ := List.append_inj' hstack rfl
        cases hcurrent
        exact ⟨hmount, rfl⟩
  · rintro ⟨hmount, rfl⟩
    exact .inner hmount

end

/-- One step deeper: a mount is followed and its router is located. -/
def Enters (context : Context) (file : Path) (basePath : String) (outer stack : List Declaration) :
    Prop :=
  ∃ mount origin declaration, Follows context file basePath outer mount origin ∧
    located context.reader context.schemaSuffix.toList mount.router origin = .ok declaration ∧
    stack = outer ++ [declaration]

/-- The stacks of routers that are expanded in the recursion of a run. -/
def Expansion (context : Context) (file : Path) (basePath : String) (stack : List Declaration) : Prop :=
  Relation.ReflTransGen (Enters context file basePath) [] stack

/-- Two steps into the recursion, by what is located. -/
theorem expansion_pair {context : Context} {file : Path} {basePath : String} {root mount : Mount}
    {first second : Declaration} (hroot : root ∈ mainMounts context file basePath)
    (hfirst : located context.reader context.schemaSuffix.toList root.router file = .ok first)
    (hmount : mount ∈ openMounts first [first.name])
    (hsecond : located context.reader context.schemaSuffix.toList mount.router first.file =
      .ok second) : Expansion context file basePath ([first] ++ [second]) := by
  have hone : Expansion context file basePath ([] ++ [first]) :=
    .tail .refl ⟨root, file, first, .root hroot, hfirst, rfl⟩
  exact hone.tail ⟨mount, first.file, second, .inner hmount, hsecond, rfl⟩

/-! ## Failures other than those of depth -/

theorem shallow_recordOf (context : Context) (declaration : Declaration) (tag mount : Text)
    (token : Token) : Shallow (recordOf context declaration tag mount token) := by
  rw [← recordOfBy_resolve]
  exact (parallel_recordOf (Run.resolve context.provider) (Run.resolve context.provider) context.setup
    declaration tag mount token).shallow (shallow_resolve context.provider)

theorem shallow_register (record : Record) : Shallow (register record) := by
  intro session h
  cases h

theorem shallow_visitRoutes (context : Context) (declaration : Declaration) (tag mount : Text)
    (calls : List Token) : Shallow (visitRoutes context declaration tag mount calls) := by
  induction calls with
  | nil => exact shallow_pure ()
  | cons token rest ih =>
      rw [visitRoutes]
      apply (shallow_recordOf context declaration tag mount token).attempt_bind
      intro outcome houtcome
      cases outcome with
      | ok record => exact (shallow_register record).bind fun _ => ih
      | error failure =>
          cases failure with
          | tooDeep => exact absurd rfl houtcome
          | structural fault => exact (shallow_modify _).bind fun _ => ih
          | _ => exact (shallow_throw (by simp)).bind fun _ => ih

section

variable {reader : Reader}

theorem shallow_read (path : Path) : Shallow (Router.read reader path) := by
  intro session
  rw [result_read]
  cases session.texts.get? path with
  | some text => simp
  | none =>
      cases reader path with
      | ok text => simp
      | error error => simp

/-- Reading does not fail for the depth of mounts. -/
theorem shallow_of_reading {α : Type} {step : Run α} (h : Reading reader step) : Shallow step := by
  induction h with
  | pure value => exact shallow_pure value
  | throw hfailure => exact shallow_throw hfailure
  | reportAll _ => exact shallow_modify _
  | read path => exact shallow_read path
  | bind _ _ hstep hnext => exact hstep.bind hnext
  | catching _ _ _ hstep hnext hrefused =>
      rw [catching]
      apply hstep.attempt_bind
      intro outcome houtcome
      split
      · exact hnext _
      · exact hrefused _
      · apply shallow_throw
        rintro rfl
        exact houtcome rfl

theorem located_ne_tooDeep (schemaSuffix name : Text) (file : Path) :
    located reader schemaSuffix name file ≠ .error .tooDeep := by
  have hlocate : Answers reader (locate reader schemaSuffix name file) _ := answers_locate _ _ _
  obtain ⟨houtcome, -, -⟩ := hlocate {} (faithful_empty reader)
  rw [← houtcome]
  exact shallow_of_reading (reading_locate schemaSuffix name file) {}

end

/-! ## Runs that are cut off -/

section

variable {context : Context} {file : Path} {basePath : String} {start stop : Session}

theorem faithful_of_visitRouter {depth : Nat} {name mount : Text} {origin : Path} {names : List Text}
    (hfaithful : Router.Faithful context.reader start)
    (h : Yields (visitRouter context depth name mount origin names) start () stop) :
    Router.Faithful context.reader stop := by
  obtain ⟨-, -, hlast, -⟩ :=
    traced context depth [] { router := name, path := mount } origin names start stop hfaithful h
  exact hlast

/-- A router that is cut off is located, and the mounts on it are cut off one level below. -/
theorem tooDeep_of_visitRouter {depth : Nat} {name mount : Text} {origin : Path} {names : List Text}
    (hfaithful : Router.Faithful context.reader start)
    (h : (result (visitRouter context (depth + 1) name mount origin names) start).1 =
      .error .tooDeep) :
    ∃ declaration middle,
      located context.reader context.schemaSuffix.toList name origin = .ok declaration ∧
      Router.Faithful context.reader middle ∧
      (result (visitMounts context depth mount declaration.file (names ++ [declaration.name])
        (mountsOn declaration)) middle).1 = .error .tooDeep := by
  rw [visitRouter] at h
  rcases error_bind.1 h with hattempt | ⟨outcome, s₁, hattempt, hnext⟩
  · cases hattempt
  have hlocate : Answers context.reader
      (locate context.reader context.schemaSuffix.toList name origin) _ := answers_locate _ _ _
  obtain ⟨houtcome, hfaithful₁, -⟩ := hlocate.attempt.of_yields hfaithful hattempt
  rw [Except.ok.injEq] at houtcome
  cases outcome with
  | error failure =>
      -- the failure to locate a router is passed over or ends the run as it is
      cases failure with
      | tooDeep => exact absurd houtcome (located_ne_tooDeep _ _ _)
      | _ => cases hnext
  | ok declaration =>
      rcases error_bind.1 hnext with hmounted | ⟨_, s₂, hmounted, hnext⟩
      · cases hmounted
      rcases error_bind.1 hnext with hhalted | ⟨_, s₃, hhalted, hnext⟩
      · cases hhalted
      rcases error_bind.1 hnext with hroutes | ⟨_, s₄, hroutes, hnext⟩
      · exact absurd hroutes (shallow_visitRoutes context declaration name mount _ s₃)
      rcases error_bind.1 hnext with hmalformed | ⟨_, s₅, hmalformed, hmounts⟩
      · cases hmalformed
      obtain ⟨htexts, -⟩ :=
        @followed_of_visitRoutes _ _ _ [] _ { router := name, path := mount } _ hroutes
      cases hmounted
      cases hhalted
      cases hmalformed
      refine ⟨declaration, _, houtcome, ?_, hmounts⟩
      exact faithful_of_texts hfaithful₁ htexts

/-- Mounts that are cut off are so at one of them that is followed. -/
theorem tooDeep_of_visitMounts {depth : Nat} {mount : Text} {origin : Path} {names : List Text}
    {list : List Mount} (hfaithful : Router.Faithful context.reader start)
    (h : (result (visitMounts context depth mount origin names list) start).1 = .error .tooDeep) :
    ∃ inner ∈ list, names.contains inner.router = false ∧ ∃ middle,
      Router.Faithful context.reader middle ∧
      (result (visitRouter context depth inner.router (nestMount mount inner.path) origin names)
        middle).1 = .error .tooDeep := by
  induction list generalizing start with
  | nil =>
      rw [visitMounts] at h
      cases h
  | cons inner rest ih =>
      rw [visitMounts] at h
      split at h
      · rcases error_bind.1 h with hreport | ⟨_, middle, hreport, hnext⟩
        · cases hreport
        · obtain ⟨-, hmiddle, -⟩ := (answers_report _).of_yields hfaithful hreport
          obtain ⟨next, hmem, hfound⟩ := ih hmiddle hnext
          exact ⟨next, List.mem_cons_of_mem _ hmem, hfound⟩
      · rename_i hfresh
        rcases error_bind.1 h with hrouter | ⟨_, middle, hrouter, hnext⟩
        · exact ⟨inner, List.mem_cons_self, by simpa using hfresh, start, hfaithful, hrouter⟩
        · obtain ⟨next, hmem, hfound⟩ := ih (faithful_of_visitRouter hfaithful hrouter) hnext
          exact ⟨next, List.mem_cons_of_mem _ hmem, hfound⟩

theorem tooDeep_of_visitRoots {depth : Nat} {roots : List Mount}
    (hfaithful : Router.Faithful context.reader start)
    (h : (result (visitRoots context depth file roots) start).1 = .error .tooDeep) :
    ∃ root ∈ roots, ∃ middle, Router.Faithful context.reader middle ∧
      (result (visitRouter context depth root.router root.path file []) middle).1 =
        .error .tooDeep := by
  induction roots generalizing start with
  | nil => cases h
  | cons root rest ih =>
      rw [visitRoots] at h
      rcases error_bind.1 h with hrouter | ⟨_, middle, hrouter, hnext⟩
      · exact ⟨root, List.mem_cons_self, start, hfaithful, hrouter⟩
      · obtain ⟨next, hmem, hfound⟩ := ih (faithful_of_visitRouter hfaithful hrouter) hnext
        exact ⟨next, List.mem_cons_of_mem _ hmem, hfound⟩

/-- **A router that is cut off has an expansion of the depth it was given**, below the routers that
are being expanded already. -/
theorem exists_deeper {depth : Nat} {outer : List Declaration} {mount : Mount} {under : Text}
    {origin : Path} (hexpansion : Expansion context file basePath outer)
    (hfollows : Follows context file basePath outer mount origin)
    (hfaithful : Router.Faithful context.reader start)
    (h : (result (visitRouter context depth mount.router under origin (namesOf outer)) start).1 =
      .error .tooDeep) :
    ∃ stack, Expansion context file basePath stack ∧ stack.length = outer.length + depth := by
  induction depth generalizing outer mount under origin start with
  | zero => exact ⟨outer, hexpansion, rfl⟩
  | succ depth ih =>
      obtain ⟨declaration, middle, hlocated, hmiddle, hmounts⟩ := tooDeep_of_visitRouter hfaithful h
      obtain ⟨inner, hinner, hfresh, last, hlast, hrouter⟩ := tooDeep_of_visitMounts hmiddle hmounts
      have hentered : Expansion context file basePath (outer ++ [declaration]) :=
        hexpansion.tail ⟨mount, origin, declaration, hfollows, hlocated, rfl⟩
      rw [← namesOf_concat] at hfresh hrouter
      have hdeeper : Follows context file basePath (outer ++ [declaration]) inner declaration.file :=
        follows_concat_iff.2 ⟨⟨hinner, by simpa using hfresh⟩, rfl⟩
      obtain ⟨stack, hstack, hlength⟩ := ih hentered hdeeper hlast hrouter
      refine ⟨stack, hstack, ?_⟩
      rw [hlength, List.length_append, List.length_singleton]
      omega

/-- **A run that is cut off has an expansion of the depth it was given.** -/
theorem exists_expansion_of_tooDeep {depth : Nat} {schemes : List SecurityScheme}
    (h : (result (generate context depth file basePath schemes) {}).1 = .error .tooDeep) :
    ∃ stack, Expansion context file basePath stack ∧ stack.length = depth := by
  rw [generate] at h
  rcases error_bind.1 h with hschemes | ⟨_, s₁, hschemes, hnext⟩
  · cases hschemes
  have hfaithful₁ : Router.Faithful context.reader s₁ := by
    cases hschemes
    exact faithful_empty context.reader
  rcases error_bind.1 hnext with hroots | ⟨roots, s₂, hroots, hnext⟩
  · exact absurd hroots (shallow_of_reading (reading_rootMounts context file basePath) s₁)
  obtain ⟨code, hcode⟩ := textOf_of_rootMounts hfaithful₁ hroots
  obtain ⟨hmounts, hfaithful₂, -⟩ := (answers_rootMounts hcode).of_yields hfaithful₁ hroots
  rw [Except.ok.injEq] at hmounts
  have hvisit : ∀ {middle : Session}, Router.Faithful context.reader middle →
      (result (do
        visitRoots context depth file roots
        pure (← get).document) middle).1 = .error .tooDeep →
      ∃ stack, Expansion context file basePath stack ∧ stack.length = depth := by
    intro middle hmiddle hdeep
    rcases error_bind.1 hdeep with hvisits | ⟨_, _, -, hlast⟩
    · obtain ⟨root, hroot, last, hlast, hrouter⟩ := tooDeep_of_visitRoots hmiddle hvisits
      have hmain : root ∈ mainMounts context file basePath := by
        simpa only [mainMounts, hcode, hmounts] using hroot
      obtain ⟨stack, hstack, hlength⟩ := exists_deeper .refl (.root hmain) hlast hrouter
      exact ⟨stack, hstack, by simpa using hlength⟩
    · cases hlast
  split at hnext
  · rcases error_bind.1 hnext with hreport | ⟨_, s₃, hreport, hnext⟩
    · cases hreport
    · obtain ⟨-, hfaithful₃, -⟩ := (answers_report _).of_yields hfaithful₂ hreport
      exact hvisit hfaithful₃ hnext
  · exact hvisit hfaithful₂ hnext

end

/-! ## Depths that do not show -/

/-- A step that is given less depth: it is cut off, or it does what the other one does. -/
def Refines {α : Type} (step deeper : Run α) : Prop :=
  ∀ session, (result step session).1 = .error .tooDeep ∨ result deeper session = result step session

section

variable {α β : Type}

theorem refines_refl (step : Run α) : Refines step step := fun _ => .inr rfl

theorem Refines.trans {step deeper deepest : Run α} (h : Refines step deeper)
    (h' : Refines deeper deepest) : Refines step deepest := by
  intro session
  rcases h session with hdeep | hsame
  · exact .inl hdeep
  · rcases h' session with hdeep | hsame'
    · rw [hsame] at hdeep
      exact .inl hdeep
    · exact .inr (hsame'.trans hsame)

theorem Refines.bind {step deeper : Run α} {next next' : α → Run β} (h : Refines step deeper)
    (hnext : ∀ value, Refines (next value) (next' value)) : Refines (step >>= next) (deeper >>= next') := by
  intro session
  rcases h session with hdeep | hsame
  · exact .inl (error_bind.2 (.inl hdeep))
  · rw [result_bind, result_bind, hsame]
    rcases result step session with ⟨outcome, middle⟩
    cases outcome with
    | ok value => exact hnext value middle
    | error failure => exact .inr rfl

theorem refines_visitMounts {context : Context} {depth : Nat}
    (hrouter : ∀ name mount origin names, Refines (visitRouter context depth name mount origin names)
      (visitRouter context (depth + 1) name mount origin names))
    (mount : Text) (origin : Path) (names : List Text) (list : List Mount) :
    Refines (visitMounts context depth mount origin names list)
      (visitMounts context (depth + 1) mount origin names list) := by
  induction list with
  | nil =>
      rw [visitMounts, visitMounts]
      exact refines_refl _
  | cons inner rest ih =>
      rw [visitMounts, visitMounts]
      split
      · exact (refines_refl _).bind fun _ => ih
      · exact (hrouter _ _ _ _).bind fun _ => ih

theorem refines_visitRouter (context : Context) (depth : Nat) (name mount : Text) (origin : Path)
    (names : List Text) :
    Refines (visitRouter context depth name mount origin names)
      (visitRouter context (depth + 1) name mount origin names) := by
  induction depth generalizing name mount origin names with
  | zero =>
      intro session
      rw [visitRouter]
      exact .inl rfl
  | succ depth ih =>
      rw [visitRouter, visitRouter]
      apply (refines_refl _).bind
      intro outcome
      cases outcome with
      | error failure => cases failure <;> exact refines_refl _
      | ok declaration =>
          apply (refines_refl _).bind
          intro _
          apply (refines_refl _).bind
          intro _
          apply (refines_refl _).bind
          intro _
          apply (refines_refl _).bind
          intro _
          exact refines_visitMounts ih _ _ _ _

theorem refines_generate_succ (context : Context) (depth : Nat) (file : Path) (basePath : String)
    (schemes : List SecurityScheme) :
    Refines (generate context depth file basePath schemes)
      (generate context (depth + 1) file basePath schemes) := by
  have hroots : ∀ roots, Refines (visitRoots context depth file roots)
      (visitRoots context (depth + 1) file roots) := by
    intro roots
    induction roots with
    | nil => exact refines_refl _
    | cons root rest ih =>
        rw [visitRoots, visitRoots]
        exact (refines_visitRouter context depth _ _ _ _).bind fun _ => ih
  rw [generate, generate]
  apply (refines_refl _).bind
  intro _
  apply (refines_refl _).bind
  intro roots
  split
  · exact (refines_refl _).bind fun _ => (hroots roots).bind fun _ => refines_refl _
  · exact (hroots roots).bind fun _ => refines_refl _

/-- **More depth changes nothing** for a run that is not cut off. -/
theorem refines_generate (context : Context) {depth deeper : Nat} (h : depth ≤ deeper) (file : Path)
    (basePath : String) (schemes : List SecurityScheme) :
    Refines (generate context depth file basePath schemes)
      (generate context deeper file basePath schemes) := by
  induction h with
  | refl => exact refines_refl _
  | step _ ih => exact ih.trans (refines_generate_succ context _ file basePath schemes)

end

/-! ## Names of definitions -/

/-- The names of the routers that the files of a disk define. -/
def definedNames (disk : Disk) : List Text :=
  (disk.files.flatMap fun entry => definitionsIn entry.2).map Marker.name

/-- Routers are located by the name they are defined with. -/
def LocatesByName (context : Context) : Prop :=
  ∀ name file declaration stop,
    Yields (locate context.reader context.schemaSuffix.toList name file) {} declaration stop →
    declaration.name = name

theorem LocatesByName.name_eq {context : Context} (h : LocatesByName context) {name : Text}
    {file : Path} {declaration : Declaration}
    (hlocated : located context.reader context.schemaSuffix.toList name file = .ok declaration) :
    declaration.name = name := by
  have hlocate : Answers context.reader
      (locate context.reader context.schemaSuffix.toList name file) _ := answers_locate _ _ _
  rw [hlocated] at hlocate
  obtain ⟨stop, hyields, -, -⟩ := hlocate.yields (faithful_empty context.reader)
  exact h name file declaration stop hyields

theorem mem_definedNames {disk : Disk} {schemaSuffix name : Text} {file : Path}
    {declaration : Declaration} (h : located disk.read schemaSuffix name file = .ok declaration) :
    declaration.name ∈ definedNames disk := by
  obtain ⟨path, code, marker, hread, hdefinition, rfl⟩ := exists_definition_of_located h
  obtain ⟨entry, hentry, hdecode⟩ := Disk.mem_of_read hread
  rw [definedNames, List.mem_map]
  refine ⟨marker, ?_, rfl⟩
  rw [List.mem_flatMap]
  refine ⟨entry, hentry, ?_⟩
  rw [definitionsIn, hdecode]
  exact mem_markers_of_definition? hdefinition

/-- An import binds a name to what has that name, or to a whole module. -/
def KeepsName (binding : Binding) : Prop :=
  binding.imported ≠ defaultName ∧
    (binding.imported = wholeModule ∨ binding.imported = binding.localName)

instance (binding : Binding) : Decidable (KeepsName binding) :=
  inferInstanceAs (Decidable (_ ∧ _))

/-- **Routers are located by their names where no import renames**: a binding that keeps its name leads
to a definition of that name. -/
theorem locatesByName_of_bindings {context : Context}
    (h : ∀ path code, context.reader path = .ok code →
      ∀ binding ∈ bindings code, KeepsName binding) : LocatesByName context := by
  intro name file declaration stop hyields
  obtain ⟨hlocated, -, -⟩ := (answers_locate context.schemaSuffix.toList name file).of_yields
    (faithful_empty context.reader) hyields
  rw [located] at hlocated
  obtain ⟨code, hcode, hfound⟩ := bind_eq_ok.1 hlocated
  split at hfound
  · rename_i marker hmarker
    cases hfound
    exact name_of_definition? hmarker
  · split at hfound
    · cases hfound
    · rename_i binding hbinding
      have hlocal : binding.localName = name := by simpa using List.find?_some hbinding
      obtain ⟨hdefault, hkeeps⟩ :=
        h file code (read_of_textOf hcode) binding (List.mem_of_find?_eq_some hbinding)
      rw [imported] at hfound
      split at hfound
      · obtain ⟨found, -, hfound⟩ := bind_eq_ok.1 hfound
        split at hfound
        · cases hfound
        · split at hfound
          · cases hfound
          · rename_i marker hmarker
            cases hfound
            -- both ways to keep a name look for the name itself
            have htarget : (if binding.imported = defaultName || binding.imported = wholeModule
                then name else binding.imported) = name := by
              rcases hkeeps with hwhole | hsame
              · simp [hwhole]
              · simp [hsame, hlocal]
            rw [importedDefinition?] at hmarker
            simp only [htarget, if_neg hdefault] at hmarker
            split at hmarker
            · rename_i found hfound
              cases hmarker
              exact name_of_definition? hfound
            · cases hmarker
      · cases hfound

/-! ## Expansions end -/

section

variable {context : Context} {disk : Disk} {file : Path} {basePath : String}

/-- A mount of a router that is being expanded is not followed. -/
theorem Follows.not_mem {outer : List Declaration} {mount : Mount} {origin : Path}
    (h : Follows context file basePath outer mount origin) : mount.router ∉ namesOf outer := by
  cases h with
  | root _ => exact List.not_mem_nil
  | inner hopen => exact (mem_openMounts.1 hopen).2

/-- **The names of an expansion are distinct**: the router that is entered has the name it is mounted
by, which is none of those being expanded. -/
theorem Expansion.nodup (hnamed : LocatesByName context) {stack : List Declaration}
    (h : Expansion context file basePath stack) : (namesOf stack).Nodup := by
  induction h with
  | refl => exact List.nodup_nil
  | tail _ hstep ih =>
      obtain ⟨mount, origin, declaration, hfollows, hlocated, rfl⟩ := hstep
      rw [namesOf_concat, hnamed.name_eq hlocated, ← List.concat_eq_append]
      exact List.Nodup.concat hfollows.not_mem ih

/-- The routers of an expansion are defined in the files of the disk. -/
theorem Expansion.defined (hdisk : context.reader = disk.read) {stack : List Declaration}
    (h : Expansion context file basePath stack) : namesOf stack ⊆ definedNames disk := by
  induction h with
  | refl => exact List.nil_subset _
  | tail _ hstep ih =>
      obtain ⟨mount, origin, declaration, -, hlocated, rfl⟩ := hstep
      rw [hdisk] at hlocated
      rw [namesOf_concat]
      apply List.append_subset.2
      refine ⟨ih, ?_⟩
      intro name hname
      rw [List.mem_singleton] at hname
      exact hname ▸ mem_definedNames hlocated

theorem Expansion.length_le (hdisk : context.reader = disk.read) (hnamed : LocatesByName context)
    {stack : List Declaration} (h : Expansion context file basePath stack) :
    stack.length ≤ definitionCount disk := by
  have hlength := ((h.nodup hnamed).subperm (h.defined hdisk)).length_le
  rwa [namesOf, List.length_map, definedNames, List.length_map, ← definitionCount_eq] at hlength

theorem definitionCount_lt_depthFor (disk : Disk) : definitionCount disk < depthFor disk :=
  Nat.le_mul_of_pos_right _ (Nat.succ_pos _)

/-- **Generation terminates on cyclic mounts.** Over the files of a disk in which routers are located
by the name they are defined with, the routers being expanded always have distinct names, all of them
names of routers that the files define. A run that is cut off at some depth would have an expansion of
that depth, so that no run is cut off which is given more depth than there are definitions: from there
on the depth does not show, and the one chosen for the disk is such a depth. -/
theorem generate_terminates (hdisk : context.reader = disk.read) (hnamed : LocatesByName context)
    (file : Path) (basePath : String) (schemes : List SecurityScheme) :
    (∀ stack, Expansion context file basePath stack →
      (namesOf stack).Nodup ∧ namesOf stack ⊆ definedNames disk) ∧
    (∀ depth, (result (generate context depth file basePath schemes) {}).1 = .error .tooDeep →
      ∃ stack, Expansion context file basePath stack ∧ stack.length = depth) ∧
    ∀ depth, definitionCount disk < depth →
      (result (generate context depth file basePath schemes) {}).1 ≠ .error .tooDeep ∧
      result (generate context depth file basePath schemes) {} =
        result (generate context (depthFor disk) file basePath schemes) {} := by
  have hshallow : ∀ depth, definitionCount disk < depth →
      (result (generate context depth file basePath schemes) {}).1 ≠ .error .tooDeep := by
    intro depth hdepth hdeep
    obtain ⟨stack, hstack, hlength⟩ := exists_expansion_of_tooDeep hdeep
    have hle := hstack.length_le hdisk hnamed
    omega
  refine ⟨fun stack hstack => ⟨hstack.nodup hnamed, hstack.defined hdisk⟩,
    fun depth => exists_expansion_of_tooDeep, ?_⟩
  intro depth hdepth
  refine ⟨hshallow depth hdepth, ?_⟩
  -- both runs do what the run with the least depth does that is enough
  have hleast : ∀ deeper, definitionCount disk < deeper →
      result (generate context deeper file basePath schemes) {} =
        result (generate context (definitionCount disk + 1) file basePath schemes) {} := by
    intro deeper hdeeper
    rcases refines_generate context hdeeper file basePath schemes {} with hdeep | hsame
    · exact absurd hdeep (hshallow _ (Nat.lt_succ_self _))
    · exact hsame
  rw [hleast depth hdepth, hleast (depthFor disk) (definitionCount_lt_depthFor disk)]

end

/-! ## Two routers that mount each other -/

/-- A disk with a router that mounts itself and another one, which mounts the first one again. -/
def ringDisk : Disk where
  files :=
    [(["main.ts".toList], "import { a } from './a';\napp.use('/', a.routes());\n".toUTF8),
     (["a.ts".toList], ("import { b } from './b';\nconst a = new Router();\n" ++
        "a.use('/', a.routes());\na.use('/', b.routes());\n").toUTF8),
     (["b.ts".toList], ("import { a } from './a';\nconst b = new Router();\n" ++
        "b.use('/', a.routes());\n").toUTF8)]
  folders := []

/-- A run over the disk without schemas. -/
def ringContext : Context where
  reader := ringDisk.read
  provider := tableProvider []

theorem ringDisk_spec : definitionCount ringDisk < 3 ∧
    ∀ entry ∈ ringDisk.files, ∀ code ∈ (Disk.decode entry.2).toOption.toList,
      ∀ binding ∈ bindings code, KeepsName binding := by
  -- the texts are read character by character only once
  constructor
  · rw [definitionCount_eq, ringDisk]
    simp only [List.flatMap_cons, List.flatMap_nil, definitionsIn_toUTF8, String.toList_append]
    repeat rw [String.toList_ofList]
    decide +kernel
  · rw [ringDisk]
    simp only [List.forall_mem_cons, Disk.decode_toUTF8, String.toList_append]
    repeat rw [String.toList_ofList]
    decide +kernel

theorem ringContext_locatesByName : LocatesByName ringContext := by
  apply locatesByName_of_bindings
  intro path code hread binding hbinding
  obtain ⟨entry, hentry, hdecode⟩ := Disk.mem_of_read hread
  exact ringDisk_spec.2 entry hentry code (by simp [hdecode, Except.toOption]) binding hbinding

/-- While the second router is expanded, the first one is as well, and a mount leads back to it. -/
theorem exists_ring : ∃ first second mount again,
    Expansion ringContext (Path.ofString "main.ts") "" ([first] ++ [second]) ∧
      namesOf ([first] ++ [second]) = ["a".toList, "b".toList] ∧ mount ∈ mountsOn second ∧
      located ringContext.reader ringContext.schemaSuffix.toList mount.router second.file = .ok again ∧
      first.file = again.file ∧ first.name = again.name := by
  have hring : ∃ root ∈ mainMounts ringContext (Path.ofString "main.ts") "",
      ∃ first ∈ (located ringContext.reader ringContext.schemaSuffix.toList root.router
        (Path.ofString "main.ts")).toOption.toList,
      ∃ below ∈ openMounts first [first.name],
      ∃ second ∈ (located ringContext.reader ringContext.schemaSuffix.toList below.router
        first.file).toOption.toList,
      namesOf ([first] ++ [second]) = ["a".toList, "b".toList] ∧ ∃ mount ∈ mountsOn second,
      ∃ again ∈ (located ringContext.reader ringContext.schemaSuffix.toList mount.router
        second.file).toOption.toList, first.file = again.file ∧ first.name = again.name := by
    decide +kernel
  obtain ⟨root, hroot, first, hfirst, below, hbelow, second, hsecond, hnames, mount, hmount, again,
    hagain, hsame⟩ := hring
  exact ⟨first, second, mount, again, expansion_pair hroot (eq_ok_of_mem_toOption hfirst) hbelow
    (eq_ok_of_mem_toOption hsecond), hnames, hmount, eq_ok_of_mem_toOption hagain, hsame⟩

/-- The run over the ring is not cut off: three levels are enough for two definitions. -/
theorem ring_terminates :
    (∃ stack, Expansion ringContext (Path.ofString "main.ts") "" stack ∧
      namesOf stack = ["a".toList, "b".toList] ∧ (namesOf stack).Nodup ∧
      namesOf stack ⊆ definedNames ringDisk) ∧
    definitionCount ringDisk < 3 ∧
    (result (generate ringContext 3 (Path.ofString "main.ts") "" []) {}).1 ≠ .error .tooDeep ∧
    result (generate ringContext 3 (Path.ofString "main.ts") "" []) {} =
      result (generate ringContext (depthFor ringDisk) (Path.ofString "main.ts") "" []) {} := by
  obtain ⟨hnames, -, hdepth⟩ := @generate_terminates ringContext ringDisk rfl
    ringContext_locatesByName (Path.ofString "main.ts") "" []
  have hcount : definitionCount ringDisk < 3 := ringDisk_spec.1
  obtain ⟨first, second, -, -, hstack, hring, -⟩ := exists_ring
  exact ⟨⟨_, hstack, hring, hnames _ hstack⟩, hcount, hdepth 3 hcount⟩

end RouteAtlas.Generator
