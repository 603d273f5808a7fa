import RouteAtlas.CommandLine.Run
import RouteAtlas.Proofs.Generation.Expansion
import RouteAtlas.Proofs.Generation.Loading
import RouteAtlas.Proofs.Middleware.Failures

/-!
# How a run can fail

A run over a reader that gives texts or is refused by the disk, and a provider that answers with models
or finds none, ends with a document or fails in one of few ways. It fails as it foresees, for the main
router file or for a schema; it fails for a custom middleware that names a slot that does not exist or
a field that no model can have; or it is cut off. With custom middlewares that are declared as they
should be, every failure of a run that is not cut off is one that it foresees.
-/

set_option autoImplicit false

namespace RouteAtlas.Router

/-- The reader gives a text for a path, or the disk refuses. -/
def Reads (reader : Reader) : Prop :=
  ∀ path, (∃ text, reader path = .ok text) ∨ ∃ error, reader path = .error (.disk error)

section

variable {reader : Reader}

/-- Where the disk only refuses, the search for a readable path comes to an end. -/
theorem exists_firstReadable (hreader : Reads reader) (paths : List Path) :
    ∃ found, firstReadable reader paths = .ok found := by
  induction paths with
  | nil => exact ⟨none, rfl⟩
  | cons path rest ih =>
      rw [firstReadable, textOf]
      rcases hreader path with ⟨text, htext⟩ | ⟨error, herror⟩
      · rw [htext]
        exact ⟨_, rfl⟩
      · rw [herror]
        exact ih

/-- Seen from a file that can be read, a router is located or it is not to be found. -/
theorem unlocated_of_located (hreader : Reads reader) {schemaSuffix name : Text} {file : Path}
    {code : Text} (hfile : reader file = .ok code) {failure : Failure}
    (h : located reader schemaSuffix name file = .error failure) :
    ∃ router target, failure = .unlocated router target := by
  rw [located, textOf_of_read hfile] at h
  dsimp only [bind, Except.bind] at h
  split at h
  · cases h
  · split at h
    · cases h
      exact ⟨_, _, rfl⟩
    · rw [imported] at h
      split at h
      -- an imported router is looked for in the first file that its module denotes
      · obtain ⟨found, hfound⟩ := exists_firstReadable hreader (moduleEndings.map fun ending =>
          modulePath file.parent (_ ++ ending))
        rw [hfound] at h
        dsimp only [bind, Except.bind] at h
        split at h
        · cases h
          exact ⟨_, _, rfl⟩
        · split at h
          · cases h
            exact ⟨_, _, rfl⟩
          · cases h
      · cases h
        exact ⟨_, _, rfl⟩

/-- A router is located in a file that can be read. -/
theorem read_of_located {schemaSuffix name : Text} {file : Path} {declaration : Declaration}
    (h : located reader schemaSuffix name file = .ok declaration) :
    ∃ code, reader declaration.file = .ok code := by
  obtain ⟨path, code, marker, hread, -, rfl⟩ := exists_definition_of_located h
  exact ⟨code, hread⟩

end

end RouteAtlas.Router

namespace RouteAtlas.Generator

open Text Route Router Middleware Api Schema Step

/-! ## Steps -/

section

variable {reader : Reader} {α β : Type}

/-- A step that answers from the reader and leaves the schemas alone keeps sessions sound. -/
theorem ensures_of_answers {step : Run α} {outcome : Except Failure α}
    (hanswers : Answers reader step outcome) (hspares : Spares step) :
    Ensures (Sound reader) (fun failure => outcome = .error failure) step
      fun value => outcome = .ok value := by
  intro session hsession
  obtain ⟨houtcome, hfaithful, -⟩ := hanswers session hsession.faithful
  obtain ⟨hresolved, hsynthesized, -⟩ := hspares session
  refine ⟨⟨hfaithful, ?_, ?_⟩, ?_, ?_⟩
  · rw [hresolved]
    exact hsession.resolved
  · rw [hsynthesized]
    exact hsession.synthesized
  · intro value hvalue
    exact houtcome.symm.trans hvalue
  · intro failure hfailure
    exact houtcome.symm.trans hfailure

/-- What goes on behind the outcome of a step is run after its value or its failure. -/
theorem ensures_attempt_bind {kept : Session → Prop} {fails wider : Failure → Prop} {gives : α → Prop}
    {last : β → Prop} {step : Run α} {next : Except Failure α → Run β}
    (hstep : Ensures kept fails step gives)
    (hvalue : ∀ value, gives value → Ensures kept wider (next (.ok value)) last)
    (hfailure : ∀ failure, fails failure → Ensures kept wider (next (.error failure)) last) :
    Ensures kept wider (step.attempt >>= next) last := by
  have hattempt : Ensures kept wider step.attempt fun outcome =>
      (∀ value, outcome = .ok value → gives value) ∧
        ∀ failure, outcome = .error failure → fails failure := by
    intro start hstart
    obtain ⟨hstop, hgives, hfails⟩ := hstep start hstart
    refine ⟨hstop, ?_, nofun⟩
    rintro _ ⟨⟩
    exact ⟨hgives, hfails⟩
  apply hattempt.bind
  rintro outcome ⟨hgives, hfails⟩
  cases outcome with
  | ok value => exact hvalue value (hgives value rfl)
  | error failure => exact hfailure failure (hfails failure rfl)

end

/-! ## Runs -/

/-- A failure that ends a run: an explained one, or being cut off. -/
def Ended (setup : Setup) (failure : Failure) : Prop := Explained setup failure ∨ failure = .tooDeep

section

variable {context : Context} (hreader : Reads context.reader) (hprovider : Provides context.provider)

include hprovider in
theorem reliable_visitRoutes (declaration : Declaration) (tag mount : Text) (calls : List Token) :
    Reliable context.reader context.setup (visitRoutes context declaration tag mount calls)
      fun _ => True := by
  induction calls with
  | nil => exact ensures_pure trivial
  | cons token rest ih =>
      rw [visitRoutes]
      apply ensures_attempt_bind (reliable_recordOf hprovider declaration tag mount token)
      · intro record _
        have hregister : Reliable context.reader context.setup (register record) fun _ => True :=
          fun _ h => ⟨h.of_eq rfl rfl rfl, fun _ _ => trivial, fun _ hthrown => by cases hthrown⟩
        exact hregister.bind fun _ _ => ih
      · intro failure hfailure
        have hthrow : Reliable context.reader context.setup (throw failure : Run Unit) fun _ => True :=
          ensures_throw hfailure
        cases failure with
        | structural fault => exact (ensures_report _).bind fun _ _ => ih
        | _ => exact hthrow.bind fun _ _ => ih

include hreader in
/-- The mounts of the main file are found if it can be read. -/
theorem reliable_rootMounts (file : Path) (basePath : String) :
    Reliable context.reader context.setup (rootMounts context file basePath)
      fun _ => ∃ code, context.reader file = .ok code := by
  have hanswers : Answers context.reader (Router.read context.reader file) _ := answers_read file
  have hread := ensures_of_answers hanswers (spares_read file)
  have hmounts : Ensures (Sound context.reader)
      (fun failure => textOf context.reader file = .error failure)
      (mountsIn context.reader file basePath.toList)
      fun _ => ∃ code, context.reader file = .ok code := by
    rw [mountsIn]
    apply hread.bind
    intro code hcode
    exact (ensures_reportAll _).bind fun _ _ => ensures_pure ⟨code, read_of_textOf hcode⟩
  rw [rootMounts]
  apply ensures_attempt_bind hmounts
  · intro mounts hcode
    exact ensures_pure hcode
  · intro failure hfailure
    rw [textOf] at hfailure
    rcases hreader file with ⟨text, htext⟩ | ⟨error, herror⟩
    · rw [htext] at hfailure
      cases hfailure
    · rw [herror] at hfailure
      cases hfailure
      exact ensures_throw (.inl rfl)

/-- The mounts on a router fail as the routers one level below do. -/
theorem ensures_visitMounts {depth : Nat} {origin : Path}
    (hrouter : ∀ name mount names, Ensures (Sound context.reader) (Ended context.setup)
      (visitRouter context depth name mount origin names) fun _ => True)
    (mount : Text) (names : List Text) (list : List Mount) :
    Ensures (Sound context.reader) (Ended context.setup)
      (visitMounts context depth mount origin names list) fun _ => True := by
  induction list with
  | nil =>
      rw [visitMounts]
      exact ensures_pure trivial
  | cons inner rest ih =>
      rw [visitMounts]
      split
      · exact (ensures_report _).bind fun _ _ => ih
      · exact (hrouter _ _ _).bind fun _ _ => ih

include hreader hprovider

/-- **Adding a router fails in an explained way or for depth**, where the file that it is mounted in
can be read. -/
theorem ensures_visitRouter (depth : Nat) {file : Path}
    (hfile : ∃ code, context.reader file = .ok code) (name mount : Text) (names : List Text) :
    Ensures (Sound context.reader) (Ended context.setup)
      (visitRouter context depth name mount file names) fun _ => True := by
  induction depth generalizing name mount file names with
  | zero =>
      rw [visitRouter]
      exact ensures_throw (.inr rfl)
  | succ depth ih =>
      obtain ⟨code, hcode⟩ := hfile
      have hlocate : Answers context.reader
          (locate context.reader context.schemaSuffix.toList name file) _ := answers_locate _ _ _
      rw [visitRouter]
      apply ensures_attempt_bind (ensures_of_answers hlocate (spares_locate _ _ _))
      · intro declaration hlocated
        have hroutes := reliable_visitRoutes hprovider declaration name mount
          (tokens declaration.span (some declaration.name)).tokens
        apply (ensures_report _).bind
        intro _ _
        apply (ensures_reportAll _).bind
        intro _ _
        apply (hroutes.imp (fun _ => .inl) fun _ h => h).bind
        intro _ _
        apply (ensures_reportAll _).bind
        intro _ _
        exact ensures_visitMounts (ih (read_of_located hlocated)) _ _ _
      -- a router that is not to be found is passed over
      · intro failure hlocated
        obtain ⟨router, target, rfl⟩ := unlocated_of_located hreader hcode hlocated
        exact ensures_report _

theorem ensures_visitRoots (depth : Nat) {file : Path}
    (hfile : ∃ code, context.reader file = .ok code) (roots : List Mount) :
    Ensures (Sound context.reader) (Ended context.setup) (visitRoots context depth file roots)
      fun _ => True := by
  induction roots with
  | nil => exact ensures_pure trivial
  | cons root rest ih =>
      rw [visitRoots]
      exact (ensures_visitRouter hreader hprovider depth hfile _ _ _).bind fun _ _ => ih

theorem ensures_generate (depth : Nat) (file : Path) (basePath : String)
    (schemes : List SecurityScheme) :
    Ensures (Sound context.reader) (Ended context.setup)
      (generate context depth file basePath schemes) fun _ => True := by
  have hvisits : ∀ roots, (∃ code, context.reader file = .ok code) →
      Ensures (Sound context.reader) (Ended context.setup) (do
        visitRoots context depth file roots
        pure (← get).document) fun _ => True := by
    intro roots hfile
    apply (ensures_visitRoots hreader hprovider depth hfile roots).bind
    intro _ _
    exact ensures_get.bind fun _ _ => ensures_pure trivial
  rw [generate]
  apply Ensures.bind (ensures_modify fun _ h => h.of_eq rfl rfl rfl)
  intro _ _
  apply ((reliable_rootMounts hreader file basePath).imp (fun _ => .inl) fun _ h => h).bind
  intro roots hfile
  split
  · exact (ensures_report _).bind fun _ _ => hvisits roots hfile
  · exact hvisits roots hfile

end

/-- The custom middlewares of a setup are declared as they should be: a slot that one takes a schema
for exists, and a model can have the fields that it demands. -/
structure IsUsable (setup : Setup) : Prop where
  slot : ∀ custom ∈ setup.customs, ∀ name, custom.schemaSlot = some name →
    name.isEmpty = true ∨ (Slot.ofName? name).isSome = true
  field : ∀ custom ∈ setup.customs, ∀ slot, ∀ name ∈ custom.fields slot, isRefused name = false

theorem IsUsable.not_misused {setup : Setup} (h : IsUsable setup) (failure : Failure) :
    ¬ Misused setup failure := by
  intro hmisused
  cases hmisused with
  | slot hmem hslot hname hunknown =>
      rcases h.slot _ hmem _ hslot with hempty | hsome
      · rw [hname] at hempty
        cases hempty
      · rw [hunknown] at hsome
        cases hsome
  | field hmem hname hrefused =>
      rw [h.field _ hmem _ _ hname] at hrefused
      cases hrefused

/-- **How a run can fail.** Over a reader that gives texts or is refused by the disk and a provider that
answers with models or finds none, a run fails as it foresees, or for a custom middleware that is not
declared as it should be, or it is cut off, and then there is an expansion of the depth it was given.
With custom middlewares that are declared as they should be, a run that is not cut off ends with a
document or with a failure that it foresees, which a command reports with its message and code one. -/
theorem generate_fails_foreseen {context : Context} (hreader : Reads context.reader)
    (hprovider : Provides context.provider) (depth : Nat) (file : Path) (basePath : String)
    (schemes : List SecurityScheme) :
    (∀ failure, (result (generate context depth file basePath schemes) {}).1 = .error failure →
      failure.isForeseen = true ∨ Misused context.setup failure ∨
        failure = .tooDeep ∧ ∃ stack, Expansion context file basePath stack ∧ stack.length = depth) ∧
    (IsUsable context.setup →
      (result (generate context depth file basePath schemes) {}).1 ≠ .error .tooDeep →
      (∃ document, (result (generate context depth file basePath schemes) {}).1 = .ok document) ∨
        ∃ failure, (result (generate context depth file basePath schemes) {}).1 = .error failure ∧
          failure.isForeseen = true ∧ ∀ disk output report,
            CommandLine.failed disk output report failure =
              { exitCode := 1
                output := output
                report := report ++ CommandLine.errorLine failure.message
                disk := disk }) := by
  obtain ⟨-, -, hended⟩ := ensures_generate hreader hprovider depth file basePath schemes {}
    (sound_empty context.reader)
  constructor
  · intro failure hfailure
    rcases hended failure hfailure with (hforeseen | hmisused) | rfl
    · exact .inl hforeseen
    · exact .inr (.inl hmisused)
    · exact .inr (.inr ⟨rfl, exists_expansion_of_tooDeep hfailure⟩)
  · intro husable hshallow
    cases hresult : (result (generate context depth file basePath schemes) {}).1 with
    | ok document => exact .inl ⟨document, rfl⟩
    | error failure =>
        rcases hended failure hresult with (hforeseen | hmisused) | rfl
        · refine .inr ⟨failure, rfl, hforeseen, fun disk output report => ?_⟩
          rw [CommandLine.failed, if_pos hforeseen]
        · exact absurd hmisused (husable.not_misused failure)
        · exact absurd hresult hshallow

/-! ## A schema for a slot -/

/-- A main file whose one route passes a schema to a middleware. -/
def guardedMain : Text :=
  "const r = new Router();\nr.get('/a', auth(s.idParam));\napp.use('/x', r.routes());\n".toList

/-- The schema that is passed. -/
def guardModel : Model :=
  .record (.declared "s" "IdParam") "IdParam" none .ignore [.mk "id" .integer {}]

/-- A run over the main file, with a slot that the middleware takes its schema for. -/
def guardedBy (slot : String) (exports : Table String (Option Model)) : Context where
  reader := fun path =>
    if path = Path.ofString "main.ts" then .ok guardedMain else .error (.disk (.missing path))
  provider := tableProvider exports
  setup := { customs := [{ name := "auth", schemaSlot := some slot }] }

theorem reads_guardedBy (slot : String) (exports : Table String (Option Model)) :
    Reads (guardedBy slot exports).reader := by
  intro path
  by_cases hpath : path = Path.ofString "main.ts"
  · exact .inl ⟨guardedMain, if_pos hpath⟩
  · exact .inr ⟨.missing path, if_neg hpath⟩

/-- The provider of a table of models that have been built. -/
theorem provides_tableProvider {exports : Table String (Option Model)}
    (h : ∀ entry ∈ exports, ∀ model, entry.2 = some model → model.IsBuilt) :
    Provides (tableProvider exports) := by
  intro reference
  simp only [tableProvider]
  split
  · rename_i model hget
    exact .inl ⟨model, rfl, h _ (Table.mem_of_get? hget) model rfl⟩
  · exact .inr ⟨_, rfl⟩
  · exact .inr ⟨_, rfl⟩

theorem guardModel_isBuilt : guardModel.IsBuilt := by
  refine ⟨buildFault?_eq_none_iff.2 ⟨by decide, fun field hfield => ?_⟩, by decide⟩
  rw [List.mem_singleton] at hfield
  subst hfield
  exact ⟨by decide, by decide, by decide, by decide +kernel⟩

/-- The failure of an outcome. -/
def failure? {α : Type} : Except Failure α → Option Failure
  | .error failure => some failure
  | .ok _ => none

theorem eq_error_of_failure? {α : Type} {outcome : Except Failure α} {failure : Failure}
    (h : failure? outcome = some failure) : outcome = .error failure := by
  cases outcome with
  | error found =>
      cases h
      rfl
  | ok value => cases h

theorem generate_guardedBy :
    (result (generate (guardedBy "cookie" [("s.idParam", some guardModel)]) 2
      (Path.ofString "main.ts") "" []) {}).1 = .error (.unknownSlot "cookie") ∧
    (result (generate (guardedBy "header" []) 2 (Path.ofString "main.ts") "" []) {}).1 =
      .error (.unresolved { module := "s", exportName := "idParam", file := none }
        "no export 'idParam'") := by
  rw [← generateBy_resolve, ← generateBy_resolve]
  -- the text is read character by character only once
  unfold guardedBy guardedMain
  rw [String.toList_ofList]
  constructor
  · apply eq_error_of_failure?
    decide +kernel
  · apply eq_error_of_failure?
    decide +kernel

theorem provides_guardModel : Provides (tableProvider [("s.idParam", some guardModel)]) := by
  apply provides_tableProvider
  intro entry hentry model hmodel
  rw [List.mem_singleton] at hentry
  subst hentry
  cases hmodel
  exact guardModel_isBuilt

theorem isUsable_header : IsUsable (guardedBy "header" []).setup := by
  constructor
  · intro custom hcustom name hname
    rw [List.mem_singleton.1 hcustom] at hname
    cases hname
    exact .inr (by decide)
  · intro custom hcustom slot name hname
    rw [List.mem_singleton.1 hcustom] at hname
    cases slot <;> cases hname

/-- A slot that does not exist is to blame where the schema is there, and the schema where it is not. -/
theorem guarded_failures :
    Misused (guardedBy "cookie" [("s.idParam", some guardModel)]).setup (.unknownSlot "cookie") ∧
    ∃ failure, (result (generate (guardedBy "header" []) 2 (Path.ofString "main.ts") "" []) {}).1 =
        .error failure ∧ failure.isForeseen = true ∧
      ∀ disk output report, CommandLine.failed disk output report failure =
        { exitCode := 1
          output := output
          report := report ++ CommandLine.errorLine failure.message
          disk := disk } := by
  obtain ⟨hcookie, hheader⟩ := generate_guardedBy
  constructor
  · rcases (generate_fails_foreseen (reads_guardedBy _ _) provides_guardModel 2
        (Path.ofString "main.ts") "" []).1 _ hcookie with hforeseen | hmisused | ⟨hdeep, -⟩
    · cases hforeseen
    · exact hmisused
    · cases hdeep
  · have hshallow : (result (generate (guardedBy "header" []) 2 (Path.ofString "main.ts") "" [])
        {}).1 ≠ .error .tooDeep := by
      rw [hheader]
      nofun
    rcases (generate_fails_foreseen (reads_guardedBy "header" []) (provides_tableProvider nofun) 2
        (Path.ofString "main.ts") "" []).2 isUsable_header hshallow with ⟨document, hok⟩ | hfailed
    · rw [hheader] at hok
      cases hok
    · exact hfailed

/-- **A failure that is not foreseen.** The reader gives texts and the provider has the schema, but the
setup has a custom middleware for a slot that does not exist. -/
theorem unknown_slot_escapes :
    Reads (guardedBy "cookie" [("s.idParam", some guardModel)]).reader ∧
    Provides (guardedBy "cookie" [("s.idParam", some guardModel)]).provider ∧
    ∃ failure, (result (generate (guardedBy "cookie" [("s.idParam", some guardModel)]) 2
        (Path.ofString "main.ts") "" []) {}).1 = .error failure ∧ failure.isForeseen = false :=
  ⟨reads_guardedBy _ _, provides_guardModel, _, generate_guardedBy.1, rfl⟩

end RouteAtlas.Generator
