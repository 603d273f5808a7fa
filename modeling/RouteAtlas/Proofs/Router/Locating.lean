import RouteAtlas.Proofs.Step
import RouteAtlas.Proofs.Table
import RouteAtlas.Router.Locator

/-!
# Locating routers without a state

A run reads texts through a reader and keeps what it has read. As long as every text it keeps is the
one the reader gives, what a step reads does not depend on what was read before: `Answers` says that a
step gives a fixed outcome in every such session, stays within them and leaves the document alone.
Locating a router is such a step, and `located` is its outcome.
-/

set_option autoImplicit false

namespace RouteAtlas.Router

open Text Step

/-- Every text kept in a session is the one the reader gives. -/
def Faithful (reader : Reader) (session : Session) : Prop :=
  ∀ path text, session.texts.get? path = some text → reader path = .ok text

theorem faithful_empty (reader : Reader) : Faithful reader {} := by
  intro path text h
  simp [Table.get?] at h

/-- A step gives one outcome in all faithful sessions, keeps them faithful and leaves the document
alone. -/
def Answers (reader : Reader) {α : Type} (step : Run α) (outcome : Except Failure α) : Prop :=
  ∀ session, Faithful reader session →
    (result step session).1 = outcome ∧ Faithful reader (final step session) ∧
      (final step session).document = session.document

section

variable {reader : Reader} {α β : Type}

theorem answers_pure (value : α) : Answers reader (pure value : Run α) (.ok value) :=
  fun _ h => ⟨rfl, h, rfl⟩

theorem answers_throw (failure : Failure) : Answers reader (throw failure : Run α) (.error failure) :=
  fun _ h => ⟨rfl, h, rfl⟩

theorem answers_report (event : Event) : Answers reader (Run.report event) (.ok ()) :=
  fun _ h => ⟨rfl, h, rfl⟩

theorem answers_reportAll (events : List Event) : Answers reader (Run.reportAll events) (.ok ()) :=
  fun _ h => ⟨rfl, h, rfl⟩

/-- A step that goes on behind a value answers as what follows does. -/
theorem Answers.bind {step : Run α} {next : α → Run β} {value : α} {outcome : Except Failure β}
    (hstep : Answers reader step (.ok value)) (hnext : Answers reader (next value) outcome) :
    Answers reader (step >>= next) outcome := by
  intro session hfaithful
  obtain ⟨hvalue, hmiddle, hdocument⟩ := hstep session hfaithful
  rw [final, result_bind]
  rcases hresult : result step session with ⟨given, middle⟩
  simp only [final, hresult] at hvalue hmiddle hdocument
  subst hvalue
  obtain ⟨houtcome, hlast, hkept⟩ := hnext middle hmiddle
  exact ⟨houtcome, hlast, hkept.trans hdocument⟩

theorem Answers.bind_error {step : Run α} {next : α → Run β} {failure : Failure}
    (hstep : Answers reader step (.error failure)) :
    Answers reader (step >>= next) (.error failure) := by
  intro session hfaithful
  obtain ⟨hfailure, hmiddle, hdocument⟩ := hstep session hfaithful
  rw [final, result_bind]
  rcases hresult : result step session with ⟨given, middle⟩
  simp only [final, hresult] at hfailure hmiddle hdocument
  subst hfailure
  exact ⟨rfl, hmiddle, hdocument⟩

theorem Answers.attempt {step : Run α} {outcome : Except Failure α}
    (hstep : Answers reader step outcome) : Answers reader step.attempt (.ok outcome) := by
  intro session hfaithful
  obtain ⟨houtcome, hlast, hdocument⟩ := hstep session hfaithful
  exact ⟨congrArg Except.ok houtcome, hlast, hdocument⟩

/-- An answer that is a value is given by a successful step. -/
theorem Answers.yields {step : Run α} {value : α} (hstep : Answers reader step (.ok value))
    {session : Session} (hfaithful : Faithful reader session) :
    ∃ stop, Yields step session value stop ∧ Faithful reader stop ∧
      stop.document = session.document := by
  obtain ⟨houtcome, hlast, hdocument⟩ := hstep session hfaithful
  exact ⟨final step session, Prod.ext houtcome rfl, hlast, hdocument⟩

/-- A successful step has given its answer. -/
theorem Answers.of_yields {step : Run α} {outcome : Except Failure α}
    (hstep : Answers reader step outcome) {session stop : Session} {value : α}
    (hfaithful : Faithful reader session) (h : Yields step session value stop) :
    outcome = .ok value ∧ Faithful reader stop ∧ stop.document = session.document := by
  obtain ⟨houtcome, hlast, hdocument⟩ := hstep session hfaithful
  rw [h.final_eq] at hlast hdocument
  rw [h] at houtcome
  exact ⟨houtcome.symm, hlast, hdocument⟩

/-! ## Reading -/

/-- The text of a file as a run sees it. -/
def textOf (reader : Reader) (path : Path) : Except Failure Text := (reader path).mapError .reading

theorem textOf_of_read {path : Path} {code : Text} (h : reader path = .ok code) :
    textOf reader path = .ok code := by
  rw [textOf, h]
  rfl

/-- A text is asked for once; afterwards the session answers. -/
theorem result_read (reader : Reader) (path : Path) (session : Session) :
    result (read reader path) session =
      match session.texts.get? path with
      | some text => (.ok text, session)
      | none =>
          match reader path with
          | .ok text => (.ok text, { session with
              requests := session.requests ++ [path]
              texts := session.texts.put path text })
          | .error error =>
              (.error (.reading error), { session with requests := session.requests ++ [path] }) := by
  simp only [read, result_bind, result_get]
  cases session.texts.get? path with
  | some text => rfl
  | none =>
      simp only [result_bind, result_modify]
      cases reader path with
      | ok text => rfl
      | error error => rfl

theorem answers_read (path : Path) : Answers reader (read reader path) (textOf reader path) := by
  intro session hfaithful
  rw [final, result_read]
  cases hkept : session.texts.get? path with
  | some text => exact ⟨(textOf_of_read (hfaithful path text hkept)).symm, hfaithful, rfl⟩
  | none =>
      cases hread : reader path with
      | error error => exact ⟨by rw [textOf, hread]; rfl, hfaithful, rfl⟩
      | ok text =>
          refine ⟨(textOf_of_read hread).symm, ?_, rfl⟩
          -- the text that is now kept is the one just read
          intro other kept hother
          have hput : (session.texts.put path text).get? other = some kept := hother
          by_cases hsame : other = path
          · subst hsame
            rw [Table.get?_put_self, Option.some.injEq] at hput
            rw [hread, hput]
          · rw [Table.get?_put_of_ne _ _ hsame] at hput
            exact hfaithful other kept hput

end

/-- The first of some paths that can be read, and its text. -/
def firstReadable (reader : Reader) : List Path → Except Failure (Option (Path × Text))
  | [] => .ok none
  | path :: rest =>
      match textOf reader path with
      | .ok text => .ok (some (path, text))
      | .error (.reading (.disk _)) => firstReadable reader rest
      | .error failure => .error failure

theorem answers_readFirst {reader : Reader} (paths : List Path) :
    Answers reader (readFirst reader paths) (firstReadable reader paths) := by
  induction paths with
  | nil => exact answers_pure none
  | cons path rest ih =>
      rw [readFirst, firstReadable]
      refine (answers_read path).attempt.bind ?_
      rw [textOf]
      cases reader path with
      | ok text => exact answers_pure _
      | error error =>
          cases error with
          | disk error => exact ih
          | path text => exact answers_throw _
          | undecodable => exact answers_throw _

theorem read_of_textOf {reader : Reader} {path : Path} {code : Text}
    (h : textOf reader path = .ok code) : reader path = .ok code := by
  rw [textOf] at h
  cases hread : reader path with
  | ok text =>
      rw [hread] at h
      cases h
      rfl
  | error error =>
      rw [hread] at h
      cases h

theorem read_of_firstReadable {reader : Reader} {paths : List Path} {target : Path} {code : Text}
    (h : firstReadable reader paths = .ok (some (target, code))) : reader target = .ok code := by
  induction paths with
  | nil => cases h
  | cons path rest ih =>
      rw [firstReadable] at h
      split at h
      · rename_i text htext
        cases h
        exact read_of_textOf htext
      · exact ih h
      · cases h

/-! ## Locating -/

/-- The declaration of a router in the file that a binding of its name leads to. -/
def imported (reader : Reader) (schemaSuffix name : Text) (file : Path) (binding : Binding) :
    Except Failure Declaration :=
  if isRelative binding.module then do
    match ← firstReadable reader (moduleEndings.map fun ending =>
        modulePath file.parent (binding.module ++ ending)) with
    | none => .error (.unlocated name file)
    | some (target, code) =>
        match importedDefinition? code name binding with
        | none => .error (.unlocated name target)
        | some marker => .ok (sourceOf schemaSuffix code target marker)
  else .error (.unlocated name file)

/-- The declaration of a router as seen from a file: the outcome of locating it. -/
def located (reader : Reader) (schemaSuffix name : Text) (file : Path) : Except Failure Declaration := do
  let code ← textOf reader file
  match definition? code name with
  | some marker => .ok (sourceOf schemaSuffix code file marker)
  | none =>
      match (bindings code).find? fun binding => binding.localName == name with
      | none => .error (.unlocated name file)
      | some binding => imported reader schemaSuffix name file binding

/-- A router that the file itself defines is located there. -/
theorem located_of_definition? {reader : Reader} {schemaSuffix name : Text} {file : Path} {code : Text}
    {marker : Marker} (hread : reader file = .ok code) (hmarker : definition? code name = some marker) :
    located reader schemaSuffix name file = .ok (sourceOf schemaSuffix code file marker) := by
  rw [located, textOf_of_read hread]
  simp only [bind, Except.bind, hmarker]

/-- A file sees a name through an import: it does not define a router of that name, its first binding of
the name is the given one, and the module of the binding is a relative one that can be read. -/
structure SeesThrough (reader : Reader) (name : Text) (file : Path) (binding : Binding) (target : Path)
    (code : Text) : Prop where
  binds : ∃ own, reader file = .ok own ∧ definition? own name = none ∧
    (bindings own).find? (fun binding => binding.localName == name) = some binding
  relative : isRelative binding.module = true
  readable : firstReadable reader (moduleEndings.map fun ending =>
    modulePath file.parent (binding.module ++ ending)) = .ok (some (target, code))

/-- **What a name stands for is looked up in the module it is imported from.** -/
theorem SeesThrough.located_eq {reader : Reader} {schemaSuffix name : Text} {file target : Path}
    {binding : Binding} {code : Text} {marker : Marker}
    (h : SeesThrough reader name file binding target code)
    (hmarker : importedDefinition? code name binding = some marker) :
    located reader schemaSuffix name file = .ok (sourceOf schemaSuffix code target marker) := by
  obtain ⟨own, hown, hnone, hfirst⟩ := h.binds
  rw [located, textOf_of_read hown]
  simp only [bind, Except.bind, hnone, hfirst]
  rw [imported, if_pos h.relative, h.readable]
  simp only [bind, Except.bind, hmarker]

theorem answers_imported {reader : Reader} (schemaSuffix name : Text) (file : Path)
    (binding : Binding) :
    Answers reader (if isRelative binding.module then do
      match ← readSpecified reader file.parent binding.module with
      | none => throw (.unlocated name file)
      | some (target, targetCode) =>
          match importedDefinition? targetCode name binding with
          | none => throw (.unlocated name target)
          | some marker => do
              Run.report (.routerFound name target)
              pure (sourceOf schemaSuffix targetCode target marker)
      else throw (.unlocated name file)) (imported reader schemaSuffix name file binding) := by
  rw [imported]
  split
  · have hfirst : Answers reader (readSpecified reader file.parent binding.module) _ :=
      answers_readFirst _
    cases hfound : firstReadable reader (moduleEndings.map fun ending =>
        modulePath file.parent (binding.module ++ ending)) with
    | error failure =>
        rw [hfound] at hfirst
        exact hfirst.bind_error
    | ok found =>
        rw [hfound] at hfirst
        refine hfirst.bind ?_
        cases found with
        | none => exact answers_throw _
        | some pair =>
            rcases pair with ⟨target, code⟩
            show Answers reader (match importedDefinition? code name binding with
              | none => _
              | some marker => _) (match importedDefinition? code name binding with
              | none => _
              | some marker => _)
            cases importedDefinition? code name binding with
            | none => exact answers_throw _
            | some marker => exact (answers_report _).bind (answers_pure _)
  · exact answers_throw _

/-- **Locating a router answers with `located`.** -/
theorem answers_locate {reader : Reader} (schemaSuffix name : Text) (file : Path) :
    Answers reader (locate reader schemaSuffix name file)
      (located reader schemaSuffix name file) := by
  rw [locate, located]
  have hread : Answers reader (read reader file) _ := answers_read file
  cases hcode : textOf reader file with
  | error failure =>
      rw [hcode] at hread
      exact hread.bind_error
  | ok code =>
      rw [hcode] at hread
      refine hread.bind ?_
      show Answers reader _ (match definition? code name with
        | some marker => .ok (sourceOf schemaSuffix code file marker)
        | none => _)
      cases definition? code name with
      | some marker => exact answers_pure _
      | none =>
          show Answers reader _ (match (bindings code).find? fun binding => binding.localName == name with
            | none => _
            | some binding => imported reader schemaSuffix name file binding)
          cases (bindings code).find? fun binding => binding.localName == name with
          | none => exact answers_throw _
          | some binding => exact answers_imported schemaSuffix name file binding

/-! ## What locating leaves alone -/

/-- A step leaves alone what a session keeps of schemas. -/
def Spares {α : Type} (step : Run α) : Prop :=
  ∀ session, (final step session).resolved = session.resolved ∧
    (final step session).synthesized = session.synthesized ∧
    (final step session).serial = session.serial

section

variable {reader : Reader} {α β : Type}

theorem spares_pure (value : α) : Spares (pure value : Run α) := fun _ => ⟨rfl, rfl, rfl⟩

theorem spares_throw (failure : Failure) : Spares (throw failure : Run α) := fun _ => ⟨rfl, rfl, rfl⟩

theorem Spares.bind {step : Run α} {next : α → Run β} (hstep : Spares step)
    (hnext : ∀ value, Spares (next value)) : Spares (step >>= next) := by
  intro session
  obtain ⟨hresolved, hsynthesized, hserial⟩ := hstep session
  rcases final_bind step next session with ⟨failure, hfinal, -⟩ | ⟨value, -, hfinal⟩
  · rw [hfinal]
    exact ⟨hresolved, hsynthesized, hserial⟩
  · obtain ⟨hresolved', hsynthesized', hserial'⟩ := hnext value (final step session)
    rw [hfinal]
    exact ⟨hresolved'.trans hresolved, hsynthesized'.trans hsynthesized, hserial'.trans hserial⟩

theorem Spares.attempt {step : Run α} (hstep : Spares step) : Spares step.attempt := hstep

theorem spares_read (path : Path) : Spares (read reader path) := by
  intro session
  rw [final, result_read]
  cases session.texts.get? path with
  | some text => exact ⟨rfl, rfl, rfl⟩
  | none =>
      cases reader path with
      | ok text => exact ⟨rfl, rfl, rfl⟩
      | error error => exact ⟨rfl, rfl, rfl⟩

theorem spares_readFirst (paths : List Path) : Spares (readFirst reader paths) := by
  induction paths with
  | nil => exact spares_pure none
  | cons path rest ih =>
      rw [readFirst]
      refine (spares_read path).attempt.bind fun outcome => ?_
      split
      · exact spares_pure _
      · exact ih
      · exact spares_throw _

/-- Locating a router leaves the schemas alone. -/
theorem spares_locate (schemaSuffix name : Text) (file : Path) :
    Spares (locate reader schemaSuffix name file) := by
  rw [locate]
  refine (spares_read file).bind fun code => ?_
  split
  · exact spares_pure _
  · split
    · exact spares_throw _
    · split
      · refine (spares_readFirst _).bind fun found => ?_
        split
        · exact spares_throw _
        · split
          · exact spares_throw _
          · exact fun _ => ⟨rfl, rfl, rfl⟩
      · exact spares_throw _

end

end RouteAtlas.Router
