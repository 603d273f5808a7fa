import RouteAtlas.Proofs.Middleware.Coherence
import RouteAtlas.Proofs.Middleware.Resolvers
import RouteAtlas.Proofs.Router.Reading

/-!
# Loading schemas once or anew

A run keeps the schemas it has resolved and asks the provider only for those it does not keep.
`resolveAfresh` is the resolver that asks the provider whenever a schema is needed. `Transparent`
compares a step that uses the first resolver with one that uses the second: from sessions that are
`Level`, which differ in what is kept and in the account of what was loaded alone, both give the same
outcome and come to level sessions again. It also says how the account of the first step stands: all
that was loaded is kept, or the last reference could not be resolved and the step has failed for it.
-/

set_option autoImplicit false

namespace RouteAtlas

open Schema

/-- A session with another stock of resolved models and another account of what was loaded. -/
def Session.withLoads (session : Session) (resolved : Table Reference Model) (loads : List Reference) :
    Session :=
  { session with resolved := resolved, loads := loads }

end RouteAtlas

namespace RouteAtlas.Middleware

open Text Source Api Schema Router Step

/-- The model of a reference, loaded anew whenever it is asked for. -/
def resolveAfresh (provider : Provider) : Resolver := fun reference => do
  match ← Run.load provider reference with
  | .ok model => pure model
  | .error (.notFound reason) => throw (.unresolved reference reason)
  | .error (.nameless path) => throw (.nameless path)
  | .error (.refused error) => throw (.reading (.disk error))

/-! ## Sessions -/

/-- A session of a run and one of a run that loads anew: they differ in what is kept and loaded alone.
What is kept is what the provider gives, and its module files have been reported. -/
structure Level (provider : Provider) (session other : Session) : Prop where
  same : other = session.withLoads other.resolved other.loads
  kept : ∀ reference model, session.resolved.get? reference = some model →
    (provider reference).outcome = .ok model
  opened : ∀ reference model file, session.resolved.get? reference = some model →
    (provider reference).opened = some file → file ∈ session.opened

/-- Nothing was loaded twice, and everything loaded is kept. -/
structure Settled (session : Session) : Prop where
  nodup : session.loads.Nodup
  kept : ∀ reference ∈ session.loads, ∃ model, session.resolved.get? reference = some model

/-- Nothing was loaded twice, and everything loaded is kept except for the last reference: it could not
be resolved, and that is the failure of the step. -/
structure Broken (provider : Provider) {α : Type} (outcome : Except Failure α) (session : Session) :
    Prop where
  nodup : session.loads.Nodup
  last : ∃ earlier reference failure, session.loads = earlier ++ [reference] ∧
    (∀ other ∈ earlier, ∃ model, session.resolved.get? other = some model) ∧
    resolution provider reference = .error failure ∧ outcome = .error failure

theorem level_empty (provider : Provider) : Level provider {} {} := by
  refine ⟨rfl, ?_, ?_⟩
  · intro reference model h
    cases h
  · intro reference model file h
    cases h

theorem Level.opened_eq {provider : Provider} {session other : Session}
    (h : Level provider session other) : other.opened = session.opened := by
  rw [h.same]
  rfl

theorem Level.events_eq {provider : Provider} {session other : Session}
    (h : Level provider session other) : other.events = session.events := by
  rw [h.same]
  rfl

theorem settled_empty : Settled {} := by
  refine ⟨List.nodup_nil, ?_⟩
  intro reference h
  cases h

/-- A failure to resolve a reference is no fault of the source text. -/
theorem resolution_ne_structural {provider : Provider} {reference : Reference} {failure : Failure}
    (h : resolution provider reference = .error failure) (fault : Fault) :
    failure ≠ .structural fault := by
  rintro rfl
  rw [resolution] at h
  split at h
  · cases h
  · cases h
  · cases h
  · cases h

/-! ## Steps that ask for no schemas -/

/-- A step neither looks at what is kept and loaded nor changes it, and opens no module. -/
def Neutral {α : Type} (step : Run α) : Prop :=
  ∀ (session : Session) (resolved : Table Reference Model) (loads : List Reference),
    result step (session.withLoads resolved loads) =
        ((result step session).1, (final step session).withLoads resolved loads) ∧
      (final step session).opened = session.opened

section

variable {α β : Type}

theorem neutral_pure (value : α) : Neutral (pure value : Run α) := fun _ _ _ => ⟨rfl, rfl⟩

theorem neutral_throw (failure : Failure) : Neutral (throw failure : Run α) := fun _ _ _ => ⟨rfl, rfl⟩

theorem neutral_report (event : Event) : Neutral (Run.report event) := fun _ _ _ => ⟨rfl, rfl⟩

theorem neutral_reportAll (events : List Event) : Neutral (Run.reportAll events) :=
  fun _ _ _ => ⟨rfl, rfl⟩

theorem neutral_freshSerial : Neutral Run.freshSerial := fun _ _ _ => ⟨rfl, rfl⟩

theorem Neutral.bind {step : Run α} {next : α → Run β} (hstep : Neutral step)
    (hnext : ∀ value, Neutral (next value)) : Neutral (step >>= next) := by
  intro session resolved loads
  obtain ⟨hresult, hopened⟩ := hstep session resolved loads
  rw [final, result_bind, result_bind, hresult]
  rcases hfirst : result step session with ⟨outcome, middle⟩
  simp only [final, hfirst] at hopened ⊢
  cases outcome with
  | ok value =>
      obtain ⟨hlast, hopened'⟩ := hnext value middle resolved loads
      exact ⟨hlast, hopened'.trans hopened⟩
  | error failure => exact ⟨rfl, hopened⟩

theorem Neutral.attempt {step : Run α} (hstep : Neutral step) : Neutral step.attempt := by
  intro session resolved loads
  obtain ⟨hresult, hopened⟩ := hstep session resolved loads
  refine ⟨?_, hopened⟩
  show ((Except.ok (result step _).1 : Except Failure (Except Failure α)), (result step _).2) = _
  rw [hresult]
  rfl

theorem neutral_synthesizedFor (custom : Custom) (slot : Slot) :
    Neutral (synthesizedFor custom slot) := by
  intro session resolved loads
  cases hkept : session.synthesized.get? (custom.name, slot) with
  | some model =>
      have hresult : ∀ other : Session, other.synthesized = session.synthesized →
          result (synthesizedFor custom slot) other = (.ok model, other) := by
        intro other hother
        simp only [synthesizedFor, result_bind, result_get, hother, hkept, result_pure]
      rw [final, hresult session rfl, hresult (session.withLoads resolved loads) rfl]
      exact ⟨rfl, rfl⟩
  | none =>
      have hnone : (session.withLoads resolved loads).synthesized.get? (custom.name, slot) = none :=
        hkept
      rw [final, result_synthesizedFor hkept, result_synthesizedFor hnone]
      simp only [Session.withLoads]
      cases synthesize session.serial (synthesizedName custom.name slot) (custom.fields slot) with
      | ok model => exact ⟨rfl, rfl⟩
      | error fault => exact ⟨rfl, rfl⟩

theorem neutral_read {reader : Reader} (path : Path) : Neutral (read reader path) := by
  intro session resolved loads
  rw [final, result_read, result_read]
  simp only [Session.withLoads]
  cases session.texts.get? path with
  | some text => exact ⟨rfl, rfl⟩
  | none =>
      cases reader path with
      | ok text => exact ⟨rfl, rfl⟩
      | error error => exact ⟨rfl, rfl⟩

/-- Reading asks for no schemas. -/
theorem neutral_of_reading {reader : Reader} {step : Run α} (h : Reading reader step) :
    Neutral step := by
  induction h with
  | pure value => exact neutral_pure value
  | throw _ => exact neutral_throw _
  | reportAll _ => exact neutral_reportAll _
  | read path => exact neutral_read path
  | bind _ _ hstep hnext => exact hstep.bind hnext
  | catching _ _ _ hstep hnext hrefused =>
      rw [catching]
      apply hstep.attempt.bind
      intro outcome
      split
      · exact hnext _
      · exact hrefused _
      · exact neutral_throw _

end

/-! ## Steps with and without what is kept -/

/-- From level sessions, the first step and the second one, which loads anew, have the same outcome and
come to level sessions; the account of the first step is settled or broken. -/
def Transparent (provider : Provider) {α : Type} (step step' : Run α) : Prop :=
  ∀ session other, Level provider session other → Settled session →
    (result step' other).1 = (result step session).1 ∧
      Level provider (final step session) (final step' other) ∧
      (Settled (final step session) ∨ Broken provider (result step session).1 (final step session))

section

variable {provider : Provider} {α β : Type}

/-- A step that asks for no schemas is not affected. -/
theorem Neutral.transparent {step : Run α} (h : Neutral step) : Transparent provider step step := by
  intro session other hlevel hsettled
  obtain ⟨hresult, hopened⟩ := h session session.resolved session.loads
  have hfinal : final step session = (final step session).withLoads session.resolved session.loads :=
    congrArg Prod.snd hresult
  have hresolved : (final step session).resolved = session.resolved := by
    rw [hfinal]
    rfl
  have hloads : (final step session).loads = session.loads := by
    rw [hfinal]
    rfl
  have hother : result step other =
      ((result step session).1, (final step session).withLoads other.resolved other.loads) := by
    rw [← (h session other.resolved other.loads).1, ← hlevel.same]
  refine ⟨by rw [hother], ⟨?_, ?_, ?_⟩, .inl ⟨?_, ?_⟩⟩
  · rw [final, hother]
    rfl
  · rw [hresolved]
    exact hlevel.kept
  · rw [hresolved, hopened]
    exact hlevel.opened
  · rw [hloads]
    exact hsettled.nodup
  · rw [hloads, hresolved]
    exact hsettled.kept

/-- Steps put together are transparent where their parts are: only a settled step is gone on from. -/
theorem Transparent.bind {step step' : Run α} {next next' : α → Run β}
    (hstep : Transparent provider step step')
    (hnext : ∀ value, Transparent provider (next value) (next' value)) :
    Transparent provider (step >>= next) (step' >>= next') := by
  intro session other hlevel hsettled
  obtain ⟨houtcome, hlevel', haccount⟩ := hstep session other hlevel hsettled
  rw [final, final, result_bind, result_bind]
  rcases hresult : result step session with ⟨outcome, middle⟩
  rcases hresult' : result step' other with ⟨outcome', middle'⟩
  simp only [final, hresult, hresult'] at houtcome hlevel' haccount
  subst houtcome
  cases outcome' with
  | ok value =>
      rcases haccount with hsettled' | hbroken
      · exact hnext value middle middle' hlevel' hsettled'
      · obtain ⟨earlier, reference, failure, -, -, -, herror⟩ := hbroken.last
        cases herror
  | error failure =>
      refine ⟨rfl, hlevel', ?_⟩
      rcases haccount with hsettled' | ⟨hnodup, earlier, reference, cause, hloads, hkept, hcause, herror⟩
      · exact .inl hsettled'
      · cases herror
        exact .inr ⟨hnodup, earlier, reference, failure, hloads, hkept, hcause, rfl⟩

/-- **Going on behind a fault of the source text is transparent**, since no failure to resolve a
reference is one: behind such a failure the run ends. -/
theorem Transparent.attempt_bind {step step' : Run α} {next next' : Except Failure α → Run β}
    (hstep : Transparent provider step step')
    (hok : ∀ value, Transparent provider (next (.ok value)) (next' (.ok value)))
    (hfault : ∀ fault, Transparent provider (next (.error (.structural fault)))
      (next' (.error (.structural fault))))
    (hfailure : ∀ failure, (∀ fault, failure ≠ .structural fault) →
      next (.error failure) = throw failure ∧ next' (.error failure) = throw failure) :
    Transparent provider (step.attempt >>= next) (step'.attempt >>= next') := by
  intro session other hlevel hsettled
  obtain ⟨houtcome, hlevel', haccount⟩ := hstep session other hlevel hsettled
  have hattempt : ∀ {step : Run α} {next : Except Failure α → Run β} {start : Session},
      result (step.attempt >>= next) start = result (next (result step start).1) (final step start) := by
    intro step next start
    rw [result_bind]
    rfl
  rw [final, final, hattempt, hattempt, houtcome]
  rcases haccount with hsettled' | hbroken
  · -- whatever the outcome, both runs go on with it, or both end with it
    cases hresult : (result step session).1 with
    | ok value => exact hok value _ _ hlevel' hsettled'
    | error failure =>
        by_cases hstructural : ∃ fault, failure = .structural fault
        · obtain ⟨fault, rfl⟩ := hstructural
          exact hfault fault _ _ hlevel' hsettled'
        · rw [not_exists] at hstructural
          obtain ⟨hnext, hnext'⟩ := hfailure failure hstructural
          rw [hnext, hnext']
          exact ⟨rfl, hlevel', .inl hsettled'⟩
  · obtain ⟨hnodup, earlier, reference, failure, hloads, hkept, hcause, herror⟩ := hbroken
    obtain ⟨hnext, hnext'⟩ := hfailure failure (resolution_ne_structural hcause)
    rw [herror, hnext, hnext']
    exact ⟨rfl, hlevel', .inr ⟨hnodup, earlier, reference, failure, hloads, hkept, hcause, rfl⟩⟩

/-! ## Schemas -/

/-- The module file of a reference, where it has not been opened yet. -/
def unopened (provider : Provider) (reference : Reference) (session : Session) : List String :=
  (provider reference).opened.toList.filter fun file => !session.opened.contains file

/-- The session in which a reference has been asked for. -/
def loaded (provider : Provider) (reference : Reference) (session : Session) : Session :=
  { session with
    loads := session.loads ++ [reference]
    opened := session.opened ++ unopened provider reference session
    events := session.events ++ (unopened provider reference session).map Event.moduleLoaded }

theorem result_load (provider : Provider) (reference : Reference) (session : Session) :
    result (Run.load provider reference) session =
      (.ok (provider reference).outcome, loaded provider reference session) := by
  cases hopened : (provider reference).opened with
  | none =>
      simp only [Run.load, hopened, loaded, unopened, Option.toList, List.filter_nil, List.map_nil,
        List.append_nil]
      rfl
  | some file =>
      by_cases hknown : session.opened.contains file = true
      · simp only [Run.load, hopened, result_bind, result_modify, result_get, hknown, if_true, loaded,
          unopened, Option.toList, List.filter_cons, Bool.not_true, Bool.false_eq_true, if_false,
          List.filter_nil, List.map_nil, List.append_nil]
        rfl
      · simp only [Run.load, hopened, result_bind, result_modify, result_get, hknown, loaded, unopened,
          Option.toList, List.filter_cons, Bool.not_false, if_true, List.filter_nil, List.map_cons,
          List.map_nil]
        rfl

/-- The module file of a reference is open once the reference has been asked for. -/
theorem mem_opened_loaded {reference : Reference} {session : Session} {file : String}
    (h : (provider reference).opened = some file) :
    file ∈ (loaded provider reference session).opened := by
  by_cases hknown : file ∈ session.opened
  · exact List.mem_append_left _ hknown
  · apply List.mem_append_right
    simp [unopened, h, hknown]

/-- Asking for a reference that is kept changes the account alone. -/
theorem Level.loaded_of_kept {session other : Session} (h : Level provider session other)
    {reference : Reference} {model : Model} (hkept : session.resolved.get? reference = some model) :
    loaded provider reference other = other.withLoads other.resolved (other.loads ++ [reference]) := by
  have hnone : unopened provider reference other = [] := by
    rw [unopened, List.filter_eq_nil_iff]
    intro file hfile
    have hmem := h.opened reference model file hkept (Option.mem_toList.1 hfile)
    rw [h.opened_eq]
    simpa using hmem
  rw [loaded, hnone]
  simp [Session.withLoads]

/-- Both runs ask for a reference that is not kept. -/
theorem Level.loaded {session other : Session} (h : Level provider session other)
    (reference : Reference) :
    Level provider (loaded provider reference session) (loaded provider reference other) := by
  refine ⟨?_, h.kept, ?_⟩
  · have hunopened : unopened provider reference other = unopened provider reference session := by
      rw [unopened, unopened, h.opened_eq]
    rw [Middleware.loaded, Middleware.loaded, hunopened, h.opened_eq, h.events_eq]
    conv_lhs => rw [h.same]
    rfl
  · intro kept model file hkept hfile
    exact List.mem_append_left _ (h.opened kept model file hkept hfile)

/-- The session in which a loaded model is kept. -/
theorem Level.put {session other : Session} (h : Level provider session other) {reference : Reference}
    {model : Model} (hmodel : (provider reference).outcome = .ok model)
    (hopened : ∀ file, (provider reference).opened = some file → file ∈ session.opened) :
    Level provider { session with resolved := session.resolved.put reference model } other := by
  have hcases : ∀ {key : Reference} {kept : Model},
      (session.resolved.put reference model).get? key = some kept →
      (key = reference ∧ kept = model) ∨ session.resolved.get? key = some kept := by
    intro key kept hput
    by_cases hsame : key = reference
    · subst hsame
      rw [Table.get?_put_self] at hput
      exact .inl ⟨rfl, (Option.some.inj hput).symm⟩
    · rw [Table.get?_put_of_ne _ _ hsame] at hput
      exact .inr hput
  refine ⟨h.same, ?_, ?_⟩
  · intro key kept hput
    rcases hcases hput with ⟨rfl, rfl⟩ | hold
    · exact hmodel
    · exact h.kept key kept hold
  · intro key kept file hput hfile
    rcases hcases hput with ⟨rfl, rfl⟩ | hold
    · exact hopened file hfile
    · exact h.opened key kept file hold hfile

/-- A reference that is not kept has not been loaded. -/
theorem Settled.nodup_concat {session : Session} (h : Settled session) {reference : Reference}
    (hnone : session.resolved.get? reference = none) : (session.loads ++ [reference]).Nodup := by
  have hnew : reference ∉ session.loads := by
    intro hmem
    obtain ⟨model, hkept⟩ := h.kept reference hmem
    cases hnone.symm.trans hkept
  rw [← List.concat_eq_append]
  exact List.Nodup.concat hnew h.nodup

/-- **Keeping schemas is transparent**: a kept one is what the provider gives again, and one that is
not kept is asked for in both runs. -/
theorem transparent_resolve (provider : Provider) (reference : Reference) :
    Transparent provider (Run.resolve provider reference) (resolveAfresh provider reference) := by
  intro session other hlevel hsettled
  rw [final, final, resolveAfresh, result_bind, result_load, Run.resolve, result_bind, result_get]
  cases hkept : session.resolved.get? reference with
  | some model =>
      simp only [hlevel.kept reference model hkept, hlevel.loaded_of_kept hkept, hkept, result_pure]
      refine ⟨trivial, ⟨?_, hlevel.kept, hlevel.opened⟩, .inl hsettled⟩
      conv_lhs => rw [hlevel.same]
      rfl
  | none =>
      simp only [hkept, result_bind, result_load]
      have hlevel' := hlevel.loaded reference
      have hnodup := hsettled.nodup_concat hkept
      have hbroken : ∀ failure, resolution provider reference = .error failure →
          Broken provider (.error failure : Except Failure Model) (loaded provider reference session) := by
        intro failure hfailure
        exact ⟨hnodup, session.loads, reference, failure, rfl, hsettled.kept, hfailure, rfl⟩
      cases houtcome : (provider reference).outcome with
      | error fault =>
          cases fault with
          | notFound reason => exact ⟨rfl, hlevel', .inr (hbroken _ (by rw [resolution, houtcome]))⟩
          | nameless path => exact ⟨rfl, hlevel', .inr (hbroken _ (by rw [resolution, houtcome]))⟩
          | refused error => exact ⟨rfl, hlevel', .inr (hbroken _ (by rw [resolution, houtcome]))⟩
      | ok model =>
          refine ⟨rfl, hlevel'.put houtcome fun file hfile => mem_opened_loaded hfile, .inl ⟨hnodup, ?_⟩⟩
          intro key hkey
          show ∃ found, (session.resolved.put reference model).get? key = some found
          by_cases hsame : key = reference
          · rw [hsame]
            exact ⟨model, Table.get?_put_self _ _ _⟩
          · rw [Table.get?_put_of_ne _ _ hsame]
            rcases List.mem_append.1 hkey with hold | hnew
            · exact hsettled.kept key hold
            · exact absurd (List.mem_singleton.1 hnew) hsame

/-! ## Records -/

theorem Parallel.transparent {step step' : Run α}
    (h : Parallel (Run.resolve provider) (resolveAfresh provider) step step') :
    Transparent provider step step' := by
  induction h with
  | pure value => exact (neutral_pure value).transparent
  | throw _ => exact (neutral_throw _).transparent
  | report _ => exact (neutral_report _).transparent
  | freshSerial => exact neutral_freshSerial.transparent
  | synthesizedFor custom slot => exact (neutral_synthesizedFor custom slot).transparent
  | resolve reference => exact transparent_resolve provider reference
  | bind _ _ hstep hnext => exact hstep.bind hnext

/-- **A record does not show whether schemas are kept.** -/
theorem transparent_recordOf (setup : Setup) (provider : Provider) (declaration : Declaration)
    (tag mount : Text) (token : Route.Token) :
    Transparent provider (recordOfBy setup (Run.resolve provider) declaration tag mount token)
      (recordOfBy setup (resolveAfresh provider) declaration tag mount token) :=
  (parallel_recordOf _ _ setup declaration tag mount token).transparent

end

end RouteAtlas.Middleware
