import RouteAtlas.Generator
import RouteAtlas.Proofs.Api.Numbering
import RouteAtlas.Proofs.Step
import RouteAtlas.Proofs.Table

/-!
# Coherent sessions

A session keeps the models it has resolved and the schemas it has synthesized. It is coherent when all
it keeps is what would be made anew: a resolved model is the one the provider gives, and a synthesized
schema has the fields of the first custom middleware that demands any under its name. `Agree` compares
a step in two coherent sessions, whatever they keep: it fails alike in both, or gives values that are
related under a wider numbering, and both sessions stay coherent, also behind a failure. Resolving a
reference and synthesizing a schema are such steps.
-/

set_option autoImplicit false

namespace RouteAtlas.Middleware

open Text Source Api Schema Router Step

/-! ## Coherent sessions -/

/-- The fields of the schema synthesized under a name in a slot: those of the first custom middleware of
that name that demands any. -/
def demandedFields (customs : List Custom) (name : String) (slot : Slot) : List String :=
  ((customs.find? fun custom => custom.name == name && !(custom.fields slot).isEmpty).map
    fun custom => custom.fields slot).getD []

/-- The name of the schema synthesized for a custom middleware in a slot. -/
def synthesizedName (name : String) (slot : Slot) : String :=
  String.ofList (camelCase name.toList) ++ slot.capitalName

/-- A session keeps a synthesized schema with a serial number. -/
def Keeps (session : Session) (key : String × Slot) (serial : Nat) : Prop :=
  ∃ model, session.synthesized.get? key = some model ∧ model.identity = .built serial

/-- The provider answers with declared models, which are none of those that a run composes. -/
def Declares (provider : Provider) : Prop :=
  ∀ reference model, (provider reference).outcome = .ok model →
    ∃ home key, model.identity = .declared home key

/-- All that a session keeps is what would be made anew. -/
structure Coherent (setup : Setup) (provider : Provider) (session : Session) : Prop where
  resolved : ∀ reference model, session.resolved.get? reference = some model →
    (provider reference).outcome = .ok model
  synthesized : ∀ name slot model, session.synthesized.get? (name, slot) = some model →
    ∃ serial < session.serial, synthesize serial (synthesizedName name slot)
      (demandedFields setup.customs name slot) = .ok model
  distinct : ∀ key other serial, Keeps session key serial → Keeps session other serial → key = other

/-- A coherent session that another one has come to: nothing kept is lost, and what is kept anew has a
new number. -/
structure Later (setup : Setup) (provider : Provider) (session later : Session) : Prop where
  coherent : Coherent setup provider later
  serial_le : session.serial ≤ later.serial
  kept : ∀ key model, session.synthesized.get? key = some model →
    later.synthesized.get? key = some model
  fresh : ∀ key serial, Keeps later key serial → serial < session.serial → Keeps session key serial

/-- Two coherent sessions under a numbering: numbers that are paired have been given out, and belong to
schemas kept under the same key, or to none that is kept. -/
structure Matched (setup : Setup) (provider : Provider) (numbering : Numbering)
    (session other : Session) : Prop where
  coherent : Coherent setup provider session
  coherent' : Coherent setup provider other
  oneToOne : numbering.OneToOne
  bounded : ∀ pair ∈ numbering, pair.1 < session.serial ∧ pair.2 < other.serial
  keys : ∀ pair ∈ numbering, ∀ key, Keeps session key pair.1 ↔ Keeps other key pair.2

section

variable {setup : Setup} {provider : Provider} {session later other : Session}

theorem coherent_empty : Coherent setup provider {} := by
  refine ⟨?_, ?_, ?_⟩
  · intro reference model h
    cases h
  · intro name slot model h
    cases h
  · rintro key other serial ⟨model, h, -⟩
    cases h

theorem keeps_inj {key : String × Slot} {serial second : Nat} (h : Keeps session key serial)
    (h' : Keeps session key second) : serial = second := by
  obtain ⟨model, hmodel, hidentity⟩ := h
  obtain ⟨model', hmodel', hidentity'⟩ := h'
  cases hmodel.symm.trans hmodel'
  cases hidentity.symm.trans hidentity'
  rfl

theorem eq_record_of_synthesize {serial : Nat} {name : String} {fields : List String} {model : Model}
    (h : synthesize serial name fields = .ok model) :
    model = .record (.built serial) name none .ignore (putFields [] (fields.map namedField)) := by
  rw [synthesize] at h
  rcases Model.checked_built name (putFields [] (fields.map namedField)) with ⟨fault, hfault⟩ | hbuilt
  · rw [hfault] at h
    cases h
  · rw [hbuilt] at h
    exact (Except.ok.inj h).symm

/-- A schema that is kept, by its number. -/
theorem Coherent.exists_keeps (h : Coherent setup provider session) {name : String} {slot : Slot}
    {model : Model} (hmodel : session.synthesized.get? (name, slot) = some model) :
    ∃ serial < session.serial, Keeps session (name, slot) serial ∧
      model = .record (.built serial) (synthesizedName name slot) none .ignore
        (putFields [] ((demandedFields setup.customs name slot).map namedField)) := by
  obtain ⟨serial, hserial, hsynthesize⟩ := h.synthesized name slot model hmodel
  have hrecord := eq_record_of_synthesize hsynthesize
  exact ⟨serial, hserial, ⟨model, hmodel, by rw [hrecord]; rfl⟩, hrecord⟩

theorem Coherent.serial_lt (h : Coherent setup provider session) {key : String × Slot} {serial : Nat}
    (hkeeps : Keeps session key serial) : serial < session.serial := by
  obtain ⟨model, hmodel, hidentity⟩ := hkeeps
  obtain ⟨second, hsecond, hkept, -⟩ := h.exists_keeps hmodel
  rw [keeps_inj ⟨model, hmodel, hidentity⟩ hkept]
  exact hsecond

/-- A change of a session that leaves what it keeps, and the next number, alone. -/
theorem Coherent.later_of_eq (h : Coherent setup provider session)
    (hresolved : later.resolved = session.resolved)
    (hsynthesized : later.synthesized = session.synthesized)
    (hserial : later.serial = session.serial) : Later setup provider session later := by
  have hkeeps : ∀ key serial, Keeps later key serial ↔ Keeps session key serial := by
    intro key serial
    rw [Keeps, Keeps, hsynthesized]
  refine ⟨⟨?_, ?_, ?_⟩, ?_, ?_, ?_⟩
  · intro reference model hmodel
    rw [hresolved] at hmodel
    exact h.resolved reference model hmodel
  · intro name slot model hmodel
    rw [hsynthesized] at hmodel
    rw [hserial]
    exact h.synthesized name slot model hmodel
  · intro key other serial hkey hother
    rw [hkeeps] at hkey hother
    exact h.distinct key other serial hkey hother
  · exact hserial.ge
  · intro key model hmodel
    rw [hsynthesized]
    exact hmodel
  · intro key serial hkey _
    exact (hkeeps key serial).1 hkey

theorem Coherent.later_refl (h : Coherent setup provider session) :
    Later setup provider session session :=
  h.later_of_eq rfl rfl rfl

theorem Later.trans {last : Session} (h : Later setup provider session later)
    (h' : Later setup provider later last) : Later setup provider session last := by
  refine ⟨h'.coherent, h.serial_le.trans h'.serial_le, ?_, ?_⟩
  · intro key model hmodel
    exact h'.kept key model (h.kept key model hmodel)
  · intro key serial hkeeps hserial
    exact h.fresh key serial (h'.fresh key serial hkeeps (hserial.trans_le h.serial_le)) hserial

/-- Giving out a number. -/
theorem Coherent.later_serial (h : Coherent setup provider session) :
    Later setup provider session { session with serial := session.serial + 1 } := by
  refine ⟨⟨h.resolved, ?_, h.distinct⟩, Nat.le_succ _, fun _ _ hmodel => hmodel,
    fun _ _ hkeeps _ => hkeeps⟩
  intro name slot model hmodel
  obtain ⟨serial, hserial, hsynthesize⟩ := h.synthesized name slot model hmodel
  exact ⟨serial, hserial.trans (Nat.lt_succ_self _), hsynthesize⟩

theorem Later.keeps_iff (h : Later setup provider session later) {key : String × Slot} {serial : Nat}
    (hserial : serial < session.serial) : Keeps later key serial ↔ Keeps session key serial := by
  constructor
  · intro hkeeps
    exact h.fresh key serial hkeeps hserial
  · rintro ⟨model, hmodel, hidentity⟩
    exact ⟨model, h.kept key model hmodel, hidentity⟩

/-- **Sessions stay matched as they go on**, each by itself. -/
theorem Matched.after {numbering : Numbering} {later' : Session}
    (h : Matched setup provider numbering session other) (hlater : Later setup provider session later)
    (hlater' : Later setup provider other later') : Matched setup provider numbering later later' := by
  refine ⟨hlater.coherent, hlater'.coherent, h.oneToOne, ?_, ?_⟩
  · intro pair hpair
    obtain ⟨hfirst, hsecond⟩ := h.bounded pair hpair
    exact ⟨hfirst.trans_le hlater.serial_le, hsecond.trans_le hlater'.serial_le⟩
  · intro pair hpair key
    obtain ⟨hfirst, hsecond⟩ := h.bounded pair hpair
    rw [hlater.keeps_iff hfirst, hlater'.keeps_iff hsecond]
    exact h.keys pair hpair key

theorem Coherent.matched_nil (h : Coherent setup provider session)
    (h' : Coherent setup provider other) : Matched setup provider [] session other := by
  refine ⟨h, h', ?_, ?_, ?_⟩
  · intro pair hpair
    cases hpair
  · intro pair hpair
    cases hpair
  · intro pair hpair
    cases hpair

/-- The numbers of the schemas kept under one key can be paired. -/
theorem Matched.pair_kept {numbering : Numbering} (h : Matched setup provider numbering session other)
    {key : String × Slot} {first second : Nat} (hfirst : Keeps session key first)
    (hsecond : Keeps other key second) :
    ∃ wider, numbering ⊆ wider ∧ (first, second) ∈ wider ∧
      Matched setup provider wider session other := by
  by_cases hpaired : (first, second) ∈ numbering
  · exact ⟨numbering, List.Subset.refl _, hpaired, h⟩
  · refine ⟨(first, second) :: numbering, List.subset_cons_self _ _, List.mem_cons_self,
      h.coherent, h.coherent', h.oneToOne.cons ?_ ?_, ?_, ?_⟩
    -- a number of the key that were paired otherwise would be paired with two numbers of the key
    · rintro ⟨serial, partner⟩ hpair rfl
      have hkeeps := (h.keys _ hpair key).1 hfirst
      cases keeps_inj hkeeps hsecond
      exact hpaired hpair
    · rintro ⟨serial, partner⟩ hpair rfl
      have hkeeps := (h.keys _ hpair key).2 hsecond
      cases keeps_inj hkeeps hfirst
      exact hpaired hpair
    · intro pair hpair
      rcases List.mem_cons.1 hpair with rfl | hpair
      · exact ⟨h.coherent.serial_lt hfirst, h.coherent'.serial_lt hsecond⟩
      · exact h.bounded pair hpair
    · intro pair hpair key'
      rcases List.mem_cons.1 hpair with rfl | hpair
      · constructor
        · intro hkeeps
          rwa [h.coherent.distinct key' key first hkeeps hfirst]
        · intro hkeeps
          rwa [h.coherent'.distinct key' key second hkeeps hsecond]
      · exact h.keys pair hpair key'

/-- The next numbers of both sessions can be given out as a pair. -/
theorem Matched.pair_serials {numbering : Numbering}
    (h : Matched setup provider numbering session other) :
    Matched setup provider ((session.serial, other.serial) :: numbering)
      { session with serial := session.serial + 1 } { other with serial := other.serial + 1 } := by
  have hlater := h.after h.coherent.later_serial h.coherent'.later_serial
  refine ⟨hlater.coherent, hlater.coherent', h.oneToOne.cons ?_ ?_, ?_, ?_⟩
  · intro pair hpair
    exact (h.bounded pair hpair).1.ne
  · intro pair hpair
    exact (h.bounded pair hpair).2.ne
  · intro pair hpair
    rcases List.mem_cons.1 hpair with rfl | hpair
    · exact ⟨Nat.lt_succ_self _, Nat.lt_succ_self _⟩
    · exact hlater.bounded pair hpair
  · intro pair hpair key
    rcases List.mem_cons.1 hpair with rfl | hpair
    · -- neither number is that of a schema kept
      constructor
      · intro hkeeps
        exact absurd (h.coherent.serial_lt hkeeps) (lt_irrefl _)
      · intro hkeeps
        exact absurd (h.coherent'.serial_lt hkeeps) (lt_irrefl _)
    · exact hlater.keys pair hpair key

end

/-! ## Steps in two sessions -/

/-- Two outcomes are related values or the same failure. -/
inductive Alike {α β : Type} (related : α → β → Prop) : Except Failure α → Except Failure β → Prop where
  | ok {value : α} {value' : β} : related value value' → Alike related (.ok value) (.ok value')
  | error (failure : Failure) : Alike related (.error failure) (.error failure)

theorem Alike.imp {α β : Type} {related weaker : α → β → Prop} {outcome : Except Failure α}
    {outcome' : Except Failure β} (h : Alike related outcome outcome')
    (himp : ∀ {value value'}, related value value' → weaker value value') :
    Alike weaker outcome outcome' := by
  cases h with
  | ok hvalue => exact .ok (himp hvalue)
  | error failure => exact .error failure

/-- Two steps in two sessions have outcomes alike, and the sessions they come to, also by a failure, are
later ones and matched under a wider numbering. -/
def Agree (setup : Setup) (provider : Provider) (numbering : Numbering) (session other : Session)
    {α β : Type} (step : Run α) (step' : Run β)
    (related : Numbering → Session → Session → α → β → Prop) : Prop :=
  ∃ wider, numbering ⊆ wider ∧ Later setup provider session (final step session) ∧
    Later setup provider other (final step' other) ∧
    Matched setup provider wider (final step session) (final step' other) ∧
    Alike (related wider (final step session) (final step' other)) (result step session).1
      (result step' other).1

section

variable {setup : Setup} {provider : Provider} {numbering : Numbering} {session other : Session}
  {α β α' β' : Type}

theorem agree_pure {related : Numbering → Session → Session → α → β → Prop}
    (h : Matched setup provider numbering session other) {value : α} {value' : β}
    (hvalue : related numbering session other value value') :
    Agree setup provider numbering session other (pure value) (pure value') related :=
  ⟨numbering, List.Subset.refl _, h.coherent.later_refl, h.coherent'.later_refl, h, .ok hvalue⟩

theorem agree_throw {related : Numbering → Session → Session → α → β → Prop}
    (h : Matched setup provider numbering session other) (failure : Failure) :
    Agree setup provider numbering session other (throw failure) (throw failure) related :=
  ⟨numbering, List.Subset.refl _, h.coherent.later_refl, h.coherent'.later_refl, h, .error failure⟩

/-- Steps put together agree where their parts do. -/
theorem Agree.bind {step : Run α} {step' : Run β} {next : α → Run α'} {next' : β → Run β'}
    {middle : Numbering → Session → Session → α → β → Prop}
    {related : Numbering → Session → Session → α' → β' → Prop}
    (h : Agree setup provider numbering session other step step' middle)
    (hnext : ∀ wider later later' value value', numbering ⊆ wider → Later setup provider session later →
      Later setup provider other later' → Matched setup provider wider later later' →
      middle wider later later' value value' →
      Agree setup provider wider later later' (next value) (next' value') related) :
    Agree setup provider numbering session other (step >>= next) (step' >>= next') related := by
  obtain ⟨wider, hwider, hlater, hlater', hmatched, halike⟩ := h
  rw [Agree, final, final, result_bind, result_bind]
  rcases hresult : result step session with ⟨outcome, stop⟩
  rcases hresult' : result step' other with ⟨outcome', stop'⟩
  simp only [final, hresult, hresult'] at hlater hlater' hmatched halike
  cases halike with
  | ok hvalue =>
      obtain ⟨widest, hwidest, hlast, hlast', hmatched', halike'⟩ :=
        hnext wider stop stop' _ _ hwider hlater hlater' hmatched hvalue
      exact ⟨widest, List.Subset.trans hwider hwidest, hlater.trans hlast, hlater'.trans hlast',
        hmatched', halike'⟩
  | error failure => exact ⟨wider, hwider, hlater, hlater', hmatched, .error failure⟩

theorem Agree.imp {step : Run α} {step' : Run β}
    {related weaker : Numbering → Session → Session → α → β → Prop}
    (h : Agree setup provider numbering session other step step' related)
    (himp : ∀ wider later later' value value', Later setup provider session later →
      Later setup provider other later' → related wider later later' value value' →
      weaker wider later later' value value') :
    Agree setup provider numbering session other step step' weaker := by
  obtain ⟨wider, hwider, hlater, hlater', hmatched, halike⟩ := h
  exact ⟨wider, hwider, hlater, hlater', hmatched, halike.imp fun hvalue =>
    himp _ _ _ _ _ hlater hlater' hvalue⟩

theorem agree_report (h : Matched setup provider numbering session other) (event : Event) :
    Agree setup provider numbering session other (Run.report event) (Run.report event)
      fun _ _ _ _ _ => True := by
  have hlater : Later setup provider session (final (Run.report event) session) :=
    h.coherent.later_of_eq rfl rfl rfl
  have hlater' : Later setup provider other (final (Run.report event) other) :=
    h.coherent'.later_of_eq rfl rfl rfl
  exact ⟨numbering, List.Subset.refl _, hlater, hlater', h.after hlater hlater', .ok trivial⟩

/-- Behind source text that is read, the steps agree where they do for what was read. -/
theorem agree_ofSource_bind {related : Numbering → Session → Session → α' → β' → Prop}
    {outcome : Except Fault α} {next : α → Run α'} {next' : α → Run β'}
    (h : Matched setup provider numbering session other)
    (hnext : ∀ value, Agree setup provider numbering session other (next value) (next' value) related) :
    Agree setup provider numbering session other (Run.ofSource outcome >>= next)
      (Run.ofSource outcome >>= next') related := by
  cases outcome with
  | ok value => exact hnext value
  | error fault => exact agree_throw h (.structural fault)

/-! ## Schemas -/

/-- What a reference is resolved to. -/
def resolution (provider : Provider) (reference : Reference) : Except Failure Model :=
  match (provider reference).outcome with
  | .ok model => .ok model
  | .error (.notFound reason) => .error (.unresolved reference reason)
  | .error (.nameless path) => .error (.nameless path)
  | .error (.refused error) => .error (.reading (.disk error))

/-- Asking the provider leaves alone what is kept. -/
theorem load_spec (provider : Provider) (reference : Reference) (session : Session) :
    (result (Run.load provider reference) session).1 = .ok (provider reference).outcome ∧
      (final (Run.load provider reference) session).resolved = session.resolved ∧
      (final (Run.load provider reference) session).synthesized = session.synthesized ∧
      (final (Run.load provider reference) session).serial = session.serial := by
  cases hopened : (provider reference).opened with
  | none =>
      simp only [Run.load, hopened]
      exact ⟨rfl, rfl, rfl, rfl⟩
  | some file =>
      by_cases hknown : session.opened.contains file = true
      · simp only [Run.load, hopened, final, result_bind, result_modify, result_get, hknown, if_true]
        exact ⟨rfl, rfl, rfl, rfl⟩
      · simp only [Run.load, hopened, final, result_bind, result_modify, result_get, hknown]
        exact ⟨rfl, rfl, rfl, rfl⟩

/-- **A reference is resolved to what the provider gives**, whether it is kept or not. -/
theorem resolve_spec (h : Coherent setup provider session) (reference : Reference) :
    (result (Run.resolve provider reference) session).1 = resolution provider reference ∧
      Later setup provider session (final (Run.resolve provider reference) session) := by
  simp only [final, Run.resolve, result_bind, result_get]
  cases hkept : session.resolved.get? reference with
  | some model =>
      refine ⟨?_, h.later_refl⟩
      rw [resolution, h.resolved reference model hkept]
      rfl
  | none =>
      obtain ⟨houtcome, hresolved, hsynthesized, hserial⟩ := load_spec provider reference session
      simp only [result_bind]
      rcases hload : result (Run.load provider reference) session with ⟨loaded, stop⟩
      simp only [final, hload] at houtcome hresolved hsynthesized hserial
      have hlater : Later setup provider session stop := h.later_of_eq hresolved hsynthesized hserial
      subst houtcome
      rw [resolution]
      cases hprovided : (provider reference).outcome with
      | error fault =>
          cases fault with
          | notFound reason => exact ⟨rfl, hlater⟩
          | nameless path => exact ⟨rfl, hlater⟩
          | refused error => exact ⟨rfl, hlater⟩
      | ok model =>
          refine ⟨rfl, ⟨?_, hlater.coherent.synthesized, hlater.coherent.distinct⟩, hlater.serial_le,
            hlater.kept, hlater.fresh⟩
          -- the model that is now kept is the one just provided
          intro key kept hkey
          have hput : (stop.resolved.put reference model).get? key = some kept := hkey
          by_cases hsame : key = reference
          · subst hsame
            rw [Table.get?_put_self] at hput
            rw [hprovided, Option.some.inj hput]
          · rw [Table.get?_put_of_ne _ _ hsame] at hput
            exact hlater.coherent.resolved key kept hput

theorem agree_resolve (hdeclares : Declares provider)
    (h : Matched setup provider numbering session other) (reference : Reference) :
    Agree setup provider numbering session other (Run.resolve provider reference)
      (Run.resolve provider reference)
      fun wider _ _ model model' => model' = model ∧ model.Matches wider model' := by
  obtain ⟨houtcome, hlater⟩ := resolve_spec h.coherent reference
  obtain ⟨houtcome', hlater'⟩ := resolve_spec h.coherent' reference
  refine ⟨numbering, List.Subset.refl _, hlater, hlater', h.after hlater hlater', ?_⟩
  rw [houtcome, houtcome', resolution]
  cases hprovided : (provider reference).outcome with
  | ok model =>
      obtain ⟨home, key, hidentity⟩ := hdeclares reference model hprovided
      exact .ok ⟨rfl, Model.matches_of_declared hidentity⟩
  | error fault =>
      cases fault with
      | notFound reason => exact .error _
      | nameless path => exact .error _
      | refused error => exact .error _

/-- Where a session keeps no schema for a custom middleware in a slot, the middleware is the first one
of its name that demands fields there. -/
def IsFirst (setup : Setup) (session : Session) (custom : Custom) (slot : Slot) : Prop :=
  session.synthesized.get? (custom.name, slot) = none →
    custom.fields slot = demandedFields setup.customs custom.name slot

theorem IsFirst.later {custom : Custom} {slot : Slot} {stop : Session}
    (h : IsFirst setup session custom slot) (hlater : Later setup provider session stop) :
    IsFirst setup stop custom slot := by
  intro hnone
  apply h
  cases hkept : session.synthesized.get? (custom.name, slot) with
  | none => rfl
  | some model => cases hnone.symm.trans (hlater.kept _ _ hkept)

/-- Keeping a schema that has just been synthesized. -/
theorem Coherent.later_put (h : Coherent setup provider session) {name : String} {slot : Slot}
    {model : Model} (hnone : session.synthesized.get? (name, slot) = none)
    (hmodel : synthesize session.serial (synthesizedName name slot)
      (demandedFields setup.customs name slot) = .ok model) :
    Later setup provider session
      { session with
        serial := session.serial + 1
        synthesized := session.synthesized.put (name, slot) model } := by
  have hidentity : model.identity = .built session.serial := by
    rw [eq_record_of_synthesize hmodel]
    rfl
  -- under its own key stands the new schema, with the number just given out
  have hkeeps : ∀ {key : String × Slot} {serial : Nat},
      Keeps { session with
        serial := session.serial + 1
        synthesized := session.synthesized.put (name, slot) model } key serial →
      (key = (name, slot) ∧ serial = session.serial) ∨ Keeps session key serial := by
    rintro key serial ⟨found, hfound, hnumber⟩
    have hput : (session.synthesized.put (name, slot) model).get? key = some found := hfound
    by_cases hkey : key = (name, slot)
    · subst hkey
      rw [Table.get?_put_self] at hput
      cases Option.some.inj hput
      cases hidentity.symm.trans hnumber
      exact .inl ⟨rfl, rfl⟩
    · rw [Table.get?_put_of_ne _ _ hkey] at hput
      exact .inr ⟨found, hput, hnumber⟩
  refine ⟨⟨h.resolved, ?_, ?_⟩, Nat.le_succ _, ?_, ?_⟩
  · intro name' slot' found hfound
    have hput : (session.synthesized.put (name, slot) model).get? (name', slot') = some found := hfound
    by_cases hkey : (name', slot') = (name, slot)
    · cases hkey
      rw [Table.get?_put_self] at hput
      cases Option.some.inj hput
      exact ⟨session.serial, Nat.lt_succ_self _, hmodel⟩
    · rw [Table.get?_put_of_ne _ _ hkey] at hput
      obtain ⟨serial, hserial, hsynthesize⟩ := h.synthesized name' slot' found hput
      exact ⟨serial, hserial.trans (Nat.lt_succ_self _), hsynthesize⟩
  · intro key other serial hkey hother
    rcases hkeeps hkey with ⟨rfl, rfl⟩ | hold
    · rcases hkeeps hother with ⟨rfl, -⟩ | hold'
      · rfl
      · exact absurd (h.serial_lt hold') (lt_irrefl _)
    · rcases hkeeps hother with ⟨rfl, rfl⟩ | hold'
      · exact absurd (h.serial_lt hold) (lt_irrefl _)
      · exact h.distinct key other serial hold hold'
  · intro key found hfound
    have hkey : key ≠ (name, slot) := by
      rintro rfl
      cases hnone.symm.trans hfound
    show (session.synthesized.put (name, slot) model).get? key = some found
    rw [Table.get?_put_of_ne _ _ hkey]
    exact hfound
  · intro key serial hkey hserial
    rcases hkeeps hkey with ⟨-, rfl⟩ | hold
    · exact absurd hserial (lt_irrefl _)
    · exact hold

/-- A schema that is not kept is built under the next number, and kept if that succeeds. -/
theorem result_synthesizedFor {custom : Custom} {slot : Slot}
    (h : session.synthesized.get? (custom.name, slot) = none) :
    result (synthesizedFor custom slot) session =
      match synthesize session.serial (synthesizedName custom.name slot) (custom.fields slot) with
      | .ok model => (.ok model, { session with
          serial := session.serial + 1
          synthesized := session.synthesized.put (custom.name, slot) model })
      | .error fault =>
          (.error (.unbuildable fault), { session with serial := session.serial + 1 }) := by
  simp only [synthesizedFor, result_bind, result_get, h, show result Run.freshSerial session =
    (.ok session.serial, { session with serial := session.serial + 1 }) from rfl]
  rw [synthesizedName]
  cases synthesize session.serial (String.ofList (camelCase custom.name.toList) ++ slot.capitalName)
    (custom.fields slot) with
  | ok model => rfl
  | error fault => rfl

/-- **A synthesized schema is kept**, unless none can be built under any number. -/
theorem synthesizedFor_spec (h : Coherent setup provider session) {custom : Custom} {slot : Slot}
    (hfirst : IsFirst setup session custom slot) :
    Later setup provider session (final (synthesizedFor custom slot) session) ∧
      ((∃ fault, (∀ serial, synthesize serial (synthesizedName custom.name slot)
            (demandedFields setup.customs custom.name slot) = .error fault) ∧
          (result (synthesizedFor custom slot) session).1 = .error (.unbuildable fault)) ∨
        ∃ model, (result (synthesizedFor custom slot) session).1 = .ok model ∧
          (final (synthesizedFor custom slot) session).synthesized.get? (custom.name, slot) =
            some model) := by
  cases hkept : session.synthesized.get? (custom.name, slot) with
  | some model =>
      have hresult : result (synthesizedFor custom slot) session = (.ok model, session) := by
        simp only [synthesizedFor, result_bind, result_get, hkept, result_pure]
      rw [final, hresult]
      exact ⟨h.later_refl, .inr ⟨model, rfl, hkept⟩⟩
  | none =>
      have hresult := result_synthesizedFor hkept
      rw [hfirst hkept] at hresult
      rw [final, hresult]
      rcases Model.checked_built (synthesizedName custom.name slot)
        (putFields [] ((demandedFields setup.customs custom.name slot).map namedField)) with
        ⟨fault, hfault⟩ | hbuilt
      · have hsynthesize : ∀ serial, synthesize serial (synthesizedName custom.name slot)
            (demandedFields setup.customs custom.name slot) = .error fault := hfault
        rw [hsynthesize session.serial]
        exact ⟨h.later_serial, .inl ⟨fault, hsynthesize, rfl⟩⟩
      · have hsynthesize : synthesize session.serial (synthesizedName custom.name slot)
            (demandedFields setup.customs custom.name slot) = _ := hbuilt session.serial
        rw [hsynthesize]
        refine ⟨h.later_put hkept hsynthesize, .inr ⟨_, rfl, ?_⟩⟩
        exact Table.get?_put_self _ _ _

theorem agree_synthesizedFor (h : Matched setup provider numbering session other) {custom : Custom}
    {slot : Slot} (hfirst : IsFirst setup session custom slot)
    (hfirst' : IsFirst setup other custom slot) :
    Agree setup provider numbering session other (synthesizedFor custom slot)
      (synthesizedFor custom slot)
      fun wider later later' model model' => model.Matches wider model' ∧
        later.synthesized.has (custom.name, slot) = true ∧
        later'.synthesized.has (custom.name, slot) = true := by
  obtain ⟨hlater, hcase⟩ := synthesizedFor_spec h.coherent hfirst
  obtain ⟨hlater', hcase'⟩ := synthesizedFor_spec h.coherent' hfirst'
  have hmatched := h.after hlater hlater'
  rcases hcase with ⟨fault, hfault, herror⟩ | ⟨model, hok, hkept⟩
  · rcases hcase' with ⟨fault', hfault', herror'⟩ | ⟨model', hok', hkept'⟩
    · cases (hfault 0).symm.trans (hfault' 0)
      refine ⟨numbering, List.Subset.refl _, hlater, hlater', hmatched, ?_⟩
      rw [herror, herror']
      exact .error _
    · -- what cannot be built under any number is not kept
      obtain ⟨serial, -, hsynthesize⟩ := hlater'.coherent.synthesized _ _ _ hkept'
      cases (hfault serial).symm.trans hsynthesize
  · rcases hcase' with ⟨fault', hfault', herror'⟩ | ⟨model', hok', hkept'⟩
    · obtain ⟨serial, -, hsynthesize⟩ := hlater.coherent.synthesized _ _ _ hkept
      cases (hfault' serial).symm.trans hsynthesize
    · obtain ⟨first, -, hkeeps, hmodel⟩ := hlater.coherent.exists_keeps hkept
      obtain ⟨second, -, hkeeps', hmodel'⟩ := hlater'.coherent.exists_keeps hkept'
      obtain ⟨wider, hwider, hpair, hmatched'⟩ := hmatched.pair_kept hkeeps hkeeps'
      refine ⟨wider, hwider, hlater, hlater', hmatched', ?_⟩
      rw [hok, hok']
      refine .ok ⟨?_, ?_, ?_⟩
      · rw [hmodel, hmodel']
        exact ⟨.built hpair, rfl⟩
      · rw [Table.has, hkept]
        rfl
      · rw [Table.has, hkept']
        rfl

end

end RouteAtlas.Middleware
