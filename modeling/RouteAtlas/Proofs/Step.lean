/-!
# Steps that keep a state and may fail

A step of a generation run and a step of assembling a document have the same shape: they change a
state and either give a value or fail, and what was done to the state before a failure stays done.
`Yields` says that a step started in one state gives a value and ends in another; `final` is the
state in which a step ends either way. A step put together from others is taken apart by the
equivalences below, so that later proofs never look inside the monad. `Ensures` bundles what holds of
all runs of a step: which states it keeps to, what it gives and how it fails.
-/

set_option autoImplicit false

namespace RouteAtlas

/-- A step with states `σ` and failures `ε`. -/
abbrev Step (ε σ α : Type) := ExceptT ε (StateM σ) α

namespace Step

variable {ε σ α β : Type}

/-- What a step gives and the state it ends in. -/
def result (step : Step ε σ α) (start : σ) : Except ε α × σ := step.run.run start

/-- The state a step ends in. -/
def final (step : Step ε σ α) (start : σ) : σ := (result step start).2

/-- A step succeeds with a value and ends in a state. -/
def Yields (step : Step ε σ α) (start : σ) (value : α) (stop : σ) : Prop :=
  result step start = (.ok value, stop)

/-- An outcome that goes on with another succeeds exactly when both do. -/
theorem bind_eq_ok {outcome : Except ε α} {next : α → Except ε β} {value : β} :
    outcome >>= next = .ok value ↔ ∃ first, outcome = .ok first ∧ next first = .ok value := by
  cases outcome with
  | ok first => simp [bind, Except.bind]
  | error fault => simp [bind, Except.bind]

/-- A value that an outcome is read off to have. -/
theorem eq_ok_of_mem_toOption {outcome : Except ε α} {value : α}
    (h : value ∈ outcome.toOption.toList) : outcome = .ok value := by
  cases outcome with
  | error failure => cases h
  | ok found =>
      cases List.mem_singleton.1 h
      rfl

/-! ## The basic steps -/

@[simp] theorem result_pure (value : α) (start : σ) :
    result (pure value : Step ε σ α) start = (.ok value, start) := rfl

@[simp] theorem result_throw (failure : ε) (start : σ) :
    result (throw failure : Step ε σ α) start = (.error failure, start) := rfl

@[simp] theorem result_get (start : σ) : result (get : Step ε σ σ) start = (.ok start, start) := rfl

@[simp] theorem result_modify (change : σ → σ) (start : σ) :
    result (modify change : Step ε σ PUnit) start = (.ok ⟨⟩, change start) := rfl

/-- A composed step goes on where its first part succeeded. -/
theorem result_bind (step : Step ε σ α) (next : α → Step ε σ β) (start : σ) :
    result (step >>= next) start = match result step start with
      | (.ok value, stop) => result (next value) stop
      | (.error failure, stop) => (.error failure, stop) := by
  show StateT.run (ExceptT.bindCont next (result step start).1) (result step start).2 = _
  rcases result step start with ⟨outcome, stop⟩
  cases outcome with
  | ok value => rfl
  | error failure => rfl

/-! ## Success -/

theorem Yields.final_eq {step : Step ε σ α} {start stop : σ} {value : α}
    (h : Yields step start value stop) : final step start = stop := by
  rw [final, h]

/-- A step yields the value that its outcome is read off to have. -/
theorem yields_of_mem_toOption {step : Step ε σ α} {start : σ} {value : α}
    (h : value ∈ (result step start).1.toOption.toList) : Yields step start value (final step start) :=
  Prod.ext (eq_ok_of_mem_toOption h) rfl

theorem exists_yields {step : Step ε σ α} {start : σ} (h : (result step start).1.isOk = true) :
    ∃ value stop, Yields step start value stop := by
  rcases hresult : result step start with ⟨_ | value, stop⟩
  · rw [hresult] at h
    cases h
  · exact ⟨value, stop, hresult⟩

theorem yields_pure {value given : α} {start stop : σ} :
    Yields (pure value : Step ε σ α) start given stop ↔ given = value ∧ stop = start := by
  rw [Yields, result_pure, Prod.mk.injEq, Except.ok.injEq]
  exact and_congr eq_comm eq_comm

theorem not_yields_throw {failure : ε} {start stop : σ} {value : α} :
    ¬ Yields (throw failure : Step ε σ α) start value stop := by
  simp [Yields]

/-- A composed step succeeds exactly when both parts do, one after the other. -/
theorem yields_bind {step : Step ε σ α} {next : α → Step ε σ β} {start stop : σ} {value : β} :
    Yields (step >>= next) start value stop ↔
      ∃ first middle, Yields step start first middle ∧ Yields (next first) middle value stop := by
  simp only [Yields, result_bind]
  constructor
  · intro h
    rcases hstep : result step start with ⟨outcome, middle⟩
    cases outcome with
    | ok first => exact ⟨first, middle, rfl, by simpa only [hstep] using h⟩
    | error failure => simp [hstep] at h
  · rintro ⟨first, middle, hfirst, hnext⟩
    simpa only [hfirst] using hnext

/-- A composed step fails where its first part fails, or its second one behind the first. -/
theorem error_bind {step : Step ε σ α} {next : α → Step ε σ β} {start : σ} {failure : ε} :
    (result (step >>= next) start).1 = .error failure ↔
      (result step start).1 = .error failure ∨
        ∃ value middle, Yields step start value middle ∧
          (result (next value) middle).1 = .error failure := by
  simp only [Yields, result_bind]
  rcases hstep : result step start with ⟨outcome, middle⟩
  cases outcome with
  | ok first =>
      constructor
      · intro h
        exact .inr ⟨first, middle, rfl, h⟩
      · rintro (hfirst | ⟨value, state, hvalue, hnext⟩)
        · cases hfirst
        · cases hvalue
          exact hnext
  | error fault => simp

/-- The state a composed step ends in: that of the second part, if it is reached. -/
theorem final_bind (step : Step ε σ α) (next : α → Step ε σ β) (start : σ) :
    (∃ failure, final (step >>= next) start = final step start ∧
        (result step start).1 = .error failure) ∨
      ∃ value, (result step start).1 = .ok value ∧
        final (step >>= next) start = final (next value) (final step start) := by
  simp only [final, result_bind]
  rcases hstep : result step start with ⟨outcome, middle⟩
  cases outcome with
  | ok first => exact .inr ⟨first, rfl, rfl⟩
  | error failure => exact .inl ⟨failure, rfl, rfl⟩

/-! ## What a step ensures -/

/-- A step started in a state of some kind ends in one, and the value it gives or the failure it ends
with is of some kind. -/
def Ensures (kept : σ → Prop) (fails : ε → Prop) (step : Step ε σ α) (gives : α → Prop) : Prop :=
  ∀ start, kept start → kept (final step start) ∧
    (∀ value, (result step start).1 = .ok value → gives value) ∧
    ∀ failure, (result step start).1 = .error failure → fails failure

section

variable {kept : σ → Prop} {fails : ε → Prop} {gives : α → Prop} {last : β → Prop}

theorem ensures_pure {value : α} (h : gives value) :
    Ensures kept fails (pure value : Step ε σ α) gives := by
  intro start hstart
  refine ⟨hstart, ?_, nofun⟩
  rintro _ ⟨⟩
  exact h

theorem ensures_throw {failure : ε} (h : fails failure) :
    Ensures kept fails (throw failure : Step ε σ α) gives := by
  intro start hstart
  refine ⟨hstart, nofun, ?_⟩
  rintro _ ⟨⟩
  exact h

theorem ensures_get : Ensures kept fails (get : Step ε σ σ) kept := by
  intro start hstart
  refine ⟨hstart, ?_, nofun⟩
  rintro _ ⟨⟩
  exact hstart

theorem ensures_modify {change : σ → σ} (h : ∀ start, kept start → kept (change start)) :
    Ensures kept fails (modify change : Step ε σ PUnit) fun _ => True :=
  fun start hstart => ⟨h start hstart, fun _ _ => trivial, nofun⟩

theorem Ensures.bind {step : Step ε σ α} {next : α → Step ε σ β} (hstep : Ensures kept fails step gives)
    (hnext : ∀ value, gives value → Ensures kept fails (next value) last) :
    Ensures kept fails (step >>= next) last := by
  intro start hstart
  obtain ⟨hmiddle, hgives, hfails⟩ := hstep start hstart
  rw [final, result_bind]
  rcases hresult : result step start with ⟨outcome, middle⟩
  simp only [final, hresult] at hmiddle hgives hfails
  cases outcome with
  | ok value => exact hnext value (hgives value rfl) middle hmiddle
  | error failure =>
      refine ⟨hmiddle, nofun, ?_⟩
      rintro _ ⟨⟩
      exact hfails failure rfl

theorem Ensures.imp {wider : ε → Prop} {weaker : α → Prop} {step : Step ε σ α}
    (hstep : Ensures kept fails step gives) (hfails : ∀ failure, fails failure → wider failure)
    (hgives : ∀ value, gives value → weaker value) : Ensures kept wider step weaker := by
  intro start hstart
  obtain ⟨hstop, hvalue, hfailure⟩ := hstep start hstart
  exact ⟨hstop, fun value h => hgives value (hvalue value h),
    fun failure h => hfails failure (hfailure failure h)⟩

end

end Step

end RouteAtlas
