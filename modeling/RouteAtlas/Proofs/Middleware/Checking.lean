import RouteAtlas.Generator
import RouteAtlas.Proofs.Step

/-!
# Which routes are well formed

Building the record of a route looks at source text, at schemas and at the session. A run goes on only
behind a fault of the source text, and such a fault depends on the source text alone: `recordCheck`
finds it without a session. `Sees` relates a step to such a check; it also says that the step leaves
the texts and the document alone. It holds of every step on the way to a record.
-/

set_option autoImplicit false

namespace RouteAtlas.Middleware

open Text Source Api Schema Router Step

/-- An outcome bears a check out: it is a value where the check succeeds, and a fault of the source
text is the one that the check finds. Other failures end a run and say nothing. -/
def Bears {α : Type} : Except Failure α → Except Fault Unit → Prop
  | .ok _, check => check = .ok ()
  | .error (.structural fault), check => check = .error fault
  | .error _, _ => True

/-- A step bears a check out in every session and leaves the texts and the document alone. -/
def Sees {α : Type} (step : Run α) (check : Except Fault Unit) : Prop :=
  ∀ session, (final step session).texts = session.texts ∧
    (final step session).document = session.document ∧ Bears (result step session).1 check

section

variable {α β : Type}

theorem sees_pure (value : α) : Sees (pure value : Run α) (.ok ()) := fun _ => ⟨rfl, rfl, rfl⟩

/-- A failure other than a fault of the source text bears any check out. -/
theorem sees_throw {failure : Failure} (check : Except Fault Unit)
    (h : ∀ fault, failure ≠ .structural fault) : Sees (throw failure : Run α) check := by
  intro session
  refine ⟨rfl, rfl, ?_⟩
  cases failure with
  | structural fault => exact absurd rfl (h fault)
  | _ => trivial

/-- A change of the session that keeps the texts and the document. -/
theorem sees_modify {change : Session → Session} (htexts : ∀ session, (change session).texts = session.texts)
    (hdocument : ∀ session, (change session).document = session.document) :
    Sees (modify change : Run PUnit) (.ok ()) :=
  fun session => ⟨htexts session, hdocument session, rfl⟩

theorem sees_report (event : Event) : Sees (Run.report event) (.ok ()) := fun _ => ⟨rfl, rfl, rfl⟩

theorem sees_ofBuilding (outcome : Except BuildFault α) : Sees (Run.ofBuilding outcome) (.ok ()) := by
  cases outcome with
  | ok value => exact sees_pure value
  | error fault => exact sees_throw _ (by simp)

theorem Sees.bind {step : Run α} {next : α → Run β} {check following : Except Fault Unit}
    (hstep : Sees step check) (hnext : ∀ value, Sees (next value) following) :
    Sees (step >>= next) (check >>= fun _ => following) := by
  intro session
  obtain ⟨htexts, hdocument, hbears⟩ := hstep session
  rw [final, result_bind]
  -- a fault of the first step is the fault of both, and any other failure bears on no check
  rcases hresult : result step session with ⟨outcome, middle⟩
  simp only [final, hresult] at htexts hdocument hbears
  cases outcome with
  | ok value =>
      have hcheck : check = .ok () := hbears
      obtain ⟨htexts', hdocument', hbears'⟩ := hnext value middle
      rw [hcheck]
      exact ⟨htexts'.trans htexts, hdocument'.trans hdocument, hbears'⟩
  | error failure =>
      refine ⟨htexts, hdocument, ?_⟩
      cases failure with
      | structural fault =>
          have hcheck : check = .error fault := hbears
          rw [hcheck]
          rfl
      | _ => trivial

theorem Sees.map {step : Run α} {check : Except Fault Unit} (hstep : Sees step check)
    (change : α → β) : Sees (step >>= fun value => pure (change value)) check := by
  have hbind := hstep.bind fun value => sees_pure (change value)
  cases check with
  | ok _ => exact hbind
  | error _ => exact hbind

/-- Behind a step that cannot meet a fault, the check is that of what follows. -/
theorem Sees.then {step : Run α} {next : α → Run β} {following : Except Fault Unit}
    (hstep : Sees step (.ok ())) (hnext : ∀ value, Sees (next value) following) :
    Sees (step >>= next) following :=
  hstep.bind hnext

/-- Behind source text that is read, the check goes on with what was read. -/
theorem sees_ofSource_bind {outcome : Except Fault α} {next : α → Run β}
    {following : α → Except Fault Unit} (hnext : ∀ value, Sees (next value) (following value)) :
    Sees (Run.ofSource outcome >>= next) (outcome >>= following) := by
  cases outcome with
  | ok value => exact fun session => hnext value session
  | error fault => exact fun _ => ⟨rfl, rfl, rfl⟩

/-- A step that looks at the session is seen through what it does with each. -/
theorem sees_get {next : Session → Run β} {check : Except Fault Unit}
    (hnext : ∀ session, Sees (next session) check) : Sees (get >>= next) check :=
  fun session => hnext session session

end

/-! ## Schemas -/

theorem sees_freshSerial : Sees Run.freshSerial (.ok ()) := fun _ => ⟨rfl, rfl, rfl⟩

theorem sees_load (provider : Provider) (reference : Reference) :
    Sees (Run.load provider reference) (.ok ()) := by
  rw [Run.load]
  refine (sees_modify (by intro _; rfl) (by intro _; rfl)).then fun _ => ?_
  split
  · exact sees_pure _
  · apply sees_get
    intro session
    split
    · exact sees_pure _
    · exact (sees_modify (by intro _; rfl) (by intro _; rfl)).then fun _ =>
        (sees_report _).then fun _ => sees_pure _

theorem sees_resolve (provider : Provider) (reference : Reference) :
    Sees (Run.resolve provider reference) (.ok ()) := by
  rw [Run.resolve]
  apply sees_get
  intro session
  split
  · exact sees_pure _
  · refine (sees_load provider reference).then fun outcome => ?_
    split
    · exact (sees_modify (by intro _; rfl) (by intro _; rfl)).then fun _ => sees_pure _
    -- failures to load are not faults of the source text
    · exact sees_throw _ (by simp)
    · exact sees_throw _ (by simp)
    · exact sees_throw _ (by simp)

theorem sees_synthesizedFor (custom : Custom) (slot : Slot) :
    Sees (synthesizedFor custom slot) (.ok ()) := by
  rw [synthesizedFor]
  apply sees_get
  intro session
  split
  · exact sees_pure _
  · exact sees_freshSerial.then fun _ => (sees_ofBuilding _).then fun _ =>
      (sees_modify (by intro _; rfl) (by intro _; rfl)).then fun _ => sees_pure _

theorem sees_assign (draft : Draft) (slot : Slot) (model : Model) :
    Sees (draft.assign slot model) (.ok ()) := by
  rw [Draft.assign]
  exact sees_freshSerial.then fun _ => (sees_ofBuilding _).then fun _ => sees_pure _

/-! ## Expressions of a chain -/

/-- The check of a validator: its call has proper arguments. -/
def validatorCheck (slot : Slot) (expression : Text) : Except Fault Unit :=
  argumentsOfCall expression (((validatorNames slot).find? (mentions expression)).getD []) >>=
    fun _ => .ok ()

theorem sees_fillFromValidator (provider : Provider) (declaration : Declaration) (slot : Slot)
    (expression : Text) (draft : Draft) :
    Sees (fillFromValidator provider declaration slot expression draft)
      (validatorCheck slot expression) := by
  rw [fillFromValidator]
  apply sees_ofSource_bind
  intro given
  split
  · split
    · exact (sees_report _).then fun _ => sees_pure _
    · refine (sees_resolve provider _).then fun _ => (sees_assign _ _ _).then fun _ => ?_
      split
      · exact sees_pure _
      · exact sees_pure _
  · exact (sees_report _).then fun _ => sees_pure _

theorem sees_fillFromFields (custom : Custom) (slots : List Slot) (draft : Draft) :
    Sees (fillFromFields custom slots draft) (.ok ()) := by
  induction slots generalizing draft with
  | nil => exact sees_pure draft
  | cons slot rest ih =>
      rw [fillFromFields]
      split
      · exact ih draft
      · exact (sees_synthesizedFor custom slot).then fun _ => (sees_assign _ _ _).then fun _ => ih _

/-- The check of the schema passed to a custom middleware. -/
def argumentCheck (custom : Custom) (expression : Text) : Except Fault Unit :=
  match custom.schemaSlot with
  | none => .ok ()
  | some slotName =>
      if slotName.isEmpty then .ok ()
      else argumentsOfCall expression custom.name.toList >>= fun _ => .ok ()

theorem sees_fillFromArgument (provider : Provider) (declaration : Declaration) (custom : Custom)
    (expression : Text) (draft : Draft) :
    Sees (fillFromArgument provider declaration custom expression draft)
      (argumentCheck custom expression) := by
  rw [fillFromArgument, argumentCheck]
  cases custom.schemaSlot with
  | none => exact sees_pure _
  | some slotName =>
      by_cases hempty : slotName.isEmpty = true
      · simp only [hempty, if_true]
        exact sees_pure _
      · simp only [hempty]
        apply sees_ofSource_bind
        intro given
        split
        · exact sees_pure _
        · refine (sees_resolve provider _).then fun _ => ?_
          split
          · exact sees_throw _ (by simp)
          · exact sees_assign _ _ _

/-- The check of the custom middlewares that an expression mentions. -/
def customsCheck (expression : Text) : List Custom → Except Fault Unit
  | [] => .ok ()
  | custom :: rest =>
      if mentions expression custom.name.toList then
        argumentCheck custom expression >>= fun _ => customsCheck expression rest
      else customsCheck expression rest

theorem sees_fillFromCustoms (provider : Provider) (declaration : Declaration) (expression : Text)
    (customs : List Custom) (draft : Draft) :
    Sees (fillFromCustoms provider declaration expression customs draft)
      (customsCheck expression customs) := by
  induction customs generalizing draft with
  | nil => exact sees_pure draft
  | cons custom rest ih =>
      rw [fillFromCustoms, customsCheck]
      split
      · exact (sees_fillFromFields custom _ _).then fun _ =>
          (sees_fillFromArgument provider declaration custom expression _).bind fun _ => ih _
      · exact ih draft

theorem sees_declareResponses (provider : Provider) (declaration : Declaration)
    (entries : List ResponseEntry) (draft : Draft) :
    Sees (declareResponses provider declaration entries draft) (.ok ()) := by
  induction entries generalizing draft with
  | nil => exact sees_pure draft
  | cons entry rest ih =>
      rw [declareResponses]
      cases referenceOf? declaration entry.schema with
      | none => exact (sees_pure _).then fun _ => ih _
      | some reference =>
          exact (sees_resolve provider reference).then fun _ => (sees_pure _).then fun _ => ih _

/-- The check of one expression of a chain. -/
def expressionCheck (setup : Setup) (expression : Expression) : Except Fault Unit :=
  match expression.kind with
  | .validator slot => validatorCheck slot expression.text
  | .custom => customsCheck expression.text setup.customs
  | .response => declaredResponses expression.text >>= fun _ => .ok ()
  | .handler =>
      (if mentionsWrapper expression.text then declaredResponses expression.text >>= fun _ => .ok ()
        else .ok ()) >>= fun _ => operationName expression.text wrapperNames >>= fun _ => .ok ()
  | .unclassified => .ok ()

theorem sees_absorb (setup : Setup) (provider : Provider) (declaration : Declaration)
    (expression : Expression) (draft : Draft) :
    Sees (absorb setup provider declaration expression draft) (expressionCheck setup expression) := by
  rw [absorb, expressionCheck]
  have hname : ∀ given : Draft, Sees (do
      let name ← Run.ofSource (operationName expression.text wrapperNames)
      pure { given with summary := String.ofList name })
      (operationName expression.text wrapperNames >>= fun _ => .ok ()) := by
    intro given
    exact sees_ofSource_bind fun _ => sees_pure _
  cases expression.kind with
  | validator slot => exact sees_fillFromValidator provider declaration slot _ draft
  | custom => exact sees_fillFromCustoms provider declaration _ _ draft
  | response =>
      apply sees_ofSource_bind
      intro entries
      exact sees_declareResponses provider declaration entries draft
  | handler =>
      by_cases hwrapper : mentionsWrapper expression.text = true
      -- a wrapped handler declares its responses before it is named
      · simp only [hwrapper, if_true]
        rw [bind_assoc]
        apply sees_ofSource_bind
        intro entries
        exact (sees_declareResponses provider declaration entries draft).then hname
      · simp only [hwrapper]
        exact (sees_pure draft).then hname
  | unclassified => exact sees_pure draft

/-- The check of a classified chain. -/
def chainCheck (setup : Setup) : List Expression → Except Fault Unit
  | [] => .ok ()
  | expression :: rest => expressionCheck setup expression >>= fun _ => chainCheck setup rest

theorem sees_absorbAll (setup : Setup) (provider : Provider) (declaration : Declaration)
    (chain : List Expression) (draft : Draft) :
    Sees (absorbAll setup provider declaration chain draft) (chainCheck setup chain) := by
  induction chain generalizing draft with
  | nil => exact sees_pure draft
  | cons expression rest ih =>
      rw [absorbAll, chainCheck]
      exact (sees_absorb setup provider declaration expression draft).bind fun _ => ih _

theorem sees_build (setup : Setup) (provider : Provider) (declaration : Declaration)
    (subject : Subject) (chain : List Expression) :
    Sees (build setup provider declaration subject chain)
      (classify setup chain >>= chainCheck setup) := by
  rw [build]
  apply sees_ofSource_bind
  intro classified
  exact (sees_absorbAll setup provider declaration classified {}).map _

/-! ## Records -/

/-- The check of a route call in a router with a mount. -/
def recordCheck (setup : Setup) (mount : Text) (token : Route.Token) : Except Fault Unit :=
  Route.endpoint token.verb.name.toList token.arguments mount >>= fun found =>
    classify setup found.chain >>= chainCheck setup

/-- **Whether a route is passed over depends on the source text alone**, and a record is built without
a change to the texts or the document. -/
theorem sees_recordOf (context : Generator.Context) (declaration : Declaration) (tag mount : Text)
    (token : Route.Token) :
    Sees (Generator.recordOf context declaration tag mount token)
      (recordCheck context.setup mount token) := by
  rw [Generator.recordOf, recordCheck]
  apply sees_ofSource_bind
  intro found
  exact sees_build context.setup context.provider declaration _ found.chain

/-- The key under which a route call is registered, when its path can be read. -/
def routeKey? (mount : Text) (token : Route.Token) : Option (String × String) :=
  (Route.endpoint token.verb.name.toList token.arguments mount).toOption.map fun found =>
    (token.verb.name, String.ofList found.path)

theorem lower_verb (verb : Route.Verb) :
    String.ofList (Text.lower verb.name.toList) = verb.name := by
  cases verb <;> decide +kernel

/-- A record that is built has the key of its route. -/
theorem key_of_recordOf {context : Generator.Context} {declaration : Declaration} {tag mount : Text}
    {token : Route.Token} {start stop : Session} {record : Record}
    (h : Yields (Generator.recordOf context declaration tag mount token) start record stop) :
    routeKey? mount token = some record.key := by
  rw [Generator.recordOf] at h
  obtain ⟨found, s₁, h₁, h₂⟩ := yields_bind.1 h
  rw [build] at h₂
  obtain ⟨classified, s₂, -, h₃⟩ := yields_bind.1 h₂
  obtain ⟨draft, s₃, -, h₄⟩ := yields_bind.1 h₃
  obtain ⟨rfl, -⟩ := yields_pure.1 h₄
  cases hendpoint : Route.endpoint token.verb.name.toList token.arguments mount with
  | error fault =>
      rw [hendpoint] at h₁
      exact absurd h₁ not_yields_throw
  | ok endpoint =>
      rw [hendpoint] at h₁
      obtain ⟨rfl, -⟩ := yields_pure.1 h₁
      simp [routeKey?, hendpoint, Record.key, lower_verb, Except.toOption]

end RouteAtlas.Middleware
