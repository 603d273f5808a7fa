import RouteAtlas.Generator
import RouteAtlas.Proofs.Step

/-!
# Building records with any resolver

Building a record asks for schemas in three places: validators, custom middlewares and declared
responses. Here the way to come from a reference to a model is a parameter, a `Resolver`; with the
resolver of a run the definitions are those of the run (`recordOfBy_resolve`). Two records built with
two resolvers go through the same steps except where a schema is asked for. `Parallel` says so of two
steps by the way they are put together, so that a property of the resolvers is carried over to records
by one induction; `Shallow`, that a step does not fail for the depth of mounts, is the first of them.
-/

set_option autoImplicit false

namespace RouteAtlas.Middleware

open Text Source Api Schema Router Step

/-- A way to come from a reference to its model. -/
abbrev Resolver := Reference → Run Model

/-! ## Records by a resolver -/

/-- Applies the validator of a slot. -/
def fillFromValidatorBy (resolver : Resolver) (declaration : Declaration) (slot : Slot)
    (expression : Text) (draft : Draft) : Run Draft := do
  let callee := ((validatorNames slot).find? (mentions expression)).getD []
  match ← Run.ofSource (argumentsOfCall expression callee) with
  | some (first :: rest) =>
      match referenceOf? declaration first with
      | none => do
          Run.report (.noReference expression declaration.name)
          pure draft
      | some reference => do
          let model ← resolver reference
          let draft ← draft.assign slot model
          match slot, rest.head?.bind unquote? with
          | .body, some (c :: body) =>
              pure { draft with request :=
                { draft.request with contentType := String.ofList (c :: body) } }
          | _, _ => pure draft
  | _ => do
      Run.report (.bareValidator callee declaration.name)
      pure draft

/-- Assigns the schema passed to a custom middleware. -/
def fillFromArgumentBy (resolver : Resolver) (declaration : Declaration) (custom : Custom)
    (expression : Text) (draft : Draft) : Run Draft := do
  match custom.schemaSlot with
  | none => pure draft
  | some slotName =>
      if slotName.isEmpty then pure draft
      else do
        let given ← Run.ofSource (argumentsOfCall expression custom.name.toList)
        match (given.getD []).head?.bind (referenceOf? declaration) with
        | none => pure draft
        | some reference => do
            let model ← resolver reference
            match Slot.ofName? slotName with
            | none => throw (.unknownSlot slotName)
            | some slot => draft.assign slot model

/-- Applies every custom middleware that an expression mentions. -/
def fillFromCustomsBy (resolver : Resolver) (declaration : Declaration) (expression : Text) :
    List Custom → Draft → Run Draft
  | [], draft => pure draft
  | custom :: rest, draft => do
      if mentions expression custom.name.toList then
        let draft ← fillFromFields custom Slot.all draft
        let draft ← fillFromArgumentBy resolver declaration custom expression draft
        fillFromCustomsBy resolver declaration expression rest (draft.require custom.security)
      else fillFromCustomsBy resolver declaration expression rest draft

/-- Enters declared responses; a status declared again takes the last declaration. -/
def declareResponsesBy (resolver : Resolver) (declaration : Declaration) :
    List ResponseEntry → Draft → Run Draft
  | [], draft => pure draft
  | entry :: rest, draft => do
      let description := match entry.description with
        | some (c :: text) => String.ofList (c :: text)
        | _ => phraseFor entry.status entry.schema
      let body ← match referenceOf? declaration entry.schema with
        | some reference => do
            let model ← resolver reference
            pure (some model)
        | none => pure none
      let response : Response := { description := description, body := body }
      declareResponsesBy resolver declaration rest
        { draft with responses := draft.responses.put (String.ofList entry.status) response }

/-- Applies one expression of a chain. -/
def absorbBy (setup : Setup) (resolver : Resolver) (declaration : Declaration)
    (expression : Expression) (draft : Draft) : Run Draft := do
  match expression.kind with
  | .validator slot => fillFromValidatorBy resolver declaration slot expression.text draft
  | .custom => fillFromCustomsBy resolver declaration expression.text setup.customs draft
  | .response => do
      let entries ← Run.ofSource (declaredResponses expression.text)
      declareResponsesBy resolver declaration entries draft
  | .handler => do
      let draft ←
        if mentionsWrapper expression.text then do
          let entries ← Run.ofSource (declaredResponses expression.text)
          declareResponsesBy resolver declaration entries draft
        else pure draft
      let name ← Run.ofSource (operationName expression.text wrapperNames)
      pure { draft with summary := String.ofList name }
  | .unclassified => pure draft

/-- Applies a whole chain. -/
def absorbAllBy (setup : Setup) (resolver : Resolver) (declaration : Declaration) :
    List Expression → Draft → Run Draft
  | [], draft => pure draft
  | expression :: rest, draft => do
      let draft ← absorbBy setup resolver declaration expression draft
      absorbAllBy setup resolver declaration rest draft

/-- The record of an endpoint and its middleware chain. -/
def buildBy (setup : Setup) (resolver : Resolver) (declaration : Declaration) (subject : Subject)
    (chain : List Expression) : Run Record := do
  let classified ← Run.ofSource (classify setup chain)
  let draft ← absorbAllBy setup resolver declaration classified {}
  pure
    { method := subject.method
      path := subject.path
      summary := match subject.note with
        | some note => if note.isEmpty then draft.summary else note
        | none => draft.summary
      description := subject.note
      tag := subject.tag
      request := draft.request
      responses := draft.responses
      security := draft.security }

/-- The record of one route call. -/
def recordOfBy (setup : Setup) (resolver : Resolver) (declaration : Declaration) (tag mount : Text)
    (token : Route.Token) : Run Record := do
  let found ← Run.ofSource (Route.endpoint token.verb.name.toList token.arguments mount)
  buildBy setup resolver declaration
    { method := token.verb.name
      path := String.ofList found.path
      tag := String.ofList tag
      note := token.note.map String.ofList }
    found.chain

section

variable (setup : Setup) (provider : Provider) (declaration : Declaration)

theorem fillFromCustomsBy_resolve (expression : Text) (customs : List Custom) (draft : Draft) :
    fillFromCustomsBy (Run.resolve provider) declaration expression customs draft =
      fillFromCustoms provider declaration expression customs draft := by
  induction customs generalizing draft with
  | nil => rfl
  | cons custom rest ih =>
      simp only [fillFromCustomsBy, ih]
      rfl

theorem declareResponsesBy_resolve (entries : List ResponseEntry) (draft : Draft) :
    declareResponsesBy (Run.resolve provider) declaration entries draft =
      declareResponses provider declaration entries draft := by
  induction entries generalizing draft with
  | nil => rfl
  | cons entry rest ih =>
      simp only [declareResponsesBy, ih]
      rfl

theorem absorbAllBy_resolve (chain : List Expression) (draft : Draft) :
    absorbAllBy setup (Run.resolve provider) declaration chain draft =
      absorbAll setup provider declaration chain draft := by
  induction chain generalizing draft with
  | nil => rfl
  | cons expression rest ih =>
      have hfirst : absorbBy setup (Run.resolve provider) declaration expression draft =
          absorb setup provider declaration expression draft := by
        simp only [absorbBy, fillFromCustomsBy_resolve, declareResponsesBy_resolve]
        rfl
      simp only [absorbAllBy, absorbAll, hfirst, ih]

end

/-- **With the resolver of a run, records are those of the run.** -/
theorem recordOfBy_resolve (context : Generator.Context) :
    recordOfBy context.setup (Run.resolve context.provider) = Generator.recordOf context := by
  funext declaration tag mount token
  simp only [recordOfBy, buildBy, absorbAllBy_resolve]
  rfl

/-! ## Steps that differ in their resolvers -/

/-- Two steps are put together alike from steps on the way to a record, the first one with one resolver
and the second one with another. None of these steps fails for the depth of mounts or reports a cycle
of them, unless a resolver does. -/
inductive Parallel (resolver other : Resolver) : {α : Type} → Run α → Run α → Prop where
  | pure {α : Type} (value : α) : Parallel resolver other (pure value) (pure value)
  | throw {α : Type} {failure : Failure} (hfailure : failure ≠ .tooDeep) :
      Parallel resolver other (throw failure : Run α) (throw failure)
  | report {event : Event} (hevent : ∀ router chain, event ≠ .cyclicMount router chain) :
      Parallel resolver other (Run.report event) (Run.report event)
  | freshSerial : Parallel resolver other Run.freshSerial Run.freshSerial
  | synthesizedFor (custom : Custom) (slot : Slot) :
      Parallel resolver other (synthesizedFor custom slot) (synthesizedFor custom slot)
  | resolve (reference : Reference) : Parallel resolver other (resolver reference) (other reference)
  | bind {α β : Type} {step step' : Run α} {next next' : α → Run β} :
      Parallel resolver other step step' →
      (∀ value, Parallel resolver other (next value) (next' value)) →
      Parallel resolver other (step >>= next) (step' >>= next')

section

variable (resolver other : Resolver) {α : Type}

theorem parallel_ofSource (outcome : Except Fault α) :
    Parallel resolver other (Run.ofSource outcome) (Run.ofSource outcome) := by
  cases outcome with
  | ok value => exact .pure value
  | error fault => exact .throw (by simp)

theorem parallel_ofBuilding (outcome : Except BuildFault α) :
    Parallel resolver other (Run.ofBuilding outcome) (Run.ofBuilding outcome) := by
  cases outcome with
  | ok value => exact .pure value
  | error fault => exact .throw (by simp)

theorem parallel_assign (draft : Draft) (slot : Slot) (model : Model) :
    Parallel resolver other (draft.assign slot model) (draft.assign slot model) := by
  rw [Draft.assign]
  exact .bind .freshSerial fun serial => .bind (parallel_ofBuilding resolver other _) fun _ => .pure _

theorem parallel_fillFromValidator (declaration : Declaration) (slot : Slot) (expression : Text)
    (draft : Draft) :
    Parallel resolver other (fillFromValidatorBy resolver declaration slot expression draft)
      (fillFromValidatorBy other declaration slot expression draft) := by
  rw [fillFromValidatorBy, fillFromValidatorBy]
  apply Parallel.bind (parallel_ofSource resolver other _)
  intro given
  split
  · split
    · exact .bind (.report (by simp)) fun _ => .pure _
    · apply Parallel.bind (.resolve _)
      intro model
      apply Parallel.bind (parallel_assign resolver other _ _ _)
      intro filled
      split
      · exact .pure _
      · exact .pure _
  · exact .bind (.report (by simp)) fun _ => .pure _

theorem parallel_fillFromFields (custom : Custom) (slots : List Slot) (draft : Draft) :
    Parallel resolver other (fillFromFields custom slots draft) (fillFromFields custom slots draft) := by
  induction slots generalizing draft with
  | nil => exact .pure draft
  | cons slot rest ih =>
      rw [fillFromFields]
      split
      · exact ih draft
      · apply Parallel.bind (.synthesizedFor custom slot)
        intro model
        exact .bind (parallel_assign resolver other _ _ _) fun filled => ih filled

theorem parallel_fillFromArgument (declaration : Declaration) (custom : Custom) (expression : Text)
    (draft : Draft) :
    Parallel resolver other (fillFromArgumentBy resolver declaration custom expression draft)
      (fillFromArgumentBy other declaration custom expression draft) := by
  rw [fillFromArgumentBy, fillFromArgumentBy]
  split
  · exact .pure _
  · split
    · exact .pure _
    · apply Parallel.bind (parallel_ofSource resolver other _)
      intro given
      split
      · exact .pure _
      · apply Parallel.bind (.resolve _)
        intro model
        -- the schema is asked for before the slot is looked up
        split
        · exact .throw (by simp)
        · exact parallel_assign resolver other _ _ _

theorem parallel_fillFromCustoms (declaration : Declaration) (expression : Text)
    (customs : List Custom) (draft : Draft) :
    Parallel resolver other (fillFromCustomsBy resolver declaration expression customs draft)
      (fillFromCustomsBy other declaration expression customs draft) := by
  induction customs generalizing draft with
  | nil => exact .pure draft
  | cons custom rest ih =>
      rw [fillFromCustomsBy, fillFromCustomsBy]
      split
      · apply Parallel.bind (parallel_fillFromFields resolver other custom _ _)
        intro filled
        apply Parallel.bind (parallel_fillFromArgument resolver other declaration custom expression _)
        intro given
        exact ih _
      · exact ih draft

theorem parallel_declareResponses (declaration : Declaration) (entries : List ResponseEntry)
    (draft : Draft) :
    Parallel resolver other (declareResponsesBy resolver declaration entries draft)
      (declareResponsesBy other declaration entries draft) := by
  induction entries generalizing draft with
  | nil => exact .pure draft
  | cons entry rest ih =>
      rw [declareResponsesBy, declareResponsesBy]
      split
      · exact .bind (.resolve _) fun model => .bind (.pure _) fun body => ih _
      · exact .bind (.pure none) fun body => ih _

theorem parallel_absorb (setup : Setup) (declaration : Declaration) (expression : Expression)
    (draft : Draft) :
    Parallel resolver other (absorbBy setup resolver declaration expression draft)
      (absorbBy setup other declaration expression draft) := by
  rw [absorbBy, absorbBy]
  cases expression.kind with
  | validator slot => exact parallel_fillFromValidator resolver other declaration slot _ draft
  | custom => exact parallel_fillFromCustoms resolver other declaration _ _ draft
  | response =>
      apply Parallel.bind (parallel_ofSource resolver other _)
      intro entries
      exact parallel_declareResponses resolver other declaration entries draft
  | handler =>
      have hname : ∀ given : Draft, Parallel resolver other
          (do
            let name ← Run.ofSource (operationName expression.text wrapperNames)
            pure { given with summary := String.ofList name })
          (do
            let name ← Run.ofSource (operationName expression.text wrapperNames)
            pure { given with summary := String.ofList name }) := by
        intro given
        exact .bind (parallel_ofSource resolver other _) fun _ => .pure _
      simp only
      split
      -- a wrapped handler declares its responses before it is named
      · apply Parallel.bind (parallel_ofSource resolver other _)
        intro entries
        exact .bind (parallel_declareResponses resolver other declaration entries draft) hname
      · exact .bind (.pure draft) hname
  | unclassified => exact .pure draft

theorem parallel_absorbAll (setup : Setup) (declaration : Declaration) (chain : List Expression)
    (draft : Draft) :
    Parallel resolver other (absorbAllBy setup resolver declaration chain draft)
      (absorbAllBy setup other declaration chain draft) := by
  induction chain generalizing draft with
  | nil => exact .pure draft
  | cons expression rest ih =>
      rw [absorbAllBy, absorbAllBy]
      exact .bind (parallel_absorb resolver other setup declaration expression draft) fun given =>
        ih given

/-- **Records by two resolvers are built in parallel.** -/
theorem parallel_recordOf (setup : Setup) (declaration : Declaration) (tag mount : Text)
    (token : Route.Token) :
    Parallel resolver other (recordOfBy setup resolver declaration tag mount token)
      (recordOfBy setup other declaration tag mount token) := by
  rw [recordOfBy, recordOfBy]
  apply Parallel.bind (parallel_ofSource resolver other _)
  intro found
  rw [buildBy, buildBy]
  apply Parallel.bind (parallel_ofSource resolver other _)
  intro classified
  exact .bind (parallel_absorbAll resolver other setup declaration classified {}) fun _ => .pure _

end

/-! ## Failures other than those of depth -/

/-- A step does not fail for the depth of mounts. -/
def Shallow {α : Type} (step : Run α) : Prop := ∀ session, (result step session).1 ≠ .error .tooDeep

section

variable {α β : Type}

theorem shallow_pure (value : α) : Shallow (pure value : Run α) := by
  intro session h
  cases h

theorem shallow_throw {failure : Failure} (h : failure ≠ .tooDeep) :
    Shallow (throw failure : Run α) := by
  intro session hfailure
  cases hfailure
  exact h rfl

theorem shallow_modify (change : Session → Session) : Shallow (modify change : Run PUnit) := by
  intro session h
  cases h

theorem shallow_get : Shallow (get : Run Session) := by
  intro session h
  cases h

theorem Shallow.bind {step : Run α} {next : α → Run β} (hstep : Shallow step)
    (hnext : ∀ value, Shallow (next value)) : Shallow (step >>= next) := by
  intro session h
  rcases error_bind.1 h with hfirst | ⟨value, middle, -, hsecond⟩
  · exact hstep session hfirst
  · exact hnext value middle hsecond

/-- What goes on behind the outcome of a step may fail as the step did. -/
theorem Shallow.attempt_bind {step : Run α} {next : Except Failure α → Run β} (hstep : Shallow step)
    (hnext : ∀ outcome, outcome ≠ .error .tooDeep → Shallow (next outcome)) :
    Shallow (step.attempt >>= next) := by
  intro session h
  rcases error_bind.1 h with hattempt | ⟨outcome, middle, hattempt, hlast⟩
  · cases hattempt
  · cases hattempt
    exact hnext _ (hstep session) _ hlast

theorem shallow_ofBuilding (outcome : Except BuildFault α) : Shallow (Run.ofBuilding outcome) := by
  cases outcome with
  | ok value => exact shallow_pure value
  | error fault => exact shallow_throw (by simp)

theorem shallow_load (provider : Provider) (reference : Reference) :
    Shallow (Run.load provider reference) := by
  rw [Run.load]
  apply (shallow_modify _).bind
  intro _
  split
  · exact shallow_pure _
  · apply shallow_get.bind
    intro session
    split
    · exact shallow_pure _
    · exact (shallow_modify _).bind fun _ => (shallow_modify _).bind fun _ => shallow_pure _

theorem shallow_resolve (provider : Provider) (reference : Reference) :
    Shallow (Run.resolve provider reference) := by
  rw [Run.resolve]
  apply shallow_get.bind
  intro session
  split
  · exact shallow_pure _
  · apply (shallow_load provider reference).bind
    intro outcome
    split
    · exact (shallow_modify _).bind fun _ => shallow_pure _
    · exact shallow_throw (by simp)
    · exact shallow_throw (by simp)
    · exact shallow_throw (by simp)

theorem shallow_synthesizedFor (custom : Custom) (slot : Slot) :
    Shallow (synthesizedFor custom slot) := by
  have hserial : Shallow Run.freshSerial := by
    intro session h
    cases h
  rw [synthesizedFor]
  apply shallow_get.bind
  intro session
  split
  · exact shallow_pure _
  · apply hserial.bind
    intro serial
    apply (shallow_ofBuilding _).bind
    intro model
    exact (shallow_modify _).bind fun _ => shallow_pure _

theorem Parallel.shallow {resolver other : Resolver} (hresolver : ∀ reference, Shallow (resolver reference))
    {step step' : Run α} (h : Parallel resolver other step step') : Shallow step := by
  induction h with
  | pure value => exact shallow_pure value
  | throw hfailure => exact shallow_throw hfailure
  | report _ => exact shallow_modify _
  | freshSerial =>
      intro session h
      cases h
  | synthesizedFor custom slot => exact shallow_synthesizedFor custom slot
  | resolve reference => exact hresolver reference
  | bind _ _ hstep hnext => exact hstep.bind hnext

end

end RouteAtlas.Middleware
