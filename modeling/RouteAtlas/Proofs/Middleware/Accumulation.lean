import RouteAtlas.Proofs.Middleware.Caching
import RouteAtlas.Proofs.Unions

/-!
# What a chain contributes

A record sums up what the expressions of its chain contribute. Validators contribute the schemas they are
given; a custom middleware contributes a schema of the fields it demands and then the schema it is given;
response validators and a wrapped handler declare responses; custom middlewares require security schemes.
A slot of the request holds the ordered union of the schemas contributed to it, a status the response that
is declared for it last, and a security scheme is listed where it is required first
(`build_accumulates`).

A schema that is contributed to a slot twice is not merged with itself. That this changes nothing rests on
the identities of models: what a slot holds and what is contributed to it have one identity only if they are
the same model, whatever the session keeps from earlier records (`eq_of_identity`).

Where names of custom middlewares come twice, the schema kept under a name has the fields of the first of
them. A chain then contributes what it would if each of them demanded these fields (`Setup.settled`,
`adds_absorbAll`).
-/

set_option autoImplicit false

namespace RouteAtlas.Middleware

open Text Source Api Schema Router Step

/-! ## Accounts -/

/-- What expressions contribute: the fields of schemas with their slots, responses with their statuses and
the names of security schemes, each in order. -/
structure Account where
  schemas : List (Slot × List Field) := []
  responses : List (String × Response) := []
  security : List String := []

/-- One account after another. -/
def Account.add (first second : Account) : Account :=
  { schemas := first.schemas ++ second.schemas
    responses := first.responses ++ second.responses
    security := first.security ++ second.security }

/-- Accounts one after the other. -/
def Account.sum (accounts : List Account) : Account := accounts.foldr Account.add {}

/-- The fields of the schemas contributed to a slot, schema by schema. -/
def Account.of (account : Account) (slot : Slot) : List (List Field) :=
  (account.schemas.filter fun schema => schema.1 = slot).map Prod.snd

/-- The schema of a text that names one. -/
def namedSchema? (provider : Provider) (declaration : Declaration) (text : Text) : Option Model :=
  (referenceOf? declaration text).bind fun reference => (provider reference).outcome.toOption

/-- The schema that the call of a name in an expression is given first. -/
def givenSchema? (provider : Provider) (declaration : Declaration) (expression callee : Text) :
    Option Model :=
  match argumentsOfCall expression callee with
  | .ok (some (first :: _)) => namedSchema? provider declaration first
  | _ => none

/-- A schema in a slot, if there is one. -/
def schemaIn (slot : Slot) (schema : Option Model) : List (Slot × List Field) :=
  schema.toList.map fun model => (slot, model.fields)

/-- What a custom middleware contributes where it is mentioned. -/
def customAccount (provider : Provider) (declaration : Declaration) (expression : Text) (custom : Custom) :
    Account where
  schemas :=
    ((Slot.all.filter fun slot => !(custom.fields slot).isEmpty).map fun slot =>
      (slot, (custom.fields slot).map namedField)) ++
    match custom.schemaSlot.bind Slot.ofName? with
    | some slot => schemaIn slot (givenSchema? provider declaration expression custom.name.toList)
    | none => []
  security := (custom.security.filter fun name => !name.isEmpty).toList

/-- A declared response under its status. -/
def responseUnder (provider : Provider) (declaration : Declaration) (entry : ResponseEntry) :
    String × Response :=
  (String.ofList entry.status,
    { description := match entry.description with
        | some (c :: text) => String.ofList (c :: text)
        | _ => phraseFor entry.status entry.schema
      body := namedSchema? provider declaration entry.schema })

/-- The responses that an expression declares. -/
def responsesOf (provider : Provider) (declaration : Declaration) (expression : Text) :
    List (String × Response) :=
  match declaredResponses expression with
  | .ok entries => entries.map (responseUnder provider declaration)
  | .error _ => []

/-- What an expression of a chain contributes. -/
def accountOf (setup : Setup) (provider : Provider) (declaration : Declaration) (expression : Expression) :
    Account :=
  match expression.kind with
  | .validator slot =>
      let callee := ((validatorNames slot).find? (mentions expression.text)).getD []
      { schemas := schemaIn slot (givenSchema? provider declaration expression.text callee) }
  | .custom =>
      Account.sum ((setup.customs.filter fun custom => mentions expression.text custom.name.toList).map
        (customAccount provider declaration expression.text))
  | .response => { responses := responsesOf provider declaration expression.text }
  | .handler =>
      if mentionsWrapper expression.text then
        { responses := responsesOf provider declaration expression.text }
      else {}
  | .unclassified => {}

/-- A custom middleware with the fields that a session comes to keep for it: in a slot in which it demands
any, those of the first one of its name that demands some there. -/
def Custom.settled (customs : List Custom) (custom : Custom) : Custom :=
  let fields := fun (slot : Slot) =>
    if (custom.fields slot).isEmpty then [] else demandedFields customs custom.name slot
  { custom with
    query := fields .query
    path := fields .path
    header := fields .header
    body := fields .body }

/-- A setup in which every custom middleware has the fields that are kept for it. -/
def Setup.settled (setup : Setup) : Setup :=
  { setup with customs := setup.customs.map (Custom.settled setup.customs) }

/-- A record sums up an account. A slot is empty exactly if no schema was contributed to it, and holds the
ordered union of the contributed schemas otherwise, the last field of each member at the place of the first;
the responses are the last ones of their statuses at the places of the first; the security schemes are the
required ones, each once, in the order in which they are required first. -/
structure SumsUp (account : Account) (record : Record) : Prop where
  empty : ∀ slot, record.request.get? slot = none ↔ account.of slot = []
  fields : ∀ slot model, record.request.get? slot = some model →
    LastOfEach Field.member (account.of slot).flatten model.fields
  responses : LastOfEach Prod.fst account.responses record.responses
  security : record.security = account.security.eraseDups

/-- A provider whose models are declared ones with distinct members, one for each identity. -/
structure IsLibrary (provider : Provider) : Prop where
  declares : Declares provider
  one : ∀ reference other model model', (provider reference).outcome = .ok model →
    (provider other).outcome = .ok model' → model.identity = model'.identity → model = model'
  distinct : ∀ reference model, (provider reference).outcome = .ok model → model.members.Nodup

/-! ## Identities -/

/-- A model that can be contributed: the provider gives it, or the session keeps it. -/
def Offered (provider : Provider) (session : Session) (model : Model) : Prop :=
  (∃ reference, (provider reference).outcome = .ok model) ∨
    ∃ key, session.synthesized.get? key = some model

/-- A model that a slot can hold: the provider gives it, or it was composed under a number that no other
model kept by the session has. -/
def Held (provider : Provider) (session : Session) (model : Model) : Prop :=
  (∃ reference, (provider reference).outcome = .ok model) ∨
    ∃ serial < session.serial, model.identity = .built serial ∧
      ∀ key kept, session.synthesized.get? key = some kept → kept.identity = .built serial → kept = model

section

variable {setup : Setup} {provider : Provider} {session stop : Session} {model other : Model}

theorem Offered.later (h : Offered provider session model) (hlater : Later setup provider session stop) :
    Offered provider stop model := by
  rcases h with hprovided | ⟨key, hkept⟩
  · exact .inl hprovided
  · exact .inr ⟨key, hlater.kept key model hkept⟩

theorem Held.later (h : Held provider session model) (hlater : Later setup provider session stop) :
    Held provider stop model := by
  rcases h with hprovided | ⟨serial, hserial, hidentity, hkept⟩
  · exact .inl hprovided
  · refine .inr ⟨serial, hserial.trans_le hlater.serial_le, hidentity, fun key kept hget hkeeps => ?_⟩
    -- a model kept under an old number was kept before
    obtain ⟨old, hold, hnumber⟩ := hlater.fresh key serial ⟨kept, hget, hkeeps⟩ hserial
    cases hget.symm.trans (hlater.kept key old hold)
    exact hkept key kept hold hnumber

theorem Offered.held (h : Coherent setup provider session) (hoffered : Offered provider session model) :
    Held provider session model := by
  rcases hoffered with hprovided | ⟨⟨name, slot⟩, hkept⟩
  · exact .inl hprovided
  · obtain ⟨serial, hserial, hkeeps, -⟩ := h.exists_keeps hkept
    obtain ⟨model', hmodel', hidentity⟩ := id hkeeps
    cases hkept.symm.trans hmodel'
    refine .inr ⟨serial, hserial, hidentity, fun key kept hget hnumber => ?_⟩
    obtain rfl := h.distinct key (name, slot) serial ⟨kept, hget, hnumber⟩ hkeeps
    exact Option.some.inj (hget.symm.trans hkept)

/-- **What a slot holds and what is contributed to it have one identity only if they are the same.** -/
theorem eq_of_identity (hlibrary : IsLibrary provider) (h : Coherent setup provider session)
    (hheld : Held provider session model) (hoffered : Offered provider session other)
    (hidentity : other.identity = model.identity) : other = model := by
  -- declared models are told from composed ones by their identities
  rcases hoffered with ⟨reference, hother⟩ | ⟨key, hkept⟩
  · rcases hheld with ⟨reference', hmodel⟩ | ⟨serial, -, hbuilt, -⟩
    · exact hlibrary.one _ _ _ _ hother hmodel hidentity
    · obtain ⟨home, name, hdeclared⟩ := hlibrary.declares reference other hother
      cases (hdeclared.symm.trans hidentity).trans hbuilt
  · rcases hheld with ⟨reference', hmodel⟩ | ⟨serial, -, hbuilt, honly⟩
    · obtain ⟨home, name, hdeclared⟩ := hlibrary.declares reference' model hmodel
      obtain ⟨kept, -, ⟨model', hmodel', hnumber⟩, -⟩ := h.exists_keeps hkept
      cases hkept.symm.trans hmodel'
      cases (hnumber.symm.trans hidentity).trans hdeclared
    · exact honly key other hkept (hidentity.trans hbuilt)

end

/-! ## Drafts -/

/-- What a slot holds after the schemas contributed to it. -/
inductive Fills (provider : Provider) (session : Session) : List (List Field) → Option Model → Prop where
  | empty : Fills provider session [] none
  | filled {maps : List (List Field)} {model : Model} : maps ≠ [] →
      LastOfEach Field.member maps.flatten model.fields → Held provider session model →
      Fills provider session maps (some model)

/-- A draft holds what an account lists. -/
structure Draft.Sums (provider : Provider) (session : Session) (account : Account) (draft : Draft) :
    Prop where
  slots : ∀ slot, Fills provider session (account.of slot) (draft.request.get? slot)
  responses : LastOfEach Prod.fst account.responses draft.responses
  security : draft.security = account.security.eraseDups

/-- A step from one draft to the next adds an account to what the draft holds. -/
def Adds (setup : Setup) (provider : Provider) (step : Draft → Run Draft) (account : Account) : Prop :=
  ∀ session draft before draft' stop, Coherent setup provider session →
    draft.Sums provider session before → Yields (step draft) session draft' stop →
    Later setup provider session stop ∧ draft'.Sums provider stop (before.add account)

namespace Account

@[simp] theorem add_empty (account : Account) : account.add {} = account := by
  simp [add]

@[simp] theorem empty_add (account : Account) : add {} account = account := by
  simp [add]

theorem add_assoc (first second third : Account) :
    (first.add second).add third = first.add (second.add third) := by
  simp [add]

theorem of_add (first second : Account) (slot : Slot) :
    (first.add second).of slot = first.of slot ++ second.of slot := by
  simp [of, add]

end Account

section

variable {setup : Setup} {provider : Provider} {session stop : Session} {model : Model}

theorem Fills.later {maps : List (List Field)} {held : Option Model} (h : Fills provider session maps held)
    (hlater : Later setup provider session stop) : Fills provider stop maps held := by
  cases h with
  | empty => exact .empty
  | filled hne hfields hheld => exact .filled hne hfields (hheld.later hlater)

/-- A slot is empty exactly if nothing was contributed to it, and holds the union of what was. -/
theorem Fills.spec {maps : List (List Field)} {held : Option Model} (h : Fills provider session maps held) :
    (held = none ↔ maps = []) ∧
      ∀ model, held = some model → LastOfEach Field.member maps.flatten model.fields := by
  cases h with
  | empty => exact ⟨iff_of_true rfl rfl, fun model hmodel => absurd hmodel (by simp)⟩
  | filled hne hfields _ =>
      refine ⟨iff_of_false (by simp) hne, ?_⟩
      rintro _ ⟨⟩
      exact hfields

theorem Draft.Sums.later {account : Account} {draft : Draft} (h : draft.Sums provider session account)
    (hlater : Later setup provider session stop) : draft.Sums provider stop account :=
  ⟨fun slot => (h.slots slot).later hlater, h.responses, h.security⟩

theorem draft_sums_empty : Draft.Sums provider session {} {} := by
  refine ⟨fun slot => ?_, LastOfEach.nil _, rfl⟩
  cases slot <;> exact .empty

/-! ## Steps -/

theorem yields_ofSource {α : Type} {outcome : Except Fault α} {value : α} {start : Session} :
    Yields (Run.ofSource outcome) start value stop ↔ outcome = .ok value ∧ stop = start := by
  cases outcome with
  | ok given =>
      rw [Run.ofSource, yields_pure, Except.ok.injEq]
      exact and_congr_left fun _ => eq_comm
  | error fault => exact iff_of_false not_yields_throw (by simp)

theorem adds_pure : Adds setup provider pure {} := by
  intro session draft before draft' stop hcoherent hsums hyields
  obtain ⟨rfl, rfl⟩ := yields_pure.1 hyields
  exact ⟨hcoherent.later_refl, by simpa using hsums⟩

/-- Steps one after the other add their accounts. -/
theorem Adds.bind {step next : Draft → Run Draft} {first second : Account}
    (h : Adds setup provider step first) (hnext : Adds setup provider next second) :
    Adds setup provider (fun draft => step draft >>= next) (first.add second) := by
  intro session draft before draft' stop hcoherent hsums hyields
  obtain ⟨between, middle, hfirst, hsecond⟩ := yields_bind.1 hyields
  obtain ⟨hmiddle, hbetween⟩ := h _ _ _ _ _ hcoherent hsums hfirst
  obtain ⟨hstop, hdraft'⟩ := hnext _ _ _ _ _ hmiddle.coherent hbetween hsecond
  rw [← Account.add_assoc]
  exact ⟨hmiddle.trans hstop, hdraft'⟩

theorem yields_resolve {reference : Reference} (h : Coherent setup provider session)
    (hyields : Yields (Run.resolve provider reference) session model stop) :
    Later setup provider session stop ∧ (provider reference).outcome = .ok model := by
  obtain ⟨hresult, hlater⟩ := resolve_spec h reference
  rw [hyields.final_eq] at hlater
  rw [hyields] at hresult
  refine ⟨hlater, ?_⟩
  rw [resolution] at hresult
  split at hresult
  · rename_i given hgiven
    cases hresult
    exact hgiven
  all_goals cases hresult

/-! ## Slots -/

theorem assign_cases {request request' : Request} {serial : Nat} {slot : Slot}
    (h : request.assign serial slot model = .ok request') :
    (∀ other, other ≠ slot → request'.get? other = request.get? other) ∧
      ((request.get? slot = none ∧ request'.get? slot = some model) ∨
        ∃ current merged, request.get? slot = some current ∧ current.merge serial model = .ok merged ∧
          request'.get? slot = some merged) := by
  rw [Request.assign] at h
  cases hcurrent : request.get? slot with
  | none =>
      simp only [hcurrent, Except.ok.injEq] at h
      subst h
      exact ⟨fun other hother => Request.get?_set_of_ne _ _ hother, .inl ⟨rfl, Request.get?_set_self _ _ _⟩⟩
  | some current =>
      simp only [hcurrent] at h
      cases hmerge : current.merge serial model with
      | error fault =>
          rw [hmerge] at h
          cases h
      | ok merged =>
          rw [hmerge] at h
          cases h
          exact ⟨fun other hother => Request.get?_set_of_ne _ _ hother,
            .inr ⟨current, merged, rfl, hmerge, Request.get?_set_self _ _ _⟩⟩

/-- Merging gives the schema itself, or the union of the fields under the new number. -/
theorem merge_cases {current merged : Model} {serial : Nat}
    (h : current.merge serial model = .ok merged) :
    (model.identity = current.identity ∧ merged = current) ∨
      (merged.identity = .built serial ∧
        merged.fields = putFields (putFields [] current.fields) model.fields) := by
  rw [Model.merge] at h
  split at h
  · rename_i hidentity
    exact .inl ⟨hidentity, (Except.ok.inj h).symm⟩
  · rcases Model.checked_built
        (if current.name = model.name then current.name else current.name ++ model.name)
      (putFields (putFields [] current.fields) model.fields) with ⟨fault, hfault⟩ | hbuilt
    · cases (hfault serial).symm.trans h
    · cases (hbuilt serial).symm.trans h
      exact .inr ⟨rfl, rfl⟩

/-- A schema put in a slot is joined to those contributed to it, whether it is merged or given again. -/
theorem fills_assign (hlibrary : IsLibrary provider) (h : Coherent setup provider session)
    {request request' : Request} {slot : Slot} {maps : List (List Field)}
    (hfills : Fills provider session maps (request.get? slot)) (hoffered : Offered provider session model)
    {given : List Field} (hgiven : LastOfEach Field.member given model.fields)
    (hassign : request.assign session.serial slot model = .ok request') :
    Fills provider { session with serial := session.serial + 1 } (maps ++ [given])
      (request'.get? slot) := by
  have hne : maps ++ [given] ≠ [] := by simp
  have hflatten : (maps ++ [given]).flatten = maps.flatten ++ given := by simp
  rcases (assign_cases hassign).2 with ⟨hnone, hset⟩ | ⟨current, merged, hcurrent, hmerge, hset⟩
  · rw [hnone] at hfills
    rw [hset]
    cases hfills
    exact .filled hne (by simpa using hgiven) ((hoffered.held h).later h.later_serial)
  · rw [hcurrent] at hfills
    rw [hset]
    cases hfills with
    | filled hne' hfields hheld =>
        rcases merge_cases hmerge with ⟨hidentity, rfl⟩ | ⟨hidentity, hmerged⟩
        · -- what has the identity of the schema in the slot is this schema, so its fields come again
          obtain rfl := eq_of_identity hlibrary h hheld hoffered hidentity
          refine .filled hne ?_ (hheld.later h.later_serial)
          rw [hflatten]
          exact hfields.again hgiven
        · refine .filled hne ?_ (.inr ⟨session.serial, Nat.lt_succ_self _, hidentity, ?_⟩)
          · rw [hflatten, hmerged]
            exact lastOfEach_putFields (lastOfEach_putFields (LastOfEach.nil _) hfields) hgiven
          · -- the number has just been given out, so nothing is kept under it
            intro key kept hkept hnumber
            exact absurd (h.serial_lt ⟨kept, hkept, hnumber⟩) (lt_irrefl _)

/-- **Putting a schema in a slot adds it to what is contributed to this slot**, and to no other one. -/
theorem sums_assign (hlibrary : IsLibrary provider) (h : Coherent setup provider session)
    {draft draft' : Draft} {account : Account} (hsums : draft.Sums provider session account)
    (hoffered : Offered provider session model) {given : List Field}
    (hgiven : LastOfEach Field.member given model.fields) {slot : Slot}
    (hyields : Yields (draft.assign slot model) session draft' stop) :
    Later setup provider session stop ∧
      draft'.Sums provider stop (account.add { schemas := [(slot, given)] }) := by
  rw [Yields, result_assign] at hyields
  cases hassign : draft.request.assign session.serial slot model with
  | error fault =>
      rw [hassign] at hyields
      cases hyields
  | ok request =>
      rw [hassign] at hyields
      cases hyields
      have hlater := h.later_serial
      obtain ⟨hothers, hslot⟩ := assign_cases hassign
      refine ⟨hlater, fun other => ?_, by simpa [Account.add] using hsums.responses,
        by simpa [Account.add] using hsums.security⟩
      rw [Account.of_add]
      by_cases hother : other = slot
      · subst hother
        have hone : Account.of { schemas := [(other, given)] } other = [given] := by
          simp [Account.of]
        rw [hone]
        exact fills_assign hlibrary h (hsums.slots other) hoffered hgiven hassign
      · have hnone : Account.of { schemas := [(slot, given)] } other = [] := by
          simp [Account.of, Ne.symm hother]
        rw [hnone, List.append_nil]
        show Fills provider _ (account.of other) (request.get? other)
        rw [hothers other hother]
        exact (hsums.slots other).later hlater

/-! ## Expressions of a chain -/

theorem yields_reported {event : Event} {draft draft' : Draft} (h : Coherent setup provider session)
    (hyields : Yields (do Run.report event; pure draft) session draft' stop) :
    Later setup provider session stop ∧ draft' = draft := by
  obtain ⟨_, middle, hreport, hpure⟩ := yields_bind.1 hyields
  obtain ⟨rfl, rfl⟩ := yields_pure.1 hpure
  cases hreport
  exact ⟨h.later_of_eq rfl rfl rfl, rfl⟩

/-- A schema that is resolved and put in a slot. -/
theorem adds_resolved (hlibrary : IsLibrary provider) (reference : Reference) (slot : Slot) :
    Adds setup provider (fun draft => do
        let model ← Run.resolve provider reference
        draft.assign slot model)
      { schemas := schemaIn slot (provider reference).outcome.toOption } := by
  intro session draft before draft' stop h hsums hyields
  obtain ⟨model, middle, hresolve, hassign⟩ := yields_bind.1 hyields
  obtain ⟨hmiddle, hmodel⟩ := yields_resolve h hresolve
  have hgiven : LastOfEach Field.member model.fields model.fields :=
    LastOfEach.of_nodup (hlibrary.distinct reference model hmodel)
  obtain ⟨hstop, hdraft'⟩ := sums_assign hlibrary hmiddle.coherent (hsums.later hmiddle)
    (.inl ⟨reference, hmodel⟩) hgiven hassign
  rw [hmodel]
  exact ⟨hmiddle.trans hstop, hdraft'⟩

theorem Draft.Sums.withContentType {account : Account} {draft : Draft}
    (h : draft.Sums provider session account) (contentType : String) :
    Draft.Sums provider session account
      { draft with request := { draft.request with contentType := contentType } } := by
  refine ⟨fun slot => ?_, h.responses, h.security⟩
  have hslot := h.slots slot
  cases slot <;> exact hslot

/-- **A validator adds the schema it is given to its slot.** -/
theorem adds_fillFromValidator (hlibrary : IsLibrary provider) (declaration : Declaration) (slot : Slot)
    (expression : Text) :
    Adds setup provider (fillFromValidator provider declaration slot expression)
      { schemas := schemaIn slot (givenSchema? provider declaration expression
          (((validatorNames slot).find? (mentions expression)).getD [])) } := by
  intro session draft before draft' stop h hsums hyields
  rw [fillFromValidator] at hyields
  obtain ⟨given, middle, hgiven, hrest⟩ := yields_bind.1 hyields
  obtain ⟨harguments, rfl⟩ := yields_ofSource.1 hgiven
  rw [givenSchema?, harguments]
  have reported : ∀ {event : Event}, Yields (do Run.report event; pure draft) middle draft' stop →
      Later setup provider middle stop ∧ draft'.Sums provider stop (before.add {}) := by
    intro event hreported
    obtain ⟨hstop, rfl⟩ := yields_reported h hreported
    exact ⟨hstop, by simpa using hsums.later hstop⟩
  rcases given with _ | _ | ⟨first, rest⟩
  · exact reported hrest
  · exact reported hrest
  · dsimp only at hrest ⊢
    rw [namedSchema?]
    cases hreference : referenceOf? declaration first with
    | none =>
        rw [hreference] at hrest
        exact reported hrest
    | some reference =>
        simp only [hreference] at hrest
        obtain ⟨model, later, hresolve, hfilled⟩ := yields_bind.1 hrest
        obtain ⟨filled, last, hassign, hcontent⟩ := yields_bind.1 hfilled
        obtain ⟨hlast, hadded⟩ := adds_resolved hlibrary reference slot _ _ _ _ _ h hsums
          (yields_bind.2 ⟨model, later, hresolve, hassign⟩)
        -- the content type of a body is no schema
        split at hcontent
        · obtain ⟨rfl, rfl⟩ := yields_pure.1 hcontent
          exact ⟨hlast, hadded.withContentType _⟩
        · obtain ⟨rfl, rfl⟩ := yields_pure.1 hcontent
          exact ⟨hlast, hadded⟩

/-- What is demanded under a name is what the first custom middleware of this name that demands anything
demands. -/
theorem demandedFields_cases {customs : List Custom} {custom : Custom} (hcustom : custom ∈ customs)
    {slot : Slot} (hdemands : (custom.fields slot).isEmpty = false) :
    ∃ first ∈ customs, first.name = custom.name ∧ (first.fields slot).isEmpty = false ∧
      demandedFields customs custom.name slot = first.fields slot := by
  rw [demandedFields]
  cases hfind : customs.find? fun candidate =>
      candidate.name == custom.name && !(candidate.fields slot).isEmpty with
  | none =>
      have hnot := List.find?_eq_none.1 hfind custom hcustom
      simp [hdemands] at hnot
  | some first =>
      have hfound := List.find?_some hfind
      rw [Bool.and_eq_true, beq_iff_eq, Bool.not_eq_true'] at hfound
      exact ⟨first, List.mem_of_find?_eq_some hfind, hfound.1, hfound.2, rfl⟩

theorem isEmpty_demandedFields {customs : List Custom} {custom : Custom} (hcustom : custom ∈ customs)
    {slot : Slot} (hdemands : (custom.fields slot).isEmpty = false) :
    (demandedFields customs custom.name slot).isEmpty = false := by
  obtain ⟨first, -, -, hfirst, heq⟩ := demandedFields_cases hcustom hdemands
  rw [heq]
  exact hfirst

/-- Among distinct names every custom middleware is the first one of its name. -/
theorem demandedFields_eq {customs : List Custom} (hnames : (customs.map Custom.name).Nodup)
    {custom : Custom} (hcustom : custom ∈ customs) {slot : Slot}
    (hdemands : (custom.fields slot).isEmpty = false) :
    demandedFields customs custom.name slot = custom.fields slot := by
  obtain ⟨first, hfirst, hname, -, heq⟩ := demandedFields_cases hcustom hdemands
  rw [heq, List.inj_on_of_nodup_map hnames hfirst hcustom hname]

theorem Custom.fields_settled (customs : List Custom) (custom : Custom) (slot : Slot) :
    (custom.settled customs).fields slot =
      if (custom.fields slot).isEmpty then [] else demandedFields customs custom.name slot := by
  cases slot <;> rfl

/-- A setup with distinct names is settled. -/
theorem Setup.settled_eq (hnames : (setup.customs.map Custom.name).Nodup) : setup.settled = setup := by
  have hsame : ∀ custom ∈ setup.customs, custom.settled setup.customs = custom := by
    intro custom hcustom
    have hfields : ∀ slot, (custom.settled setup.customs).fields slot = custom.fields slot := by
      intro slot
      rw [Custom.fields_settled]
      cases hdemands : (custom.fields slot).isEmpty with
      | true => rw [if_pos rfl, List.isEmpty_iff.1 hdemands]
      | false => rw [if_neg (by simp), demandedFields_eq hnames hcustom hdemands]
    have hquery := hfields .query
    have hpath := hfields .path
    have hheader := hfields .header
    have hbody := hfields .body
    cases custom
    simp only [Custom.fields, Custom.settled] at hquery hpath hheader hbody ⊢
    rw [hquery, hpath, hheader, hbody]
  rw [Setup.settled, List.map_congr_left hsame, List.map_id']

/-- A settled custom middleware contributes the fields demanded under its name. -/
theorem customAccount_settled {custom : Custom} (hcustom : custom ∈ setup.customs)
    {declaration : Declaration} {expression : Text} :
    customAccount provider declaration expression (custom.settled setup.customs) =
      { schemas := ((Slot.all.filter fun slot => !(custom.fields slot).isEmpty).map fun slot =>
          (slot, (demandedFields setup.customs custom.name slot).map namedField)) ++
          match custom.schemaSlot.bind Slot.ofName? with
          | some slot => schemaIn slot (givenSchema? provider declaration expression custom.name.toList)
          | none => []
        security := (custom.security.filter fun name => !name.isEmpty).toList } := by
  have hfilter : (Slot.all.filter fun slot => !((custom.settled setup.customs).fields slot).isEmpty) =
      Slot.all.filter fun slot => !(custom.fields slot).isEmpty := by
    refine List.filter_congr fun slot _ => ?_
    rw [Custom.fields_settled]
    cases hdemands : (custom.fields slot).isEmpty with
    | true => rfl
    | false => rw [if_neg (by simp), isEmpty_demandedFields hcustom hdemands]
  have hfields : (Slot.all.filter fun slot => !(custom.fields slot).isEmpty).map (fun slot =>
        (slot, ((custom.settled setup.customs).fields slot).map namedField)) =
      (Slot.all.filter fun slot => !(custom.fields slot).isEmpty).map fun slot =>
        (slot, (demandedFields setup.customs custom.name slot).map namedField) := by
    refine List.map_congr_left fun slot hslot => ?_
    have hdemands : (custom.fields slot).isEmpty = false := by
      simpa using (List.mem_filter.1 hslot).2
    rw [Custom.fields_settled, if_neg (by simp [hdemands])]
  rw [customAccount, hfilter, hfields]
  rfl

theorem yields_synthesizedFor (h : Coherent setup provider session) {custom : Custom} {slot : Slot}
    (hfirst : IsFirst setup session custom slot)
    (hyields : Yields (synthesizedFor custom slot) session model stop) :
    Later setup provider session stop ∧ stop.synthesized.get? (custom.name, slot) = some model ∧
      LastOfEach Field.member ((demandedFields setup.customs custom.name slot).map namedField)
        model.fields := by
  obtain ⟨hlater, hcase⟩ := synthesizedFor_spec h hfirst
  rw [hyields.final_eq] at hlater hcase
  rw [hyields] at hcase
  rcases hcase with ⟨fault, -, herror⟩ | ⟨kept, hok, hkept⟩
  · cases herror
  · cases hok
    obtain ⟨serial, -, -, hrecord⟩ := hlater.coherent.exists_keeps hkept
    refine ⟨hlater, hkept, ?_⟩
    rw [hrecord]
    exact lastOfEach_putFields_nil _

/-- **A custom middleware adds a schema of the fields demanded under its name** to every slot in which it
demands some itself, and the session keeps these schemas. -/
theorem sums_fillFromFields (hlibrary : IsLibrary provider) {custom : Custom} (slots : List Slot)
    (h : Coherent setup provider session)
    (hfirst : ∀ slot ∈ slots, (custom.fields slot).isEmpty = false → IsFirst setup session custom slot)
    {draft draft' : Draft} {before : Account} (hsums : draft.Sums provider session before)
    (hyields : Yields (fillFromFields custom slots draft) session draft' stop) :
    Later setup provider session stop ∧ KeepsFields custom slots stop ∧
      draft'.Sums provider stop (before.add
        { schemas := (slots.filter fun slot => !(custom.fields slot).isEmpty).map fun slot =>
            (slot, (demandedFields setup.customs custom.name slot).map namedField) }) := by
  induction slots generalizing session draft before with
  | nil =>
      obtain ⟨hlater, hdraft'⟩ := adds_pure _ _ _ _ _ h hsums hyields
      exact ⟨hlater, fun slot hslot => absurd hslot List.not_mem_nil, hdraft'⟩
  | cons slot rest ih =>
      rw [List.forall_mem_cons] at hfirst
      rw [fillFromFields] at hyields
      cases hdemands : (custom.fields slot).isEmpty with
      | true =>
          rw [hdemands, if_pos rfl] at hyields
          rw [List.filter_cons_of_neg (by simp [hdemands])]
          obtain ⟨hlater, hkeeps, hdraft'⟩ := ih h hfirst.2 hsums hyields
          exact ⟨hlater, hkeeps.cons fun hsome => absurd (hdemands.symm.trans hsome) (by simp), hdraft'⟩
      | false =>
          rw [hdemands, if_neg (by simp)] at hyields
          rw [List.filter_cons_of_pos (by simp [hdemands]), List.map_cons]
          obtain ⟨model, later, hsynthesized, hrest⟩ := yields_bind.1 hyields
          obtain ⟨filled, last, hassign, hrest⟩ := yields_bind.1 hrest
          obtain ⟨hlater, hkept, hfields⟩ := yields_synthesizedFor h (hfirst.1 hdemands) hsynthesized
          obtain ⟨hlast, hfilled⟩ :=
            sums_assign hlibrary hlater.coherent (hsums.later hlater) (.inr ⟨_, hkept⟩) hfields hassign
          have hdone := hlater.trans hlast
          obtain ⟨hstop, hkeeps, hdraft'⟩ := ih hlast.coherent
            (fun place hplace hsome => (hfirst.2 place hplace hsome).later hdone) hfilled hrest
          refine ⟨hdone.trans hstop, hkeeps.cons fun _ => ?_, ?_⟩
          · exact (hlast.trans hstop).has (by rw [Table.has, hkept]; rfl)
          · rw [Account.add_assoc] at hdraft'
            exact hdraft'

theorem givenSchema?_eq {declaration : Declaration} {expression callee : Text} {given : Option (List Text)}
    (h : argumentsOfCall expression callee = .ok given) :
    givenSchema? provider declaration expression callee =
      ((given.getD []).head?.bind (referenceOf? declaration)).bind fun reference =>
        (provider reference).outcome.toOption := by
  rw [givenSchema?, h]
  rcases given with _ | _ | ⟨first, rest⟩
  · rfl
  · rfl
  · rfl

/-- **A custom middleware adds the schema it is given to its slot.** -/
theorem adds_fillFromArgument (hlibrary : IsLibrary provider) (declaration : Declaration) (custom : Custom)
    (expression : Text) :
    Adds setup provider (fillFromArgument provider declaration custom expression)
      { schemas := match custom.schemaSlot.bind Slot.ofName? with
          | some slot => schemaIn slot (givenSchema? provider declaration expression custom.name.toList)
          | none => [] } := by
  intro session draft before draft' stop h hsums hyields
  rw [fillFromArgument] at hyields
  have nothing : Yields (pure draft : Run Draft) session draft' stop →
      Later setup provider session stop ∧ draft'.Sums provider stop (before.add {}) :=
    adds_pure _ _ _ _ _ h hsums
  cases hslotName : custom.schemaSlot with
  | none =>
      rw [hslotName] at hyields
      exact nothing hyields
  | some slotName =>
      rw [hslotName] at hyields
      rw [Option.bind_some]
      by_cases hempty : slotName.isEmpty = true
      · simp only [hempty, if_true] at hyields
        obtain rfl : slotName = "" := String.isEmpty_iff.1 hempty
        exact nothing hyields
      · simp only [hempty, Bool.false_eq_true, if_false] at hyields
        obtain ⟨given, middle, hgiven, hrest⟩ := yields_bind.1 hyields
        obtain ⟨harguments, rfl⟩ := yields_ofSource.1 hgiven
        rw [givenSchema?_eq harguments]
        cases hreference : (given.getD []).head?.bind (referenceOf? declaration) with
        | none =>
            rw [hreference] at hrest
            cases Slot.ofName? slotName with
            | none => exact nothing hrest
            | some slot => exact nothing hrest
        | some reference =>
            rw [hreference] at hrest
            cases hslot : Slot.ofName? slotName with
            | none =>
                obtain ⟨_, _, -, hthrow⟩ := yields_bind.1 hrest
                rw [hslot] at hthrow
                exact absurd hthrow not_yields_throw
            | some slot =>
                rw [hslot] at hrest
                exact adds_resolved hlibrary reference slot _ _ _ _ _ h hsums hrest

/-- A security scheme is listed where it is required first. -/
theorem Draft.security_require {draft : Draft} {names : List String} (h : draft.security = names.eraseDups)
    (security : Option String) : (draft.require security).security =
      (names ++ (security.filter fun name => !name.isEmpty).toList).eraseDups := by
  cases security with
  | none => simpa [Draft.require] using h
  | some name =>
      by_cases hempty : name.isEmpty = true
      · have hnone : (some name).filter (fun name => !name.isEmpty) = none :=
          Option.filter_some_neg (by simpa using hempty)
        rw [hnone]
        simpa [Draft.require, hempty] using h
      · rw [Option.filter_some_pos (by simpa using hempty), Option.toList_some]
        by_cases hold : name ∈ names
        · rw [Table.eraseDups_concat_of_mem hold, ← h]
          simp [Draft.require, h, hold]
        · rw [Table.eraseDups_concat_of_not_mem hold, ← h]
          simp [Draft.require, h, hold, hempty]

theorem Draft.Sums.require {account : Account} {draft : Draft} (h : draft.Sums provider session account)
    (security : Option String) :
    (draft.require security).Sums provider session
      (account.add { security := (security.filter fun name => !name.isEmpty).toList }) := by
  refine ⟨fun slot => ?_, ?_, Draft.security_require h.security security⟩
  · rw [draft.request_require]
    simpa [Account.of, Account.add] using h.slots slot
  · rw [draft.responses_require]
    simpa [Account.add] using h.responses

/-- **The custom middlewares that an expression mentions add their accounts**, in the order in which they
are declared, with the fields that are demanded under their names. -/
theorem sums_fillFromCustoms (hlibrary : IsLibrary provider) (declaration : Declaration)
    (expression : Text) {gone customs : List Custom} (hcustoms : setup.customs = gone ++ customs)
    (h : Coherent setup provider session) (hprimed : Primed expression gone session)
    {draft draft' : Draft} {before : Account} (hsums : draft.Sums provider session before)
    (hyields : Yields (fillFromCustoms provider declaration expression customs draft) session draft'
      stop) :
    Later setup provider session stop ∧ draft'.Sums provider stop (before.add (Account.sum
      (((customs.map (Custom.settled setup.customs)).filter fun custom =>
        mentions expression custom.name.toList).map
          (customAccount provider declaration expression)))) := by
  -- the customs gone through so far move from one list to the other
  induction customs generalizing gone session draft before with
  | nil => exact adds_pure _ _ _ _ _ h hsums hyields
  | cons custom rest ih =>
      have hmoved : setup.customs = (gone ++ [custom]) ++ rest := by
        rw [hcustoms]
        simp
      have hmem : custom ∈ setup.customs := by
        rw [hcustoms]
        simp
      have hname : (custom.settled setup.customs).name = custom.name := rfl
      rw [fillFromCustoms] at hyields
      rw [List.map_cons]
      by_cases hmentions : mentions expression custom.name.toList = true
      · -- the fields come first, then the schema it is given, and its scheme last
        rw [if_pos hmentions] at hyields
        rw [List.filter_cons, hname, if_pos hmentions, List.map_cons]
        obtain ⟨filled, middle, hfields, hbehind⟩ := yields_bind.1 hyields
        obtain ⟨given, last, hargument, hothers⟩ := yields_bind.1 hbehind
        obtain ⟨hmiddle, hkeeps, hfilled⟩ := sums_fillFromFields hlibrary Slot.all h
          (fun slot _ hdemands => hprimed.isFirst hcustoms hmentions hdemands) hsums hfields
        obtain ⟨hlast, hgiven⟩ := adds_fillFromArgument hlibrary declaration custom expression _ _ _ _ _
          hmiddle.coherent hfilled hargument
        obtain ⟨hstop, hdraft'⟩ := ih hmoved hlast.coherent
          ((hprimed.later (hmiddle.trans hlast)).concat fun _ => hkeeps.later hlast)
          (hgiven.require custom.security) hothers
        refine ⟨(hmiddle.trans hlast).trans hstop, ?_⟩
        rw [customAccount_settled hmem]
        simpa [Account.add, Account.sum] using hdraft'
      · rw [if_neg hmentions] at hyields
        rw [List.filter_cons, hname, if_neg hmentions]
        exact ih hmoved h (hprimed.concat fun hmentioned => absurd hmentioned hmentions) hsums hyields

theorem Draft.Sums.put {account : Account} {draft : Draft} (h : draft.Sums provider session account)
    (entry : String × Response) :
    Draft.Sums provider session (account.add { responses := [entry] })
      { draft with responses := draft.responses.put entry.1 entry.2 } := by
  refine ⟨fun slot => ?_, ?_, ?_⟩
  · simpa [Account.of, Account.add] using h.slots slot
  · rw [Table.put_eq]
    exact h.responses.concat entry
  · simpa [Account.add] using h.security

theorem responseUnder_eq {declaration : Declaration} {entry : ResponseEntry} {body : Option Model}
    (h : namedSchema? provider declaration entry.schema = body) :
    responseUnder provider declaration entry = (String.ofList entry.status,
      { description := match entry.description with
          | some (c :: text) => String.ofList (c :: text)
          | _ => phraseFor entry.status entry.schema
        body := body }) := by
  subst h
  rfl

/-- **Declared responses are entered under their statuses.** -/
theorem adds_declareResponses (declaration : Declaration) (entries : List ResponseEntry) :
    Adds setup provider (declareResponses provider declaration entries)
      { responses := entries.map (responseUnder provider declaration) } := by
  induction entries with
  | nil => exact adds_pure
  | cons entry rest ih =>
      intro session draft before draft' stop h hsums hyields
      have entered : ∀ {start : Session} {status : String} {response : Response},
          responseUnder provider declaration entry = (status, response) →
          Later setup provider session start →
          Yields (declareResponses provider declaration rest
            { draft with responses := draft.responses.put status response }) start draft' stop →
          Later setup provider session stop ∧ draft'.Sums provider stop
            (before.add { responses := (entry :: rest).map (responseUnder provider declaration) }) := by
        intro start status response hunder hstart hrest
        obtain ⟨hstop, hdraft'⟩ :=
          ih _ _ _ _ _ hstart.coherent ((hsums.later hstart).put (status, response)) hrest
        rw [Account.add_assoc] at hdraft'
        rw [List.map_cons, hunder]
        exact ⟨hstart.trans hstop, hdraft'⟩
      rw [declareResponses] at hyields
      cases hreference : referenceOf? declaration entry.schema with
      | none =>
          rw [hreference] at hyields
          simp only [pure_bind] at hyields
          have hbody : namedSchema? provider declaration entry.schema = none := by
            rw [namedSchema?, hreference, Option.bind_none]
          exact entered (responseUnder_eq hbody) h.later_refl hyields
      | some reference =>
          rw [hreference] at hyields
          obtain ⟨model, middle, hresolve, hrest⟩ := yields_bind.1 hyields
          obtain ⟨hmiddle, hmodel⟩ := yields_resolve h hresolve
          simp only [pure_bind] at hrest
          have hbody : namedSchema? provider declaration entry.schema = some model := by
            rw [namedSchema?, hreference, Option.bind_some, hmodel, Except.toOption]
          exact entered (responseUnder_eq hbody) hmiddle hrest

/-! ## Chains -/

theorem Draft.Sums.withSummary {account : Account} {draft : Draft}
    (h : draft.Sums provider session account) (summary : String) :
    Draft.Sums provider session account { draft with summary := summary } :=
  ⟨h.slots, h.responses, h.security⟩

/-- Naming an endpoint adds nothing to its account. -/
theorem adds_named (expression : Text) :
    Adds setup provider (fun draft => do
      let name ← Run.ofSource (operationName expression wrapperNames)
      pure { draft with summary := String.ofList name }) {} := by
  intro session draft before draft' stop h hsums hyields
  obtain ⟨name, middle, hname, hpure⟩ := yields_bind.1 hyields
  obtain ⟨-, rfl⟩ := yields_ofSource.1 hname
  obtain ⟨rfl, rfl⟩ := yields_pure.1 hpure
  rw [Account.add_empty]
  exact ⟨h.later_refl, hsums.withSummary _⟩

/-- **An expression adds its account** in the settled setup. -/
theorem adds_absorb (hlibrary : IsLibrary provider) (declaration : Declaration)
    (expression : Expression) :
    Adds setup provider (absorb setup provider declaration expression)
      (accountOf setup.settled provider declaration expression) := by
  intro session draft before draft' stop h hsums hyields
  rw [absorb] at hyields
  rw [accountOf]
  cases hkind : expression.kind with
  | validator slot =>
      rw [hkind] at hyields
      exact adds_fillFromValidator hlibrary declaration slot expression.text _ _ _ _ _ h hsums hyields
  | custom =>
      rw [hkind] at hyields
      have hprimed : Primed expression.text [] session :=
        fun custom hcustom => absurd hcustom List.not_mem_nil
      exact sums_fillFromCustoms hlibrary declaration expression.text rfl h hprimed hsums hyields
  | response =>
      rw [hkind] at hyields
      obtain ⟨entries, middle, hentries, hrest⟩ := yields_bind.1 hyields
      obtain ⟨hdeclared, rfl⟩ := yields_ofSource.1 hentries
      rw [responsesOf, hdeclared]
      exact adds_declareResponses declaration entries _ _ _ _ _ h hsums hrest
  | handler =>
      rw [hkind] at hyields
      by_cases hwrapper : mentionsWrapper expression.text = true
      · -- a wrapped handler declares its responses before it is named
        simp only [hwrapper, if_true] at hyields ⊢
        obtain ⟨entries, middle, hentries, hbehind⟩ := yields_bind.1 hyields
        obtain ⟨hdeclared, rfl⟩ := yields_ofSource.1 hentries
        obtain ⟨entered, last, hresponses, hname⟩ := yields_bind.1 hbehind
        obtain ⟨hlast, hentered⟩ := adds_declareResponses declaration entries _ _ _ _ _ h hsums hresponses
        obtain ⟨hstop, hdraft'⟩ := adds_named _ _ _ _ _ _ hlast.coherent hentered hname
        rw [responsesOf, hdeclared]
        rw [Account.add_empty] at hdraft'
        exact ⟨hlast.trans hstop, hdraft'⟩
      · simp only [hwrapper] at hyields ⊢
        exact adds_named _ _ _ _ _ _ h hsums hyields
  | unclassified =>
      rw [hkind] at hyields
      exact adds_pure _ _ _ _ _ h hsums hyields

/-- **A chain adds the accounts of its expressions** in the settled setup. -/
theorem adds_absorbAll (hlibrary : IsLibrary provider) (declaration : Declaration)
    (chain : List Expression) :
    Adds setup provider (absorbAll setup provider declaration chain)
      (Account.sum (chain.map (accountOf setup.settled provider declaration))) := by
  induction chain with
  | nil => exact adds_pure
  | cons expression rest ih =>
      exact (adds_absorb hlibrary declaration expression).bind ih

/-- **A record that is built sums up the accounts of its expressions** in the settled setup. -/
theorem sumsUp_of_build (hlibrary : IsLibrary provider) {declaration : Declaration} {subject : Subject}
    {chain : List Expression} {record : Record} (hsession : Coherent setup provider session)
    (hbuild : Yields (build setup provider declaration subject chain) session record stop) :
    Coherent setup provider stop ∧ ∃ classified, classify setup chain = .ok classified ∧
      SumsUp (Account.sum (classified.map (accountOf setup.settled provider declaration))) record := by
  rw [build] at hbuild
  obtain ⟨classified, start, hclassify, hrest⟩ := yields_bind.1 hbuild
  obtain ⟨hclassified, rfl⟩ := yields_ofSource.1 hclassify
  obtain ⟨draft, last, habsorb, hpure⟩ := yields_bind.1 hrest
  obtain ⟨rfl, rfl⟩ := yields_pure.1 hpure
  obtain ⟨hlast, hsums⟩ := adds_absorbAll hlibrary declaration classified _ _ _ _ _ hsession
    draft_sums_empty habsorb
  rw [Account.empty_add] at hsums
  exact ⟨hlast.coherent, classified, hclassified, fun slot => (hsums.slots slot).spec.1,
    fun slot => (hsums.slots slot).spec.2, hsums.responses, hsums.security⟩

end

/-- **A record sums up what its chain contributes.** With distinct names of custom middlewares and a
provider of declared models, from every coherent session: where a record is made, its chain is classified,
and the record sums up the accounts of its expressions one after the other. What is put in one slot leaves
the others alone, and the session stays coherent. -/
theorem build_accumulates {setup : Setup} {provider : Provider} {declaration : Declaration}
    {subject : Subject} {chain : List Expression} {session stop : Session} {record : Record}
    (hnames : (setup.customs.map Custom.name).Nodup) (hlibrary : IsLibrary provider)
    (hsession : Coherent setup provider session)
    (hbuild : Yields (build setup provider declaration subject chain) session record stop) :
    Coherent setup provider stop ∧
    (∀ (serial : Nat) (request request' : Request) (slot other : Slot) (model : Model), other ≠ slot →
      request.assign serial slot model = .ok request' → request'.get? other = request.get? other) ∧
    ∃ classified, classify setup chain = .ok classified ∧
      SumsUp (Account.sum (classified.map (accountOf setup provider declaration))) record := by
  obtain ⟨hstop, classified, hclassified, hsums⟩ := sumsUp_of_build hlibrary hsession hbuild
  -- with distinct names the setup is settled as it is
  rw [Setup.settled_eq hnames] at hsums
  exact ⟨hstop, fun serial request request' slot other model hother hassign =>
    (assign_cases hassign).1 other hother, classified, hclassified, hsums⟩

/-! ## A chain with repeated contributions -/

/-- A declared schema of text fields. -/
def signupModel (key : String) (members : List String) : Model :=
  .record (.declared "s" key) key none .ignore (members.map fun member => .mk member .text {})

/-- Two schemas that share a field. -/
def signupProvider : Provider :=
  tableProvider [("s.user", some (signupModel "user" ["name", "mail"])),
    ("s.admin", some (signupModel "admin" ["mail", "level"]))]

/-- A custom middleware that demands a header, is given a schema for the query and requires a scheme. -/
def signupSetup : Setup where
  customs := [{ name := "auth", header := ["X-Key"], schemaSlot := some "query", security := some "key" }]

/-- A chain in which schemas, statuses and the custom middleware come twice. -/
def signupChain : List Text :=
  ["validateBody(s.user)".toList, "auth(s.admin)".toList, "validateBody(s.admin)".toList,
   "validateBody(s.admin)".toList, "validateResponse(200, s.user)".toList,
   "validateResponse(404, s.user)".toList, "validateResponse(200, s.admin)".toList,
   "auth(s.user)".toList, "signUp".toList]

/-- The expressions of the chain with their kinds. -/
def signupKinds : List Expression :=
  [⟨0, "validateBody(s.user)".toList, .validator .body⟩,
   ⟨1, "auth(s.admin)".toList, .custom⟩,
   ⟨2, "validateBody(s.admin)".toList, .validator .body⟩,
   ⟨3, "validateBody(s.admin)".toList, .validator .body⟩,
   ⟨4, "validateResponse(200, s.user)".toList, .response⟩,
   ⟨5, "validateResponse(404, s.user)".toList, .response⟩,
   ⟨6, "validateResponse(200, s.admin)".toList, .response⟩,
   ⟨7, "auth(s.user)".toList, .custom⟩,
   ⟨8, "signUp".toList, .handler⟩]

theorem classify_signupChain : classify signupSetup (chainOf signupChain) = .ok signupKinds := by
  -- the texts are read character by character only once
  unfold signupChain signupKinds
  repeat rw [String.toList_ofList]
  decide +kernel

/-- The record of the chain. -/
def signupRecord : Run Record :=
  build signupSetup signupProvider default { method := "post", path := "/", tag := "s", note := none }
    (chainOf signupChain)

theorem isLibrary_signupProvider : IsLibrary signupProvider := by
  have hmodels : ∀ reference model, (signupProvider reference).outcome = .ok model →
      model = signupModel "user" ["name", "mail"] ∨ model = signupModel "admin" ["mail", "level"] := by
    intro reference model hmodel
    simp only [signupProvider, tableProvider] at hmodel
    split at hmodel
    · rename_i found hfound
      cases hmodel
      have hmem := Table.mem_of_get? hfound
      simp only [List.mem_cons, Prod.mk.injEq, Option.some.injEq, List.not_mem_nil, or_false] at hmem
      exact hmem.imp And.right And.right
    all_goals cases hmodel
  refine ⟨fun reference model hmodel => ?_, fun reference other model model' hmodel hmodel' hidentity => ?_,
    fun reference model hmodel => ?_⟩
  · rcases hmodels reference model hmodel with rfl | rfl <;> exact ⟨_, _, rfl⟩
  · rcases hmodels reference model hmodel with rfl | rfl <;>
      rcases hmodels other model' hmodel' with rfl | rfl
    · rfl
    · exact absurd hidentity (by decide)
    · exact absurd hidentity (by decide)
    · rfl
  · rcases hmodels reference model hmodel with rfl | rfl <;> decide

/-- What keeps a model from being built, with its name read as a text. -/
def faultByText : Model → Option BuildFault
  | .given _ _ _ => none
  | .record _ name _ _ fields =>
      (if (fields.map Field.member).contains settingsMember then some .settingsMember else none)
        <|> ((fields.map Field.member).find? isHidden).map .hiddenMember
        <|> (if '\x00' ∈ name.toList then some .nullCharacter else none)
        <|> ((fields.map Field.member).find? isOperation).map .operationMember
        <|> (if fields.all Field.isUsable then none else some .unusableField)

theorem buildFault?_eq_faultByText : Model.buildFault? = faultByText := by
  funext model
  cases model with
  | given => rfl
  | record =>
      simp [Model.buildFault?, faultByText, Model.members, Model.fields, String.contains_char_eq]

theorem signupRecord_yields : ∃ record stop, Yields signupRecord {} record stop := by
  apply exists_yields
  rw [signupRecord, build, classify_signupChain, Run.ofSource, pure_bind, signupKinds]
  repeat rw [String.toList_ofList]
  -- the search for a character in a name does not compute, so models are checked by their texts
  dsimp only [absorbAll, absorb, fillFromValidator, fillFromCustoms, fillFromFields, fillFromArgument,
    signupSetup, Slot.all, synthesizedFor, synthesize, Draft.assign, Request.assign, Model.merge,
    Model.checked]
  rw [buildFault?_eq_faultByText]
  decide +kernel

/-- What the chain contributes. -/
def signupAccount : Account :=
  Account.sum (signupKinds.map (accountOf signupSetup signupProvider default))

theorem signupAccount_spec :
    ((signupAccount.of .body).flatten.map Field.member).eraseDups = ["name", "mail", "level"] ∧
      ((signupAccount.of .query).flatten.map Field.member).eraseDups = ["mail", "level", "name"] ∧
      (signupAccount.of .path).isEmpty = true ∧
      (signupAccount.responses.map Prod.fst).eraseDups = ["200", "404"] ∧
      signupAccount.security.eraseDups = ["key"] := by
  unfold signupAccount signupKinds
  repeat rw [String.toList_ofList]
  decide +kernel

/-- Fields keep their places when they come again, in the body and in the query, nothing is contributed to
the path, the last response of a status counts, and the scheme is listed once. -/
theorem signup_accumulates : ∃ record stop, Yields signupRecord {} record stop ∧
    ((record.request.get? .body).map Model.members = some ["name", "mail", "level"] ∧
      (record.request.get? .query).map Model.members = some ["mail", "level", "name"] ∧
      record.request.get? .path = none) ∧
    record.responses.keys = ["200", "404"] ∧ record.security = ["key"] := by
  obtain ⟨record, stop, hbuild⟩ := signupRecord_yields
  obtain ⟨-, -, classified, hclassified, hempty, hfields, hresponses, hsecurity⟩ :=
    build_accumulates (by decide) isLibrary_signupProvider coherent_empty hbuild
  cases classify_signupChain.symm.trans hclassified
  have held : ∀ {slot : Slot} {members : List String},
      ((signupAccount.of slot).flatten.map Field.member).eraseDups = members → members ≠ [] →
        (record.request.get? slot).map Model.members = some members := by
    intro slot members hmembers hne
    cases hheld : record.request.get? slot with
    | none =>
        rw [signupAccount, (hempty slot).1 hheld] at hmembers
        exact absurd hmembers.symm hne
    | some model =>
        rw [← hmembers, signupAccount, ← (hfields slot model hheld).keys]
        rfl
  obtain ⟨hbody, hquery, hpath, hstatuses, hschemes⟩ := signupAccount_spec
  exact ⟨record, stop, hbuild, ⟨held hbody (by decide), held hquery (by decide),
    (hempty .path).2 (List.isEmpty_iff.1 hpath)⟩, hresponses.keys.trans hstatuses, hsecurity.trans hschemes⟩

end RouteAtlas.Middleware
