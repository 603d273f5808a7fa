import RouteAtlas.Generator
import RouteAtlas.Proofs.Router.Locating
import RouteAtlas.Proofs.Schema.Built

/-!
# How building a record can fail

Over a provider that answers with models or finds none, a step on the way to a record fails for the
source text, for a schema that is not found, or for a custom middleware that is declared with a slot
that does not exist or with fields that no model can have (`Misused`). Nothing else comes up, for all
models that a session keeps and all those in a draft have been built, and these can be merged.
-/

set_option autoImplicit false

namespace RouteAtlas.Text

theorem toUpper_ne_null {c : Char} (h : c ≠ '\x00') : c.toUpper ≠ '\x00' := by
  intro hupper
  have hval := congrArg (fun d : Char => d.val.toNat) hupper
  rw [Char.toUpper.eq_def] at hval
  split at hval
  · rename_i hlower
    have hlow : 97 ≤ c.val.toNat := hlower.1
    have hhigh : c.val.toNat ≤ 122 := hlower.2
    rw [UInt32.toNat_add, show ('A'.val - 'a'.val).toNat = 2 ^ 32 - 32 by decide +kernel,
      show '\x00'.val.toNat = 0 from rfl] at hval
    omega
  · exact h (by rw [Char.ext_iff, ← UInt32.toNat_inj]; exact hval)

theorem mem_of_mem_partsBy {separator c : Char} {text part : Text}
    (hpart : part ∈ partsBy separator text) (hc : c ∈ part) : c ∈ text := by
  induction text generalizing part with
  | nil =>
      simp only [partsBy, List.mem_singleton] at hpart
      subst hpart
      cases hc
  | cons d rest ih =>
      simp only [partsBy] at hpart
      split at hpart
      · rcases List.mem_cons.1 hpart with rfl | hrest
        · cases hc
        · exact List.mem_cons_of_mem _ (ih hrest hc)
      · split at hpart
        · rename_i hnil
          exact absurd hnil (partsBy_ne_nil separator rest)
        · rename_i first parts hparts
          rcases List.mem_cons.1 hpart with rfl | hmem
          · rcases List.mem_cons.1 hc with rfl | htail
            · exact List.mem_cons_self
            · exact List.mem_cons_of_mem _ (ih (hparts ▸ List.mem_cons_self) htail)
          · exact List.mem_cons_of_mem _ (ih (hparts ▸ List.mem_cons_of_mem _ hmem) hc)

end RouteAtlas.Text

namespace RouteAtlas.Middleware

open Text Source Api Schema Router Step

/-- The provider answers every reference with a model, or finds none. -/
def Provides (provider : Provider) : Prop :=
  ∀ reference, (∃ model, (provider reference).outcome = .ok model ∧ model.IsBuilt) ∨
    ∃ reason, (provider reference).outcome = .error (.notFound reason)

/-- A failure that a custom middleware of a setup is to blame for: it takes a schema for a slot that
does not exist, or demands a field that no model can have. -/
inductive Misused (setup : Setup) : Failure → Prop
  | slot {custom : Custom} {name : String} (hmem : custom ∈ setup.customs)
      (hslot : custom.schemaSlot = some name) (hname : name.isEmpty = false)
      (hunknown : Slot.ofName? name = none) : Misused setup (.unknownSlot name)
  | field {custom : Custom} {slot : Slot} {name : String} {fault : BuildFault}
      (hmem : custom ∈ setup.customs) (hname : name ∈ custom.fields slot)
      (hrefused : isRefused name = true) : Misused setup (.unbuildable fault)

/-- A failure that a run foresees, or that the setup is to blame for. -/
def Explained (setup : Setup) (failure : Failure) : Prop :=
  failure.isForeseen = true ∨ Misused setup failure

/-- The texts that a session keeps are those of the reader, and its models have been built. -/
structure Sound (reader : Reader) (session : Session) : Prop where
  faithful : Faithful reader session
  resolved : ∀ reference model, session.resolved.get? reference = some model → model.IsBuilt
  synthesized : ∀ key model, session.synthesized.get? key = some model → model.IsBuilt

theorem sound_empty (reader : Reader) : Sound reader {} where
  faithful := faithful_empty reader
  resolved := nofun
  synthesized := nofun

/-- A step keeps sessions sound, gives values of some kind and fails in an explained way. -/
abbrev Reliable (reader : Reader) (setup : Setup) {α : Type} (step : Run α) (gives : α → Prop) : Prop :=
  Ensures (Sound reader) (Explained setup) step gives

section

variable {reader : Reader} {setup : Setup} {α : Type}

theorem Sound.of_eq {session other : Session} (h : Sound reader session)
    (htexts : other.texts = session.texts) (hresolved : other.resolved = session.resolved)
    (hsynthesized : other.synthesized = session.synthesized) : Sound reader other where
  faithful := fun path text hget => h.faithful path text (htexts ▸ hget)
  resolved := fun reference model hget => h.resolved reference model (hresolved ▸ hget)
  synthesized := fun key model hget => h.synthesized key model (hsynthesized ▸ hget)

/-- Reporting keeps sessions sound and does not fail. -/
theorem ensures_reportAll {fails : Failure → Prop} (events : List Event) :
    Ensures (Sound reader) fails (Run.reportAll events) fun _ => True :=
  ensures_modify fun _ h => h.of_eq rfl rfl rfl

theorem ensures_report {fails : Failure → Prop} (event : Event) :
    Ensures (Sound reader) fails (Run.report event) fun _ => True :=
  ensures_reportAll [event]

theorem reliable_freshSerial : Reliable reader setup Run.freshSerial fun _ => True :=
  fun _ h => ⟨h.of_eq rfl rfl rfl, fun _ _ => trivial, nofun⟩

theorem reliable_ofSource (outcome : Except Fault α) :
    Reliable reader setup (Run.ofSource outcome) fun _ => True := by
  cases outcome with
  | ok value => exact ensures_pure trivial
  | error fault => exact ensures_throw (.inl rfl)

/-! ## Schemas -/

theorem reliable_load (provider : Provider) (reference : Reference) :
    Reliable reader setup (Run.load provider reference) fun outcome =>
      outcome = (provider reference).outcome := by
  rw [Run.load]
  apply Ensures.bind (ensures_modify fun _ h => h.of_eq rfl rfl rfl)
  intro _ _
  split
  · exact ensures_pure rfl
  · apply ensures_get.bind
    intro session _
    split
    · exact ensures_pure rfl
    · apply Ensures.bind (ensures_modify fun _ h => h.of_eq rfl rfl rfl)
      intro _ _
      exact (ensures_report _).bind fun _ _ => ensures_pure rfl

variable {provider : Provider}

/-- A reference is resolved to a model that has been built, or it is not found. -/
theorem reliable_resolve (hprovider : Provides provider) (reference : Reference) :
    Reliable reader setup (Run.resolve provider reference) Model.IsBuilt := by
  rw [Run.resolve]
  apply ensures_get.bind
  intro session hsession
  split
  · rename_i model hkept
    exact ensures_pure (hsession.resolved _ _ hkept)
  · apply (reliable_load provider reference).bind
    rintro _ rfl
    rcases hprovider reference with ⟨model, hmodel, hbuilt⟩ | ⟨reason, hreason⟩
    · rw [hmodel]
      have hput : ∀ session, Sound reader session →
          Sound reader { session with resolved := session.resolved.put reference model } := by
        intro session h
        refine ⟨h.faithful, fun other found hget => ?_, h.synthesized⟩
        rcases Table.get?_put_eq_some hget with ⟨-, rfl⟩ | hold
        · exact hbuilt
        · exact h.resolved other found hold
      exact (ensures_modify hput).bind fun _ _ => ensures_pure hbuilt
    · rw [hreason]
      exact ensures_throw (.inl rfl)

/-- The name of a synthesized schema is made of letters and digits. -/
theorem null_not_mem_camelCase (name : Text) : '\x00' ∉ camelCase name := by
  intro hmem
  obtain ⟨part, hpart, hword⟩ := List.mem_flatMap.1 hmem
  have hne : ∀ c ∈ part, c ≠ '\x00' := by
    rintro c hc rfl
    obtain ⟨d, -, hd⟩ := List.mem_map.1 (mem_of_mem_partsBy hpart hc)
    split at hd
    · rename_i halphanum
      rw [hd] at halphanum
      exact absurd halphanum (by decide)
    · cases hd
  cases part with
  | nil => cases hword
  | cons c rest =>
      rcases List.mem_cons.1 hword with hupper | hrest
      · exact toUpper_ne_null (hne c List.mem_cons_self) hupper.symm
      · exact hne _ (List.mem_cons_of_mem _ hrest) rfl

theorem null_not_mem_synthesizedName (name : Text) (slot : Slot) :
    '\x00' ∉ (String.ofList (camelCase name) ++ slot.capitalName).toList := by
  rw [String.toList_append, String.toList_ofList, List.mem_append]
  rintro (hname | hslot)
  · exact null_not_mem_camelCase name hname
  · revert hslot
    cases slot <;> decide

/-- The fields that a custom middleware demands make a model, unless one of them is refused. -/
theorem reliable_synthesizedFor {custom : Custom} (hmem : custom ∈ setup.customs) (slot : Slot) :
    Reliable reader setup (synthesizedFor custom slot) Model.IsBuilt := by
  rw [synthesizedFor]
  apply ensures_get.bind
  intro session hsession
  split
  · rename_i model hkept
    exact ensures_pure (hsession.synthesized _ _ hkept)
  · apply reliable_freshSerial.bind
    intro serial _
    have hbuilding : Reliable reader setup (Run.ofBuilding (synthesize serial
        (String.ofList (camelCase custom.name.toList) ++ slot.capitalName) (custom.fields slot)))
        Model.IsBuilt := by
      rcases synthesize_cases (null_not_mem_synthesizedName custom.name.toList slot)
          (custom.fields slot) serial with
        ⟨model, hmodel, hbuilt⟩ | ⟨⟨fault, hfault⟩, name, hname, hrefused⟩
      · rw [hmodel]
        exact ensures_pure hbuilt
      · rw [hfault]
        exact ensures_throw (.inr (.field hmem hname hrefused))
    apply hbuilding.bind
    intro model hbuilt
    have hput : ∀ session, Sound reader session → Sound reader { session with
        synthesized := session.synthesized.put (custom.name, slot) model } := by
      intro session h
      refine ⟨h.faithful, h.resolved, fun other found hget => ?_⟩
      rcases Table.get?_put_eq_some hget with ⟨-, rfl⟩ | hold
      · exact hbuilt
      · exact h.synthesized other found hold
    exact (ensures_modify hput).bind fun _ _ => ensures_pure hbuilt

/-! ## Drafts -/

/-- The models in the request of a draft have been built. -/
def Draft.IsBuilt (draft : Draft) : Prop :=
  ∀ slot model, draft.request.get? slot = some model → model.IsBuilt

theorem draft_isBuilt_empty : Draft.IsBuilt {} := by
  intro slot model hget
  cases slot <;> cases hget

/-- A model that has been built can be put in any slot. -/
theorem reliable_assign {draft : Draft} (h : draft.IsBuilt) (slot : Slot) {model : Model}
    (hmodel : model.IsBuilt) : Reliable reader setup (draft.assign slot model) Draft.IsBuilt := by
  rw [Draft.assign]
  apply reliable_freshSerial.bind
  intro serial _
  have hset : ∀ given : Model, given.IsBuilt →
      Draft.IsBuilt { draft with request := draft.request.set slot given } := by
    intro given hgiven other found hget
    by_cases hother : other = slot
    · subst hother
      have hself : (draft.request.set other given).get? other = some found := hget
      rw [Request.get?_set_self] at hself
      cases hself
      exact hgiven
    · exact h other found ((Request.get?_set_of_ne draft.request given hother).symm.trans hget)
  rw [Request.assign]
  cases hcurrent : draft.request.get? slot with
  | none => exact ensures_pure (hset model hmodel)
  | some current =>
      obtain ⟨merged, hmerged, hbuilt⟩ := (h slot current hcurrent).merge hmodel serial
      simp only [hmerged]
      exact ensures_pure (hset merged hbuilt)

theorem Draft.IsBuilt.require {draft : Draft} (h : draft.IsBuilt) (security : Option String) :
    (draft.require security).IsBuilt := by
  intro slot model hget
  rw [draft.request_require] at hget
  exact h slot model hget

section

variable (hprovider : Provides provider) (declaration : Declaration)

include hprovider

theorem reliable_fillFromValidator (slot : Slot) (expression : Text) {draft : Draft}
    (h : draft.IsBuilt) :
    Reliable reader setup (fillFromValidator provider declaration slot expression draft)
      Draft.IsBuilt := by
  rw [fillFromValidator]
  apply (reliable_ofSource _).bind
  intro given _
  split
  · split
    · exact (ensures_report _).bind fun _ _ => ensures_pure h
    · apply (reliable_resolve hprovider _).bind
      intro model hmodel
      apply (reliable_assign h slot hmodel).bind
      intro filled hfilled
      split
      · apply ensures_pure
        intro other found hget
        -- the content type is no model
        cases other with
        | query => exact hfilled .query found hget
        | path => exact hfilled .path found hget
        | header => exact hfilled .header found hget
        | body => exact hfilled .body found hget
      · exact ensures_pure hfilled
  · exact (ensures_report _).bind fun _ _ => ensures_pure h

omit hprovider in
theorem reliable_fillFromFields {custom : Custom} (hmem : custom ∈ setup.customs) (slots : List Slot)
    {draft : Draft} (h : draft.IsBuilt) :
    Reliable reader setup (fillFromFields custom slots draft) Draft.IsBuilt := by
  induction slots generalizing draft with
  | nil => exact ensures_pure h
  | cons slot rest ih =>
      rw [fillFromFields]
      split
      · exact ih h
      · apply (reliable_synthesizedFor hmem slot).bind
        intro model hmodel
        exact (reliable_assign h slot hmodel).bind fun filled hfilled => ih hfilled

theorem reliable_fillFromArgument {custom : Custom} (hmem : custom ∈ setup.customs) (expression : Text)
    {draft : Draft} (h : draft.IsBuilt) :
    Reliable reader setup (fillFromArgument provider declaration custom expression draft)
      Draft.IsBuilt := by
  rw [fillFromArgument]
  split
  · exact ensures_pure h
  · rename_i name hslot
    split
    · exact ensures_pure h
    · rename_i hname
      apply (reliable_ofSource _).bind
      intro given _
      split
      · exact ensures_pure h
      · apply (reliable_resolve hprovider _).bind
        intro model hmodel
        -- the slot is looked up when the schema is there
        split
        · rename_i hunknown
          exact ensures_throw (.inr (.slot hmem hslot (Bool.eq_false_iff.2 hname) hunknown))
        · exact reliable_assign h _ hmodel

theorem reliable_fillFromCustoms (expression : Text) {customs : List Custom}
    (hcustoms : customs ⊆ setup.customs) {draft : Draft} (h : draft.IsBuilt) :
    Reliable reader setup (fillFromCustoms provider declaration expression customs draft)
      Draft.IsBuilt := by
  induction customs generalizing draft with
  | nil => exact ensures_pure h
  | cons custom rest ih =>
      obtain ⟨hmem, hrest⟩ := List.cons_subset.1 hcustoms
      rw [fillFromCustoms]
      split
      · apply (reliable_fillFromFields hmem _ h).bind
        intro filled hfilled
        apply (reliable_fillFromArgument hprovider declaration hmem expression hfilled).bind
        intro given hgiven
        exact ih hrest (hgiven.require custom.security)
      · exact ih hrest h

theorem reliable_declareResponses (entries : List ResponseEntry) {draft : Draft} (h : draft.IsBuilt) :
    Reliable reader setup (declareResponses provider declaration entries draft) Draft.IsBuilt := by
  induction entries generalizing draft with
  | nil => exact ensures_pure h
  | cons entry rest ih =>
      rw [declareResponses]
      have hbody : ∀ body : Option Model, Reliable reader setup (pure body) fun _ => True :=
        fun body => ensures_pure trivial
      cases referenceOf? declaration entry.schema with
      | none => exact (hbody none).bind fun _ _ => ih h
      | some reference =>
          apply (reliable_resolve hprovider reference).bind
          intro model _
          exact (hbody (some model)).bind fun _ _ => ih h

/-! ## Records -/

theorem reliable_absorb (expression : Expression) {draft : Draft} (h : draft.IsBuilt) :
    Reliable reader setup (absorb setup provider declaration expression draft) Draft.IsBuilt := by
  rw [absorb]
  have hname : ∀ given : Draft, given.IsBuilt → Reliable reader setup (do
      let name ← Run.ofSource (operationName expression.text wrapperNames)
      pure { given with summary := String.ofList name }) Draft.IsBuilt := by
    intro given hgiven
    exact (reliable_ofSource _).bind fun _ _ => ensures_pure hgiven
  cases expression.kind with
  | validator slot => exact reliable_fillFromValidator hprovider declaration slot _ h
  | custom => exact reliable_fillFromCustoms hprovider declaration _ (List.Subset.refl _) h
  | response =>
      apply (reliable_ofSource _).bind
      intro entries _
      exact reliable_declareResponses hprovider declaration entries h
  | handler =>
      simp only
      split
      -- a wrapped handler declares its responses before it is named
      · apply (reliable_ofSource _).bind
        intro entries _
        exact (reliable_declareResponses hprovider declaration entries h).bind hname
      · exact (ensures_pure h).bind hname
  | unclassified => exact ensures_pure h

theorem reliable_absorbAll (chain : List Expression) {draft : Draft} (h : draft.IsBuilt) :
    Reliable reader setup (absorbAll setup provider declaration chain draft) Draft.IsBuilt := by
  induction chain generalizing draft with
  | nil => exact ensures_pure h
  | cons expression rest ih =>
      rw [absorbAll]
      exact (reliable_absorb hprovider declaration expression h).bind fun _ hgiven => ih hgiven

end

end

/-- **Building a record fails in an explained way.** -/
theorem reliable_recordOf {reader : Reader} {context : Generator.Context}
    (hprovider : Provides context.provider) (declaration : Declaration) (tag mount : Text)
    (token : Route.Token) :
    Reliable reader context.setup (Generator.recordOf context declaration tag mount token)
      fun _ => True := by
  rw [Generator.recordOf]
  apply (reliable_ofSource _).bind
  intro found _
  rw [build]
  apply (reliable_ofSource _).bind
  intro classified _
  apply (reliable_absorbAll hprovider declaration classified draft_isBuilt_empty).bind
  intro draft _
  exact ensures_pure trivial

end RouteAtlas.Middleware
