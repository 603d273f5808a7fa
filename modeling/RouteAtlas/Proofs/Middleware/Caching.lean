import RouteAtlas.Proofs.Middleware.Coherence

/-!
# Records do not show the caches

A record is put together from models that a session may keep from earlier records. In any two coherent
sessions, whatever they keep, the steps on the way to a record agree, so the records are the same up to
the serial numbers of the models composed for them (`agree_recordOf`). What a half-finished record
leaves in a session therefore changes no later one. A schema is kept under the name of a custom
middleware, and several middlewares may have one name: that the first of them gives the fields, whoever
asks first, is shown by `Primed`.
-/

set_option autoImplicit false

namespace RouteAtlas.Middleware

open Text Source Api Schema Router Step

section

variable {setup : Setup} {provider : Provider} {numbering : Numbering} {session other : Session}

/-! ## Drafts -/

/-- Two drafts are the same but for their requests, which match. -/
def Draft.Matches (numbering : Numbering) (draft draft' : Draft) : Prop :=
  ∃ request, draft' = { draft with request := request } ∧ draft.request.Matches numbering request

theorem Draft.Matches.mono {wider : Numbering} {draft draft' : Draft}
    (h : draft.Matches numbering draft') (hwider : numbering ⊆ wider) : draft.Matches wider draft' := by
  obtain ⟨request, heq, hrequest⟩ := h
  exact ⟨request, heq, hrequest.mono hwider⟩

/-- Drafts that match, as what two steps are related by. -/
abbrev DraftsMatch : Numbering → Session → Session → Draft → Draft → Prop :=
  fun wider _ _ draft draft' => draft.Matches wider draft'

theorem draft_matches_empty (numbering : Numbering) : Draft.Matches numbering {} {} := by
  refine ⟨{}, rfl, rfl, ?_⟩
  intro slot
  cases slot <;> exact .none

/-- Putting a schema in a slot uses up a number and fails as the request does. -/
theorem result_assign (draft : Draft) (slot : Slot) (model : Model) (session : Session) :
    result (draft.assign slot model) session =
      (match draft.request.assign session.serial slot model with
        | .ok request => .ok { draft with request := request }
        | .error fault => .error (.unbuildable fault),
      { session with serial := session.serial + 1 }) := by
  rw [Draft.assign]
  simp only [result_bind, show result Run.freshSerial session =
    (.ok session.serial, { session with serial := session.serial + 1 }) from rfl]
  cases draft.request.assign session.serial slot model with
  | ok request => rfl
  | error fault => rfl

theorem agree_assign (h : Matched setup provider numbering session other) {draft draft' : Draft}
    (hdraft : draft.Matches numbering draft') {model model' : Model}
    (hmodel : model.Matches numbering model') (slot : Slot) :
    Agree setup provider numbering session other (draft.assign slot model) (draft'.assign slot model')
      DraftsMatch := by
  obtain ⟨request, rfl, hrequest⟩ := hdraft
  rw [Agree, final, final, result_assign, result_assign]
  refine ⟨(session.serial, other.serial) :: numbering, List.subset_cons_self _ _,
    h.coherent.later_serial, h.coherent'.later_serial, h.pair_serials, ?_⟩
  rcases hrequest.assign h.oneToOne hmodel slot session.serial other.serial with
    ⟨fault, hfault, hfault'⟩ | ⟨assigned, assigned', hassigned, hassigned', hmatches⟩
  · simp only [hfault, hfault']
    exact .error _
  · simp only [hassigned, hassigned']
    exact .ok ⟨assigned', rfl, hmatches⟩

/-! ## Expressions of a chain -/

theorem agree_fillFromValidator (hdeclares : Declares provider)
    (h : Matched setup provider numbering session other) {draft draft' : Draft}
    (hdraft : draft.Matches numbering draft') (declaration : Declaration) (slot : Slot)
    (expression : Text) :
    Agree setup provider numbering session other
      (fillFromValidator provider declaration slot expression draft)
      (fillFromValidator provider declaration slot expression draft') DraftsMatch := by
  rw [fillFromValidator, fillFromValidator]
  apply agree_ofSource_bind h
  intro given
  have hreported : ∀ event, Agree setup provider numbering session other
      (do
        Run.report event
        pure draft)
      (do
        Run.report event
        pure draft') DraftsMatch := by
    intro event
    refine (agree_report h event).bind ?_
    intro wider later later' _ _ hwider _ _ hmatched _
    exact agree_pure hmatched (hdraft.mono hwider)
  rcases given with _ | _ | ⟨first, rest⟩
  · exact hreported _
  · exact hreported _
  · dsimp only
    cases referenceOf? declaration first with
    | none => exact hreported _
    | some reference =>
        refine (agree_resolve hdeclares h reference).bind ?_
        rintro wider later later' model model' hwider _ _ hmatched ⟨-, hmodel⟩
        refine (agree_assign hmatched (hdraft.mono hwider) hmodel slot).bind ?_
        rintro widest last last' filled filled' _ _ _ hmatched' hfilled
        -- the content type of a body is the same on both sides
        split
        · obtain ⟨request, rfl, hrequest⟩ := hfilled
          exact agree_pure hmatched' ⟨_, rfl, rfl, hrequest.slots⟩
        · exact agree_pure hmatched' hfilled

/-- A session keeps a schema for every slot in which a custom middleware demands fields. -/
def KeepsFields (custom : Custom) (slots : List Slot) (session : Session) : Prop :=
  ∀ slot ∈ slots, (custom.fields slot).isEmpty = false →
    session.synthesized.has (custom.name, slot) = true

theorem Later.has {stop : Session} (h : Later setup provider session stop) {key : String × Slot}
    (hkey : session.synthesized.has key = true) : stop.synthesized.has key = true := by
  obtain ⟨model, hmodel⟩ := Option.isSome_iff_exists.1 hkey
  rw [Table.has, h.kept key model hmodel]
  rfl

theorem KeepsFields.cons {custom : Custom} {slots : List Slot} (h : KeepsFields custom slots session)
    {slot : Slot} (hslot : (custom.fields slot).isEmpty = false →
      session.synthesized.has (custom.name, slot) = true) :
    KeepsFields custom (slot :: slots) session := by
  intro place hplace hdemands
  rcases List.mem_cons.1 hplace with rfl | hplace
  · exact hslot hdemands
  · exact h place hplace hdemands

theorem KeepsFields.later {custom : Custom} {slots : List Slot} {stop : Session}
    (h : KeepsFields custom slots session) (hlater : Later setup provider session stop) :
    KeepsFields custom slots stop := by
  intro slot hslot hfields
  exact hlater.has (h slot hslot hfields)

theorem agree_fillFromFields {custom : Custom} (slots : List Slot)
    (h : Matched setup provider numbering session other)
    (hfirst : ∀ slot ∈ slots, (custom.fields slot).isEmpty = false → IsFirst setup session custom slot)
    (hfirst' : ∀ slot ∈ slots, (custom.fields slot).isEmpty = false → IsFirst setup other custom slot)
    {draft draft' : Draft} (hdraft : draft.Matches numbering draft') :
    Agree setup provider numbering session other (fillFromFields custom slots draft)
      (fillFromFields custom slots draft')
      fun wider later later' draft draft' => draft.Matches wider draft' ∧
        KeepsFields custom slots later ∧ KeepsFields custom slots later' := by
  induction slots generalizing numbering session other draft draft' with
  | nil =>
      refine agree_pure h ⟨hdraft, ?_, ?_⟩
      · intro slot hslot
        cases hslot
      · intro slot hslot
        cases hslot
  | cons slot rest ih =>
      rw [fillFromFields, fillFromFields]
      cases hfields : (custom.fields slot).isEmpty with
      | true =>
          -- nothing is demanded in the slot, so there is no model of it to keep
          simp only [if_true]
          refine (ih h (fun place hplace => hfirst place (List.mem_cons_of_mem _ hplace))
            (fun place hplace => hfirst' place (List.mem_cons_of_mem _ hplace)) hdraft).imp ?_
          rintro wider later later' filled filled' _ _ ⟨hfilled, hkeeps, hkeeps'⟩
          have hnone : ∀ {stop : Session}, (custom.fields slot).isEmpty = false →
              stop.synthesized.has (custom.name, slot) = true := by
            intro stop hdemands
            cases hfields.symm.trans hdemands
          exact ⟨hfilled, hkeeps.cons hnone, hkeeps'.cons hnone⟩
      | false =>
          simp only [Bool.false_eq_true, if_false]
          refine (agree_synthesizedFor h (hfirst slot List.mem_cons_self hfields)
            (hfirst' slot List.mem_cons_self hfields)).bind ?_
          rintro wider middle middle' model model' hwider hmiddle hmiddle' hmatched
            ⟨hmodel, hhas, hhas'⟩
          refine (agree_assign hmatched (hdraft.mono hwider) hmodel slot).bind ?_
          intro widest last last' filled filled' _ hlast hlast' hmatched' hfilled
          have hlater := hmiddle.trans hlast
          have hlater' := hmiddle'.trans hlast'
          refine (ih hmatched'
            (fun place hplace hdemands =>
              (hfirst place (List.mem_cons_of_mem _ hplace) hdemands).later hlater)
            (fun place hplace hdemands =>
              (hfirst' place (List.mem_cons_of_mem _ hplace) hdemands).later hlater') hfilled).imp ?_
          rintro _ stop stop' filled filled' hstop hstop' ⟨hfilled, hkeeps, hkeeps'⟩
          exact ⟨hfilled, hkeeps.cons fun _ => (hlast.trans hstop).has hhas,
            hkeeps'.cons fun _ => (hlast'.trans hstop').has hhas'⟩

theorem agree_fillFromArgument (hdeclares : Declares provider)
    (h : Matched setup provider numbering session other) {draft draft' : Draft}
    (hdraft : draft.Matches numbering draft') (declaration : Declaration) (custom : Custom)
    (expression : Text) :
    Agree setup provider numbering session other
      (fillFromArgument provider declaration custom expression draft)
      (fillFromArgument provider declaration custom expression draft') DraftsMatch := by
  rw [fillFromArgument, fillFromArgument]
  cases custom.schemaSlot with
  | none => exact agree_pure h hdraft
  | some slotName =>
      by_cases hempty : slotName.isEmpty = true
      · simp only [hempty, if_true]
        exact agree_pure h hdraft
      · simp only [hempty]
        apply agree_ofSource_bind h
        intro given
        cases (given.getD []).head?.bind (referenceOf? declaration) with
        | none => exact agree_pure h hdraft
        | some reference =>
            refine (agree_resolve hdeclares h reference).bind ?_
            rintro wider later later' model model' hwider _ _ hmatched ⟨-, hmodel⟩
            cases Slot.ofName? slotName with
            | none => exact agree_throw hmatched _
            | some slot => exact agree_assign hmatched (hdraft.mono hwider) hmodel slot

/-- A session keeps the schemas of all the custom middlewares that an expression mentions. -/
def Primed (expression : Text) (customs : List Custom) (session : Session) : Prop :=
  ∀ custom ∈ customs, mentions expression custom.name.toList = true →
    KeepsFields custom Slot.all session

theorem Primed.later {expression : Text} {customs : List Custom} {stop : Session}
    (h : Primed expression customs session) (hlater : Later setup provider session stop) :
    Primed expression customs stop := by
  intro custom hcustom hmentions
  exact (h custom hcustom hmentions).later hlater

theorem Primed.concat {expression : Text} {customs : List Custom} (h : Primed expression customs session)
    {custom : Custom} (hcustom : mentions expression custom.name.toList = true →
      KeepsFields custom Slot.all session) : Primed expression (customs ++ [custom]) session := by
  intro candidate hcandidate hmentions
  rcases List.mem_append.1 hcandidate with hold | hnew
  · exact h candidate hold hmentions
  · cases List.mem_singleton.1 hnew
    exact hcustom hmentions

/-- **A schema that is not kept yet is asked for by the first custom middleware of its name.** Those
before it in the list have been gone through, for they are mentioned together with it. -/
theorem Primed.isFirst {expression : Text} {gone rest : List Custom} {custom : Custom}
    (h : Primed expression gone session) (hcustoms : setup.customs = gone ++ custom :: rest)
    (hmentions : mentions expression custom.name.toList = true) {slot : Slot}
    (hdemands : (custom.fields slot).isEmpty = false) : IsFirst setup session custom slot := by
  intro hnone
  have hgone : gone.find? (fun candidate =>
      candidate.name == custom.name && !(candidate.fields slot).isEmpty) = none := by
    rw [List.find?_eq_none]
    intro candidate hcandidate hfound
    rw [Bool.and_eq_true, beq_iff_eq, Bool.not_eq_true'] at hfound
    obtain ⟨hname, hfields⟩ := hfound
    rw [← hname] at hmentions
    have hslot : slot ∈ Slot.all := by
      cases slot <;> decide
    have hhas := h candidate hcandidate hmentions slot hslot hfields
    rw [hname, Table.has, hnone] at hhas
    cases hhas
  have hfound : setup.customs.find? (fun candidate =>
      candidate.name == custom.name && !(candidate.fields slot).isEmpty) = some custom := by
    rw [hcustoms, List.find?_append, hgone, List.find?_cons_of_pos (by simp [hdemands])]
    rfl
  rw [demandedFields, hfound]
  rfl

theorem Draft.Matches.require {draft draft' : Draft} (h : draft.Matches numbering draft')
    (security : Option String) :
    (draft.require security).Matches numbering (draft'.require security) := by
  obtain ⟨request, rfl, hrequest⟩ := h
  cases security with
  | none => exact ⟨request, rfl, hrequest⟩
  | some name =>
      by_cases hknown : (name.isEmpty || draft.security.contains name) = true
      · simp only [Draft.require, hknown, if_true]
        exact ⟨request, rfl, hrequest⟩
      · simp only [Draft.require, hknown]
        exact ⟨request, rfl, hrequest⟩

theorem agree_fillFromCustoms (hdeclares : Declares provider) (declaration : Declaration)
    (expression : Text) {gone customs : List Custom} (hcustoms : setup.customs = gone ++ customs)
    (h : Matched setup provider numbering session other)
    (hprimed : Primed expression gone session) (hprimed' : Primed expression gone other)
    {draft draft' : Draft} (hdraft : draft.Matches numbering draft') :
    Agree setup provider numbering session other
      (fillFromCustoms provider declaration expression customs draft)
      (fillFromCustoms provider declaration expression customs draft') DraftsMatch := by
  -- the customs gone through so far move from one list to the other
  induction customs generalizing gone numbering session other draft draft' with
  | nil => exact agree_pure h hdraft
  | cons custom rest ih =>
      have hmoved : setup.customs = (gone ++ [custom]) ++ rest := by
        rw [hcustoms]
        simp
      rw [fillFromCustoms, fillFromCustoms]
      by_cases hmentions : mentions expression custom.name.toList = true
      · rw [if_pos hmentions, if_pos hmentions]
        refine (agree_fillFromFields Slot.all h
          (fun slot _ hdemands => hprimed.isFirst hcustoms hmentions hdemands)
          (fun slot _ hdemands => hprimed'.isFirst hcustoms hmentions hdemands) hdraft).bind ?_
        rintro wider middle middle' filled filled' hwider hmiddle hmiddle' hmatched
          ⟨hfilled, hkeeps, hkeeps'⟩
        refine (agree_fillFromArgument hdeclares hmatched hfilled declaration custom expression).bind ?_
        intro widest last last' given given' _ hlast hlast' hmatched' hgiven
        refine ih hmoved hmatched' ?_ ?_ (hgiven.require custom.security)
        · exact (hprimed.later (hmiddle.trans hlast)).concat fun _ => hkeeps.later hlast
        · exact (hprimed'.later (hmiddle'.trans hlast')).concat fun _ => hkeeps'.later hlast'
      · rw [if_neg hmentions, if_neg hmentions]
        refine ih hmoved h (hprimed.concat ?_) (hprimed'.concat ?_) hdraft
        · intro hmentioned
          exact absurd hmentioned hmentions
        · intro hmentioned
          exact absurd hmentioned hmentions

theorem agree_declareResponses (hdeclares : Declares provider) (declaration : Declaration)
    (entries : List ResponseEntry) (h : Matched setup provider numbering session other)
    {draft draft' : Draft} (hdraft : draft.Matches numbering draft') :
    Agree setup provider numbering session other
      (declareResponses provider declaration entries draft)
      (declareResponses provider declaration entries draft') DraftsMatch := by
  induction entries generalizing numbering session other draft draft' with
  | nil => exact agree_pure h hdraft
  | cons entry rest ih =>
      rw [declareResponses, declareResponses]
      have hentered : ∀ {wider : Numbering} {later later' : Session} (status : String)
          (response : Response), numbering ⊆ wider → Matched setup provider wider later later' →
          Agree setup provider wider later later'
            (declareResponses provider declaration rest
              { draft with responses := draft.responses.put status response })
            (declareResponses provider declaration rest
              { draft' with responses := draft'.responses.put status response }) DraftsMatch := by
        intro wider later later' status response hwider hmatched
        obtain ⟨request, rfl, hrequest⟩ := hdraft
        exact ih hmatched ⟨request, rfl, hrequest.mono hwider⟩
      cases referenceOf? declaration entry.schema with
      | none => exact hentered _ _ (List.Subset.refl _) h
      | some reference =>
          simp only [pure_bind]
          refine (agree_resolve hdeclares h reference).bind ?_
          rintro wider later later' model model' hwider _ _ hmatched ⟨rfl, -⟩
          exact hentered _ _ hwider hmatched

theorem agree_named (expression : Text) (h : Matched setup provider numbering session other)
    {draft draft' : Draft} (hdraft : draft.Matches numbering draft') :
    Agree setup provider numbering session other
      (do
        let name ← Run.ofSource (operationName expression wrapperNames)
        pure { draft with summary := String.ofList name })
      (do
        let name ← Run.ofSource (operationName expression wrapperNames)
        pure { draft' with summary := String.ofList name }) DraftsMatch := by
  apply agree_ofSource_bind h
  intro name
  obtain ⟨request, rfl, hrequest⟩ := hdraft
  exact agree_pure h ⟨request, rfl, hrequest⟩

theorem agree_absorb (hdeclares : Declares provider) (declaration : Declaration)
    (expression : Expression) (h : Matched setup provider numbering session other)
    {draft draft' : Draft} (hdraft : draft.Matches numbering draft') :
    Agree setup provider numbering session other (absorb setup provider declaration expression draft)
      (absorb setup provider declaration expression draft') DraftsMatch := by
  rw [absorb, absorb]
  cases expression.kind with
  | validator slot => exact agree_fillFromValidator hdeclares h hdraft declaration slot expression.text
  | custom =>
      have hnone : ∀ {session : Session}, Primed expression.text [] session := by
        intro session custom hcustom
        cases hcustom
      exact agree_fillFromCustoms hdeclares declaration expression.text rfl h hnone hnone hdraft
  | response =>
      apply agree_ofSource_bind h
      intro entries
      exact agree_declareResponses hdeclares declaration entries h hdraft
  | handler =>
      by_cases hwrapper : mentionsWrapper expression.text = true
      · -- a wrapped handler declares its responses before it is named
        simp only [hwrapper, if_true]
        apply agree_ofSource_bind h
        intro entries
        refine (agree_declareResponses hdeclares declaration entries h hdraft).bind ?_
        intro wider later later' given given' _ _ _ hmatched hgiven
        exact agree_named expression.text hmatched hgiven
      · simp only [hwrapper]
        exact agree_named expression.text h hdraft
  | unclassified => exact agree_pure h hdraft

theorem agree_absorbAll (hdeclares : Declares provider) (declaration : Declaration)
    (chain : List Expression) (h : Matched setup provider numbering session other)
    {draft draft' : Draft} (hdraft : draft.Matches numbering draft') :
    Agree setup provider numbering session other (absorbAll setup provider declaration chain draft)
      (absorbAll setup provider declaration chain draft') DraftsMatch := by
  induction chain generalizing numbering session other draft draft' with
  | nil => exact agree_pure h hdraft
  | cons expression rest ih =>
      rw [absorbAll, absorbAll]
      refine (agree_absorb hdeclares declaration expression h hdraft).bind ?_
      intro wider later later' given given' _ _ _ hmatched hgiven
      exact ih hmatched hgiven

/-! ## Records -/

theorem agree_build (hdeclares : Declares provider) (declaration : Declaration) (subject : Subject)
    (chain : List Expression) (h : Matched setup provider numbering session other) :
    Agree setup provider numbering session other (build setup provider declaration subject chain)
      (build setup provider declaration subject chain)
      fun wider _ _ record record' => record.Matches wider record' := by
  rw [build]
  apply agree_ofSource_bind h
  intro classified
  refine (agree_absorbAll hdeclares declaration classified h (draft_matches_empty numbering)).bind ?_
  rintro wider later later' draft draft' _ _ _ hmatched ⟨request, rfl, hrequest⟩
  exact agree_pure hmatched ⟨rfl, hrequest⟩

/-- **The record of a route does not show the caches**: in any two coherent sessions it is the same up
to serial numbers, or fails alike. -/
theorem agree_recordOf {context : Generator.Context} (hdeclares : Declares context.provider)
    (declaration : Declaration) (tag mount : Text) (token : Route.Token)
    (h : Matched context.setup context.provider numbering session other) :
    Agree context.setup context.provider numbering session other
      (Generator.recordOf context declaration tag mount token)
      (Generator.recordOf context declaration tag mount token)
      fun wider _ _ record record' => record.Matches wider record' := by
  rw [Generator.recordOf]
  apply agree_ofSource_bind h
  intro found
  exact agree_build hdeclares declaration _ found.chain h

end

end RouteAtlas.Middleware
