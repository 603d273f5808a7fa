import RouteAtlas.Proofs.Middleware.Classification
import RouteAtlas.Proofs.Source.Nesting
import RouteAtlas.Proofs.Step
import RouteAtlas.Proofs.Unions

/-!
# Documented responses

The responses of a record are those of the expressions whose responses are read: of the response
validators, and of the handler if it is wrapped (`keys_build`). Among the wrappers of a chain the handler
is the one before which no candidate stands, so what a wrapper behind another candidate declares is lost,
unless another expression that is read declares it as well (`build_documents_iff`).
-/

set_option autoImplicit false

namespace RouteAtlas.Middleware

open Text Source Api Schema Router Step

/-! ## What is declared and what is read -/

/-- The statuses that an expression declares. -/
def declaredStatuses (expression : Text) : List String :=
  match declaredResponses expression with
  | .ok entries => entries.map fun entry => String.ofList entry.status
  | .error _ => []

/-- The responses of an expression are read: it is a response validator or a wrapped handler. -/
def Expression.isRead (expression : Expression) : Bool :=
  match expression.kind with
  | .response => true
  | .handler => mentionsWrapper expression.text
  | _ => false

/-- The statuses of the expressions that are read. -/
def statusesRead (classified : List Expression) : List String :=
  (classified.filter Expression.isRead).flatMap fun expression => declaredStatuses expression.text

/-- What wrappers and response validators declare is documented. -/
def IsDocumented (classified : List Expression) (record : Record) : Prop :=
  ∀ expression ∈ classified, mentionsWrapper expression.text = true ∨ expression.kind = .response →
    ∀ status ∈ declaredStatuses expression.text, status ∈ record.responses.keys

/-- A candidate for the handler stands before an index. -/
def IsPreceded (setup : Setup) (classified : List Expression) (index : Nat) : Prop :=
  ∃ earlier < index, ∃ other, classified[earlier]? = some other ∧ IsCandidate setup.customs other.text

/-! ## Statuses of a draft -/

/-- A draft has responses for some statuses, in the order in which they came first. -/
def ListsStatuses (statuses : List String) (draft : Draft) : Prop :=
  draft.responses.keys = statuses.eraseDups

/-- Whatever the session, a step that succeeds gives a value of some kind. -/
abbrev Gives {α : Type} (step : Run α) (gives : α → Prop) : Prop :=
  Ensures (fun _ => True) (fun _ => True) step gives

section

variable {α : Type}

theorem gives_any (step : Run α) : Gives step fun _ => True :=
  fun _ _ => ⟨trivial, fun _ _ => trivial, fun _ _ => trivial⟩

theorem gives_ofSource (outcome : Except Fault α) : Gives (Run.ofSource outcome) (outcome = .ok ·) := by
  cases outcome with
  | ok value => exact ensures_pure rfl
  | error fault => exact ensures_throw trivial

end

section

variable {setup : Setup} {provider : Provider} {declaration : Declaration} {draft : Draft}
  {statuses : List String}

theorem ListsStatuses.put (h : ListsStatuses statuses draft) (status : String) (response : Response) :
    ListsStatuses (statuses ++ [status])
      { draft with responses := draft.responses.put status response } := by
  show (draft.responses.put status response).keys = _
  have hmem : status ∈ draft.responses.keys ↔ status ∈ statuses := by rw [h, List.mem_eraseDups]
  rw [Table.put_eq, Table.keys, keys_putLast, ← Table.keys]
  split
  · rename_i hold
    rw [Table.eraseDups_concat_of_mem (hmem.1 hold), h]
  · rename_i hnew
    rw [Table.eraseDups_concat_of_not_mem (mt hmem.2 hnew), h]

/-- A draft of which only the request has changed. -/
structure Draft.Refilled (draft given : Draft) : Prop where
  responses : given.responses = draft.responses
  security : given.security = draft.security

theorem Draft.Refilled.refl (draft : Draft) : draft.Refilled draft := ⟨rfl, rfl⟩

theorem Draft.Refilled.trans {given last : Draft} (h : draft.Refilled given) (hlast : given.Refilled last) :
    draft.Refilled last :=
  ⟨hlast.responses.trans h.responses, hlast.security.trans h.security⟩

theorem ListsStatuses.refilled {given : Draft} (h : ListsStatuses statuses draft)
    (hgiven : draft.Refilled given) : ListsStatuses statuses given := by
  rw [ListsStatuses, hgiven.responses]
  exact h

/-- Filling a slot changes the request only. -/
theorem gives_assign (draft : Draft) (slot : Slot) (model : Model) :
    Gives (draft.assign slot model) draft.Refilled := by
  rw [Draft.assign]
  exact (gives_any _).bind fun _ _ => (gives_any _).bind fun _ _ => ensures_pure ⟨rfl, rfl⟩

theorem gives_fillFromValidator (draft : Draft) (slot : Slot) (expression : Text) :
    Gives (fillFromValidator provider declaration slot expression draft) draft.Refilled := by
  rw [fillFromValidator]
  apply (gives_any _).bind
  intro given _
  split
  · split
    · exact (gives_any _).bind fun _ _ => ensures_pure (.refl draft)
    · apply (gives_any _).bind
      intro model _
      apply (gives_assign draft slot model).bind
      intro filled hfilled
      split
      · exact ensures_pure ⟨hfilled.responses, hfilled.security⟩
      · exact ensures_pure hfilled
  · exact (gives_any _).bind fun _ _ => ensures_pure (.refl draft)

theorem gives_fillFromFields (draft : Draft) (custom : Custom) (slots : List Slot) :
    Gives (fillFromFields custom slots draft) draft.Refilled := by
  induction slots generalizing draft with
  | nil => exact ensures_pure (.refl draft)
  | cons slot rest ih =>
      rw [fillFromFields]
      split
      · exact ih draft
      · apply (gives_any _).bind
        intro model _
        apply (gives_assign draft slot model).bind
        intro filled hfilled
        exact (ih filled).imp (fun _ h => h) fun _ hlast => hfilled.trans hlast

theorem gives_fillFromArgument (draft : Draft) (custom : Custom) (expression : Text) :
    Gives (fillFromArgument provider declaration custom expression draft) draft.Refilled := by
  rw [fillFromArgument]
  split
  · exact ensures_pure (.refl draft)
  · split
    · exact ensures_pure (.refl draft)
    · apply (gives_any _).bind
      intro given _
      split
      · exact ensures_pure (.refl draft)
      · apply (gives_any _).bind
        intro model _
        split
        · exact ensures_throw trivial
        · exact gives_assign draft _ model

theorem ListsStatuses.require (h : ListsStatuses statuses draft) (security : Option String) :
    ListsStatuses statuses (draft.require security) := by
  rw [ListsStatuses, draft.responses_require]
  exact h

theorem gives_fillFromCustoms (h : ListsStatuses statuses draft) (expression : Text) (customs : List Custom) :
    Gives (fillFromCustoms provider declaration expression customs draft) (ListsStatuses statuses) := by
  induction customs generalizing draft with
  | nil => exact ensures_pure h
  | cons custom rest ih =>
      rw [fillFromCustoms]
      split
      · apply (gives_fillFromFields draft custom Slot.all).bind
        intro filled hfilled
        apply (gives_fillFromArgument filled custom expression).bind
        intro given hgiven
        exact ih ((h.refilled (hfilled.trans hgiven)).require custom.security)
      · exact ih h

/-- **Declared responses are entered under their statuses.** -/
theorem gives_declareResponses (h : ListsStatuses statuses draft) (entries : List ResponseEntry) :
    Gives (declareResponses provider declaration entries draft)
      (ListsStatuses (statuses ++ entries.map fun entry => String.ofList entry.status)) := by
  induction entries generalizing draft statuses with
  | nil =>
      rw [List.map_nil, List.append_nil]
      exact ensures_pure h
  | cons entry rest ih =>
      rw [List.map_cons, List.append_cons, declareResponses]
      cases referenceOf? declaration entry.schema with
      | none => exact (gives_any _).bind fun _ _ => ih (h.put _ _)
      | some reference =>
          exact (gives_any _).bind fun _ _ => (gives_any _).bind fun _ _ => ih (h.put _ _)

theorem statusesRead_cons (expression : Expression) (rest : List Expression) :
    statusesRead (expression :: rest) =
      (if expression.isRead then declaredStatuses expression.text else []) ++ statusesRead rest := by
  rw [statusesRead, List.filter_cons]
  split
  · rfl
  · rfl

/-- **An expression that is read adds the statuses it declares**, and no other one adds any. -/
theorem gives_absorb (h : ListsStatuses statuses draft) (expression : Expression) :
    Gives (absorb setup provider declaration expression draft)
      (ListsStatuses (statuses ++
        if expression.isRead then declaredStatuses expression.text else [])) := by
  have hentered : ∀ entries, declaredResponses expression.text = .ok entries →
      Gives (declareResponses provider declaration entries draft)
        (ListsStatuses (statuses ++ declaredStatuses expression.text)) := by
    intro entries hentries
    rw [declaredStatuses, hentries]
    exact gives_declareResponses h entries
  have hnamed : ∀ {listed : List String} (given : Draft), ListsStatuses listed given → Gives (do
      let name ← Run.ofSource (operationName expression.text wrapperNames)
      pure { given with summary := String.ofList name }) (ListsStatuses listed) :=
    fun given hgiven => (gives_any _).bind fun _ _ => ensures_pure hgiven
  have hread : expression.isRead = true →
      (statuses ++ if expression.isRead then declaredStatuses expression.text else []) =
        statuses ++ declaredStatuses expression.text := fun h => by rw [if_pos h]
  have hunread : expression.isRead = false →
      (statuses ++ if expression.isRead then declaredStatuses expression.text else []) = statuses :=
    fun h => by rw [h, if_neg Bool.false_ne_true, List.append_nil]
  rw [absorb]
  cases hkind : expression.kind with
  | validator slot =>
      rw [hunread (by rw [Expression.isRead, hkind])]
      exact (gives_fillFromValidator draft slot expression.text).imp (fun _ h => h) fun _ => h.refilled
  | custom =>
      rw [hunread (by rw [Expression.isRead, hkind])]
      exact gives_fillFromCustoms h expression.text setup.customs
  | response =>
      rw [hread (by rw [Expression.isRead, hkind])]
      exact (gives_ofSource _).bind hentered
  | handler =>
      cases hwrapper : mentionsWrapper expression.text with
      | true =>
          rw [hread (by rw [Expression.isRead, hkind, hwrapper])]
          -- a wrapped handler declares its responses before it is named
          exact (gives_ofSource _).bind fun entries hentries => (hentered entries hentries).bind hnamed
      | false =>
          rw [hunread (by rw [Expression.isRead, hkind, hwrapper])]
          exact (ensures_pure h).bind hnamed
  | unclassified =>
      rw [hunread (by rw [Expression.isRead, hkind])]
      exact ensures_pure h

/-- **A chain adds the statuses that are read of its expressions.** -/
theorem gives_absorbAll (h : ListsStatuses statuses draft) (chain : List Expression) :
    Gives (absorbAll setup provider declaration chain draft)
      (ListsStatuses (statuses ++ statusesRead chain)) := by
  induction chain generalizing draft statuses with
  | nil =>
      rw [statusesRead, List.filter_nil, List.flatMap_nil, List.append_nil]
      exact ensures_pure h
  | cons expression rest ih =>
      rw [absorbAll, statusesRead_cons, ← List.append_assoc]
      exact (gives_absorb h expression).bind fun _ hgiven => ih hgiven

end

/-! ## Records -/

section

variable {setup : Setup} {provider : Provider} {declaration : Declaration} {subject : Subject}
  {chain : List Expression} {session stop : Session} {record : Record}

/-- **The statuses of a record are those of the expressions that are read**, in the order in which they
come first. -/
theorem keys_build (hbuild : Yields (build setup provider declaration subject chain) session record stop) :
    ∃ classified, classify setup chain = .ok classified ∧
      record.responses.keys = (statusesRead classified).eraseDups := by
  have hgives : Gives (build setup provider declaration subject chain) fun record =>
      ∃ classified, classify setup chain = .ok classified ∧
        record.responses.keys = (statusesRead classified).eraseDups := by
    rw [build]
    apply (gives_ofSource _).bind
    intro classified hclassified
    have hempty : ListsStatuses [] {} := rfl
    -- a draft starts without responses, so those at the end are those the chain has added
    exact (gives_absorbAll hempty classified).bind fun draft hlists =>
      ensures_pure ⟨classified, hclassified, hlists⟩
  refine (hgives session trivial).2.1 record ?_
  rw [hbuild]

theorem mem_statusesRead {classified : List Expression} {status : String} :
    status ∈ statusesRead classified ↔ ∃ expression ∈ classified, expression.isRead = true ∧
      status ∈ declaredStatuses expression.text := by
  simp only [statusesRead, List.mem_flatMap, List.mem_filter, and_assoc]

/-- Among candidates that are all free, the first one is that with no other before it. -/
theorem isFirstFree_iff (hdenied : setup.denied = []) {classified : List Expression} {i : Nat}
    {expression : Expression} (hplace : classified[i]? = some expression)
    (hcandidate : IsCandidate setup.customs expression.text) :
    IsFirstFree setup (classified.map Expression.text) i ↔ ¬ IsPreceded setup classified i := by
  have hallowed : ∀ text, ¬ MentionsAny text (setup.denied.map String.toList) := by
    rw [hdenied]
    rintro text ⟨name, hname, -⟩
    cases hname
  have htext : ∀ {j : Nat} {text : Text}, (classified.map Expression.text)[j]? = some text ↔
      ∃ other, classified[j]? = some other ∧ other.text = text := by
    intro j text
    rw [List.getElem?_map, Option.map_eq_some_iff]
  constructor
  · rintro ⟨-, hfirst⟩ ⟨earlier, hlt, other, hother, hpreceding⟩
    exact hfirst earlier hlt other.text (htext.2 ⟨other, hother, rfl⟩) ⟨hpreceding, hallowed _⟩
  · intro hnone
    refine ⟨⟨expression.text, htext.2 ⟨expression, hplace, rfl⟩, hcandidate, hallowed _⟩, ?_⟩
    intro earlier hlt text hearlier hfree
    obtain ⟨other, hother, rfl⟩ := htext.1 hearlier
    exact hnone ⟨earlier, hlt, other, hother, hfree.candidate⟩

/-- Where no name is denied, the wrappers that are read are those before which no candidate stands. -/
theorem isRead_wrapper_iff (hdenied : setup.denied = []) {expanded : List Expression} {i : Nat}
    {expression : Expression} (hplace : (classifyFrom setup false expanded)[i]? = some expression)
    (hwrapper : mentionsWrapper expression.text = true) :
    expression.isRead = true ↔ ¬ IsPreceded setup (classifyFrom setup false expanded) i := by
  have hcandidate : IsCandidate setup.customs expression.text := .inl (any_mentions_iff.1 hwrapper)
  obtain ⟨hhandler, hpassed, -⟩ := kind_classifyFrom hplace
  -- a wrapper is the handler, or one of the candidates behind it, which are not classified
  rw [← isFirstFree_iff hdenied hplace hcandidate, map_text_classifyFrom, ← hhandler]
  by_cases hkind : expression.kind = .handler
  · rw [Expression.isRead, hkind]
    exact iff_of_true hwrapper rfl
  · rw [Expression.isRead, hpassed hcandidate hkind]
    exact iff_of_false Bool.false_ne_true nofun

/-- **The responses of every wrapper are documented exactly if those of late wrappers are declared
elsewhere.** Where no name is denied and a record is made, its statuses are those of the expressions that are
read: of all response validators, and of a wrapper if no candidate for the handler stands before it. So the
responses of all wrappers and response validators are documented exactly if every status of a wrapper behind
another candidate is declared by an expression that is read as well. -/
theorem build_documents_iff (hdenied : setup.denied = [])
    (hbuild : Yields (build setup provider declaration subject chain) session record stop) :
    ∃ classified, classify setup chain = .ok classified ∧
      expand chain = .ok (chainOf (classified.map Expression.text)) ∧
      record.responses.keys = (statusesRead classified).eraseDups ∧
      (∀ i expression, classified[i]? = some expression → mentionsWrapper expression.text = true →
        (expression.isRead = true ↔ ¬ IsPreceded setup classified i)) ∧
      (IsDocumented classified record ↔ ∀ i expression, classified[i]? = some expression →
        mentionsWrapper expression.text = true → IsPreceded setup classified i →
          ∀ status ∈ declaredStatuses expression.text, ∃ read ∈ classified, read.isRead = true ∧
            status ∈ declaredStatuses read.text) := by
  obtain ⟨classified, hclassified, hkeys⟩ := keys_build hbuild
  obtain ⟨expanded, hexpand, rfl⟩ := eq_ok_of_map hclassified
  obtain ⟨texts, -, rfl⟩ := eq_ok_of_map hexpand
  have hread := fun (i : Nat) (expression : Expression) =>
    @isRead_wrapper_iff setup hdenied (chainOf texts) i expression
  have hdocumented : ∀ status, status ∈ record.responses.keys ↔
      ∃ expression ∈ classifyFrom setup false (chainOf texts), expression.isRead = true ∧
        status ∈ declaredStatuses expression.text := by
    intro status
    rw [hkeys, List.mem_eraseDups, mem_statusesRead]
  refine ⟨_, hclassified, by rw [map_text_classifyFrom, map_text_chainOf, hexpand], hkeys, hread, ?_⟩
  constructor
  · intro hall i expression hplace hwrapper _ status hstatus
    exact (hdocumented status).1 (hall expression (List.mem_of_getElem? hplace) (.inl hwrapper) status hstatus)
  · intro hlate expression hmem hkind status hstatus
    rw [hdocumented]
    by_cases hisRead : expression.isRead = true
    · exact ⟨expression, hmem, hisRead, hstatus⟩
    · -- what is not read is a wrapper, and another candidate stands before it
      have hwrapper : mentionsWrapper expression.text = true :=
        hkind.resolve_right fun hresponse => hisRead (by rw [Expression.isRead, hresponse])
      obtain ⟨i, hplace⟩ := List.mem_iff_getElem?.1 hmem
      have hpreceded := not_not.1 (mt (hread i expression hplace hwrapper).2 hisRead)
      exact hlate i expression hplace hwrapper hpreceded status hstatus

end

/-- The record of a chain, with schemas that name no module. -/
def dashboardRecord (chain : List Text) : Run Record :=
  build {} (tableProvider []) default { method := "get", path := "/", tag := "t", note := none }
    (chainOf chain)

/-- A response validator and two wrappers that declare the same status, with their kinds. -/
def pairedKinds : List Expression :=
  [⟨0, "validateResponse(404, gone)".toList, .response⟩,
   ⟨1, "usecaseWrapper(list, [\x7bstatus: 200, schema: page\x7d])".toList, .handler⟩,
   ⟨2, "executeAndValidateResponse(run, [\x7bstatus: 200, schema: out\x7d])".toList, .unclassified⟩]

theorem pairedKinds_spec :
    classify {} (chainOf (pairedKinds.map Expression.text)) = .ok pairedKinds ∧
      (result (dashboardRecord (pairedKinds.map Expression.text)) {}).1.isOk = true ∧
      (∀ expression ∈ pairedKinds, ∀ status ∈ declaredStatuses expression.text,
        ∃ read ∈ pairedKinds, read.isRead = true ∧ status ∈ declaredStatuses read.text) ∧
      (statusesRead pairedKinds).eraseDups = ["404", "200"] := by
  -- the texts are read character by character only once
  unfold dashboardRecord pairedKinds
  repeat rw [String.toList_ofList]
  decide +kernel

/-- What the late wrapper declares is documented, as the first one declares it, too. -/
theorem paired_documented : ∃ record stop,
    Yields (dashboardRecord (pairedKinds.map Expression.text)) {} record stop ∧
      record.responses.keys = ["404", "200"] ∧ IsDocumented pairedKinds record := by
  obtain ⟨hclassify, hok, hread, hstatuses⟩ := pairedKinds_spec
  obtain ⟨record, stop, hbuild⟩ := exists_yields hok
  obtain ⟨classified, hclassified, -, hkeys, -, hdocumented⟩ := build_documents_iff rfl hbuild
  cases hclassify.symm.trans hclassified
  refine ⟨record, stop, hbuild, hkeys.trans hstatuses, hdocumented.2 fun i expression hplace _ _ =>
    hread expression (List.mem_of_getElem? hplace)⟩

/-- A wrapper behind a middleware that is not known. -/
def lateKinds : List Expression :=
  [⟨0, "logRequest".toList, .handler⟩,
   ⟨1, "executeAndValidateResponse(getDashboard, [\x7bstatus: 200, schema: out\x7d])".toList,
     .unclassified⟩]

theorem lateKinds_spec :
    classify {} (chainOf (lateKinds.map Expression.text)) = .ok lateKinds ∧
      (result (dashboardRecord (lateKinds.map Expression.text)) {}).1.isOk = true ∧
      (statusesRead lateKinds).eraseDups = [] ∧
      ∃ expression ∈ lateKinds, mentionsWrapper expression.text = true ∧
        "200" ∈ declaredStatuses expression.text := by
  unfold dashboardRecord lateKinds
  repeat rw [String.toList_ofList]
  decide +kernel

/-- What the late wrapper declares is lost: the middleware is taken for the handler. -/
theorem late_wrapper_undocumented : ∃ record stop,
    Yields (dashboardRecord (lateKinds.map Expression.text)) {} record stop ∧
      classify {} (chainOf (lateKinds.map Expression.text)) = .ok lateKinds ∧
      record.responses.keys = [] ∧ ¬ IsDocumented lateKinds record := by
  obtain ⟨hclassify, hok, hstatuses, hdeclared⟩ := lateKinds_spec
  obtain ⟨record, stop, hbuild⟩ := exists_yields hok
  obtain ⟨classified, hclassified, hkeys⟩ := keys_build hbuild
  cases hclassify.symm.trans hclassified
  have hnone : record.responses.keys = [] := hkeys.trans hstatuses
  refine ⟨record, stop, hbuild, hclassify, hnone, fun hdocumented => ?_⟩
  obtain ⟨expression, hmem, hwrapper, hstatus⟩ := hdeclared
  have hlisted := hdocumented expression hmem (.inl hwrapper) "200" hstatus
  rw [hnone] at hlisted
  cases hlisted

end RouteAtlas.Middleware
