import RouteAtlas.Proofs.Middleware.Accumulation
import RouteAtlas.Proofs.Middleware.Documented
import RouteAtlas.Proofs.OpenApi.Properties

/-!
# Security of operations

A record lists the security schemes that are demanded by the custom middlewares of its chain, each once
(`security_build`). An operation object has one alternative for each of them, and a request is let in that
meets one alternative (`admits_iff`). So a request that is let in meets all the schemes that are demanded
exactly if no two different ones are (`admits_build_iff`); with two of them, either one is enough.
-/

set_option autoImplicit false

namespace RouteAtlas

open Api Schema Step

namespace Middleware

open Text Source Router

/-! ## Schemes that are demanded -/

/-- The scheme that a custom middleware demands. An empty name demands none. -/
def Custom.scheme? (custom : Custom) : Option String := custom.security.filter fun name => !name.isEmpty

/-- The custom middlewares that contribute to a chain: those that its custom expressions mention. -/
def contributing (setup : Setup) (classified : List Expression) : List Custom :=
  (classified.filter fun expression => expression.kind = .custom).flatMap fun expression =>
    setup.customs.filter fun custom => mentions expression.text custom.name.toList

/-- The schemes that custom middlewares demand. -/
def demandedSchemes (customs : List Custom) : List String :=
  customs.flatMap fun custom => custom.scheme?.toList

/-- A draft lists some schemes, in the order in which they came first. -/
def ListsSchemes (schemes : List String) (draft : Draft) : Prop := draft.security = schemes.eraseDups

section

variable {setup : Setup} {provider : Provider} {declaration : Declaration} {draft : Draft}
  {schemes : List String}

theorem ListsSchemes.refilled {given : Draft} (h : ListsSchemes schemes draft)
    (hgiven : draft.Refilled given) : ListsSchemes schemes given := by
  rw [ListsSchemes, hgiven.security]
  exact h

/-- Declared responses leave the schemes alone. -/
theorem schemes_declareResponses (h : ListsSchemes schemes draft) (entries : List ResponseEntry) :
    Gives (declareResponses provider declaration entries draft) (ListsSchemes schemes) := by
  induction entries generalizing draft with
  | nil => exact ensures_pure h
  | cons entry rest ih =>
      rw [declareResponses]
      cases referenceOf? declaration entry.schema with
      | none => exact (gives_any _).bind fun _ _ => ih h
      | some reference => exact (gives_any _).bind fun _ _ => (gives_any _).bind fun _ _ => ih h

/-- The custom middlewares that an expression mentions add the schemes they demand. -/
theorem schemes_fillFromCustoms (h : ListsSchemes schemes draft) (expression : Text)
    (customs : List Custom) :
    Gives (fillFromCustoms provider declaration expression customs draft)
      (ListsSchemes (schemes ++ demandedSchemes
        (customs.filter fun custom => mentions expression custom.name.toList))) := by
  induction customs generalizing draft schemes with
  | nil =>
      rw [List.filter_nil, demandedSchemes, List.flatMap_nil, List.append_nil]
      exact ensures_pure h
  | cons custom rest ih =>
      rw [fillFromCustoms, List.filter_cons]
      split
      · rw [demandedSchemes, List.flatMap_cons, ← List.append_assoc]
        apply (gives_fillFromFields draft custom Slot.all).bind
        intro filled hfilled
        apply (gives_fillFromArgument filled custom expression).bind
        intro given hgiven
        exact ih (Draft.security_require (h.refilled (hfilled.trans hgiven)) custom.security)
      · exact ih h

/-- An expression adds the schemes of the custom middlewares that contribute to it. -/
theorem schemes_absorb (h : ListsSchemes schemes draft) (expression : Expression) :
    Gives (absorb setup provider declaration expression draft)
      (ListsSchemes (schemes ++ demandedSchemes (contributing setup [expression]))) := by
  have hnone : expression.kind ≠ .custom →
      schemes ++ demandedSchemes (contributing setup [expression]) = schemes := by
    intro hkind
    rw [contributing, List.filter_cons_of_neg (by simpa using hkind)]
    simp [demandedSchemes]
  have hnamed : ∀ given : Draft, ListsSchemes schemes given → Gives (do
      let name ← Run.ofSource (operationName expression.text wrapperNames)
      pure { given with summary := String.ofList name }) (ListsSchemes schemes) :=
    fun given hgiven => (gives_any _).bind fun _ _ => ensures_pure hgiven
  rw [absorb]
  cases hkind : expression.kind with
  | validator slot =>
      rw [hnone (by simp [hkind])]
      exact (gives_fillFromValidator draft slot expression.text).imp (fun _ h => h) fun _ => h.refilled
  | custom =>
      have hone : contributing setup [expression] =
          setup.customs.filter fun custom => mentions expression.text custom.name.toList := by
        rw [contributing, List.filter_cons_of_pos (by simpa using hkind)]
        simp
      rw [hone]
      exact schemes_fillFromCustoms h expression.text setup.customs
  | response =>
      rw [hnone (by simp [hkind])]
      exact (gives_any _).bind fun entries _ => schemes_declareResponses h entries
  | handler =>
      rw [hnone (by simp [hkind])]
      cases mentionsWrapper expression.text with
      | true =>
          exact (gives_any _).bind fun entries _ => (schemes_declareResponses h entries).bind hnamed
      | false => exact (ensures_pure h).bind hnamed
  | unclassified =>
      rw [hnone (by simp [hkind])]
      exact ensures_pure h

theorem contributing_cons (setup : Setup) (expression : Expression) (rest : List Expression) :
    contributing setup (expression :: rest) = contributing setup [expression] ++ contributing setup rest := by
  rw [contributing, ← List.singleton_append, List.filter_append, List.flatMap_append]
  rfl

/-- **A chain adds the schemes of the custom middlewares that contribute to it.** -/
theorem schemes_absorbAll (h : ListsSchemes schemes draft) (chain : List Expression) :
    Gives (absorbAll setup provider declaration chain draft)
      (ListsSchemes (schemes ++ demandedSchemes (contributing setup chain))) := by
  induction chain generalizing draft schemes with
  | nil =>
      rw [contributing, List.filter_nil, List.flatMap_nil, demandedSchemes, List.flatMap_nil,
        List.append_nil]
      exact ensures_pure h
  | cons expression rest ih =>
      rw [absorbAll, contributing_cons, demandedSchemes, List.flatMap_append, ← List.append_assoc]
      exact (schemes_absorb h expression).bind fun _ hgiven => ih hgiven

/-- **The schemes of a record are those that its custom middlewares demand**, each once. -/
theorem security_build {subject : Subject} {chain : List Expression} {session stop : Session} {record : Record}
    (hbuild : Yields (build setup provider declaration subject chain) session record stop) :
    ∃ classified, classify setup chain = .ok classified ∧
      record.security = (demandedSchemes (contributing setup classified)).eraseDups := by
  have hgives : Gives (build setup provider declaration subject chain) fun record =>
      ∃ classified, classify setup chain = .ok classified ∧
        record.security = (demandedSchemes (contributing setup classified)).eraseDups := by
    rw [build]
    apply (gives_ofSource _).bind
    intro classified hclassified
    have hempty : ListsSchemes [] {} := rfl
    exact (schemes_absorbAll hempty classified).bind fun draft hlists =>
      ensures_pure ⟨classified, hclassified, hlists⟩
  refine (hgives session trivial).2.1 record ?_
  rw [hbuild]

end

end Middleware

namespace OpenApi

open Text Router Middleware

/-! ## Requests that are let in -/

/-- An operation lets a request in that satisfies some schemes: it lists no alternatives, or the request
satisfies all the schemes of one of them. -/
def Admits (satisfied : String → Prop) (operation : Json) : Prop :=
  ∀ alternatives, (operation.get? "security").bind Json.arr? = some alternatives → alternatives ≠ [] →
    ∃ schemes, .obj schemes ∈ alternatives ∧ ∀ name ∈ Table.keys schemes, satisfied name

/-- The alternatives of an operation: one for each scheme of its record. -/
theorem security_operation {record : Record} {start stop : Assembly} {value : Json}
    (h : Yields (operation record) start value stop) : (value.get? "security").bind Json.arr? =
      if record.security = [] then none
      else some (record.security.map fun name => .obj [(name, .arr [])]) := by
  obtain ⟨parameters, middle, body, responses, -, hbody, rfl⟩ := exists_operation h
  simp only [Json.get?, Table.get?_append,
    get?_textEntry_of_ne (show "description" ≠ "security" by decide),
    get?_listEntry_of_ne (show "parameters" ≠ "security" by decide), hbody "security" (by decide)]
  cases record.security with
  | nil => rfl
  | cons first rest => rfl

/-- **A request is let in that satisfies one of the schemes**, or any request where none is listed. -/
theorem admits_iff {record : Record} {start stop : Assembly} {value : Json}
    (h : Yields (operation record) start value stop) (satisfied : String → Prop) :
    Admits satisfied value ↔ record.security = [] ∨ ∃ scheme ∈ record.security, satisfied scheme := by
  rw [Admits, security_operation h]
  by_cases hnone : record.security = []
  · simp [hnone]
  · rw [if_neg hnone, or_iff_right hnone]
    constructor
    · intro hadmits
      obtain ⟨schemes, hmem, hall⟩ := hadmits _ rfl (by simpa using hnone)
      obtain ⟨scheme, hscheme, heq⟩ := List.mem_map.1 hmem
      cases heq
      exact ⟨scheme, hscheme, hall scheme List.mem_cons_self⟩
    · rintro ⟨scheme, hscheme, hsatisfied⟩ _ ⟨⟩ -
      refine ⟨_, List.mem_map_of_mem hscheme, fun name hname => ?_⟩
      rwa [List.mem_singleton.1 hname]

/-- All schemes of a chain that are demanded are demanded of whatever request is let in. -/
def DemandsAll (customs : List Custom) (operation : Json) : Prop :=
  ∀ satisfied, Admits satisfied operation → ∀ custom ∈ customs, ∀ scheme ∈ custom.scheme?, satisfied scheme

/-- **All the schemes that are demanded are demanded together exactly if there is no more than one.** The
schemes of a record are those that the custom middlewares of its chain demand, each once and in the order in
which they come first. The operation of the record lets a request in if none is demanded, or if the request
satisfies one of them. So a request that is let in is sure to satisfy the schemes of all custom middlewares
that contribute to the chain exactly if these are all the same. -/
theorem admits_build_iff {setup : Setup} {provider : Provider} {declaration : Declaration} {subject : Subject}
    {chain : List Expression} {session stop : Session} {record : Record} {start last : Assembly} {value : Json}
    (hbuild : Yields (Middleware.build setup provider declaration subject chain) session record stop)
    (hoperation : Yields (operation record) start value last) :
    ∃ classified, classify setup chain = .ok classified ∧
      record.security = (demandedSchemes (contributing setup classified)).eraseDups ∧
      (∀ satisfied, Admits satisfied value ↔ demandedSchemes (contributing setup classified) = [] ∨
        ∃ scheme ∈ demandedSchemes (contributing setup classified), satisfied scheme) ∧
      (DemandsAll (contributing setup classified) value ↔
        ∀ scheme ∈ demandedSchemes (contributing setup classified),
          ∀ other ∈ demandedSchemes (contributing setup classified), scheme = other) := by
  obtain ⟨classified, hclassified, hsecurity⟩ := security_build hbuild
  have hmem : ∀ scheme,
      scheme ∈ record.security ↔ scheme ∈ demandedSchemes (contributing setup classified) := by
    intro scheme
    rw [hsecurity, List.mem_eraseDups]
  have hadmits : ∀ satisfied, Admits satisfied value ↔
      demandedSchemes (contributing setup classified) = [] ∨
        ∃ scheme ∈ demandedSchemes (contributing setup classified), satisfied scheme := by
    intro satisfied
    rw [admits_iff hoperation, List.eq_nil_iff_forall_not_mem, List.eq_nil_iff_forall_not_mem]
    simp only [hmem]
  refine ⟨classified, hclassified, hsecurity, hadmits, ?_⟩
  constructor
  · intro hall scheme hscheme other hother
    -- a request that satisfies nothing but the one scheme is let in
    obtain ⟨custom, hcustom, hnamed⟩ := List.mem_flatMap.1 hother
    exact (hall (· = scheme) ((hadmits _).2 (.inr ⟨scheme, hscheme, rfl⟩)) custom hcustom other
      (Option.mem_toList.1 hnamed)).symm
  · intro hsame satisfied hlet custom hcustom scheme hscheme
    have hdemanded : scheme ∈ demandedSchemes (contributing setup classified) :=
      List.mem_flatMap.2 ⟨custom, hcustom, Option.mem_toList.2 hscheme⟩
    rcases (hadmits satisfied).1 hlet with hnone | ⟨other, hother, hsatisfied⟩
    · rw [hnone] at hdemanded
      cases hdemanded
    · rwa [hsame scheme hdemanded other hother]

/-- Two custom middlewares, each with a scheme. -/
def gateSetup (first second : String) : Setup where
  customs := [{ name := "jwt", security := some first }, { name := "key", security := some second }]

/-- The record of a chain with both of them. -/
def gateRecord (first second : String) : Run Record :=
  Middleware.build (gateSetup first second) (tableProvider []) default
    { method := "get", path := "/", tag := "t", note := none }
    (chainOf ["jwt".toList, "key".toList])

/-- The chain with its kinds. -/
def gateKinds : List Expression :=
  [⟨0, "jwt".toList, .custom⟩, ⟨1, "key".toList, .custom⟩]

/-- The record of the chain is built and rendered, whatever the schemes. -/
theorem gate_rendered : ∀ schemes ∈ [("token", "token"), ("bearer", "apiKey")], ∃ record stop value last,
    Yields (gateRecord schemes.1 schemes.2) {} record stop ∧ Yields (operation record) {} value last ∧
      classify (gateSetup schemes.1 schemes.2) (chainOf ["jwt".toList, "key".toList]) = .ok gateKinds := by
  have hrendered : ∀ schemes ∈ [("token", "token"), ("bearer", "apiKey")],
      ((result (gateRecord schemes.1 schemes.2) {}).1.toOption.map fun record =>
        (result (operation record) {}).1.isOk) = some true ∧
      classify (gateSetup schemes.1 schemes.2) (chainOf ["jwt".toList, "key".toList]) = .ok gateKinds := by
    decide +kernel
  intro schemes hschemes
  obtain ⟨hok, hclassify⟩ := hrendered schemes hschemes
  obtain ⟨record, hrecord, hoperation⟩ := Option.map_eq_some_iff.1 hok
  obtain ⟨value, last, hvalue⟩ := exists_yields hoperation
  have hgiven : (result (gateRecord schemes.1 schemes.2) {}).1 = .ok record :=
    eq_ok_of_mem_toOption (by simpa using hrecord)
  exact ⟨record, _, value, last, Prod.ext hgiven rfl, hvalue, hclassify⟩

/-- Two custom middlewares with one scheme: whatever is let in satisfies it. -/
theorem shared_scheme_demanded : ∃ record stop value last,
    Yields (gateRecord "token" "token") {} record stop ∧ Yields (operation record) {} value last ∧
      demandedSchemes (contributing (gateSetup "token" "token") gateKinds) = ["token", "token"] ∧
      DemandsAll (contributing (gateSetup "token" "token") gateKinds) value := by
  obtain ⟨record, stop, value, last, hbuild, hoperation, hclassify⟩ :=
    gate_rendered ("token", "token") (by simp)
  obtain ⟨classified, hclassified, -, -, hall⟩ := admits_build_iff hbuild hoperation
  cases hclassify.symm.trans hclassified
  have hschemes : demandedSchemes (contributing (gateSetup "token" "token") gateKinds) =
      ["token", "token"] := by
    decide +kernel
  refine ⟨record, stop, value, last, hbuild, hoperation, hschemes, hall.2 ?_⟩
  rw [hschemes]
  decide

/-- Two custom middlewares with different schemes: a request with the first one is let in without the
second. -/
theorem second_scheme_bypassed : ∃ record stop value last,
    Yields (gateRecord "bearer" "apiKey") {} record stop ∧ Yields (operation record) {} value last ∧
      classify (gateSetup "bearer" "apiKey") (chainOf ["jwt".toList, "key".toList]) = .ok gateKinds ∧
      (value.get? "security").bind Json.arr? =
        some [.obj [("bearer", .arr [])], .obj [("apiKey", .arr [])]] ∧
      Admits (· = "bearer") value ∧
      ¬ DemandsAll (contributing (gateSetup "bearer" "apiKey") gateKinds) value := by
  obtain ⟨record, stop, value, last, hbuild, hoperation, hclassify⟩ :=
    gate_rendered ("bearer", "apiKey") (by simp)
  obtain ⟨classified, hclassified, hlisted⟩ := security_build hbuild
  cases hclassify.symm.trans hclassified
  have hsecurity : record.security = ["bearer", "apiKey"] := by
    rw [hlisted]
    decide +kernel
  have hadmits : Admits (· = "bearer") value :=
    (admits_iff hoperation _).2 (.inr ⟨"bearer", by simp [hsecurity], rfl⟩)
  refine ⟨record, stop, value, last, hbuild, hoperation, hclassify, ?_, hadmits, fun hall => ?_⟩
  · rw [security_operation hoperation, hsecurity]
    rfl
  · have hbypassed : "apiKey" = "bearer" :=
      hall _ hadmits { name := "key", security := some "apiKey" } (by decide +kernel) "apiKey" rfl
    exact absurd hbypassed (by decide)

end OpenApi

end RouteAtlas
