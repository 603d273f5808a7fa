import RouteAtlas.Proofs.Generation.Visits
import RouteAtlas.Proofs.Middleware.Loading

/-!
# What a run loads

A run hands every reference to the provider at most once, also one that cannot be resolved: the failure
to resolve a reference is none that a run goes on behind. And what a run gives is not affected by what
it keeps: a run that asks the provider for a schema whenever it needs one gives the same document or
fails in the same way (`generate_loads_once`). That a provider answers one reference always alike is part
of what a provider is: it is a function of the reference.
-/

set_option autoImplicit false

namespace RouteAtlas.Generator

open Text Route Router Middleware Api Schema Step

/-! ## Runs by a resolver -/

/-- Registers the route calls of a router, passing over malformed ones. -/
def visitRoutesBy (resolver : Resolver) (context : Context) (declaration : Declaration)
    (tag mount : Text) : List Token → Run Unit
  | [] => pure ()
  | token :: rest => do
      match ← (recordOfBy context.setup resolver declaration tag mount token).attempt with
      | .ok record => register record
      | .error (.structural fault) => Run.report (.endpointSkipped token.verb tag fault)
      | .error failure => throw failure
      visitRoutesBy resolver context declaration tag mount rest

/-- Adds the routers mounted on a router by a way to add each of them. `chain` holds the routers being
expanded. -/
def visitMountsBy (visit : Mount → Run Unit) (chain : List Text) : List Mount → Run Unit
  | [] => pure ()
  | inner :: rest => do
      if chain.contains inner.router then
        Run.report (.cyclicMount inner.router chain)
      else
        visit inner
      visitMountsBy visit chain rest

/-- Adds a router and everything mounted on it. -/
def visitRouterBy (resolver : Resolver) (context : Context) :
    Nat → Text → Text → Path → List Text → Run Unit
  | 0, _, _, _, _ => throw .tooDeep
  | depth + 1, name, mount, file, chain => do
      match ← (locate context.reader context.schemaSuffix.toList name file).attempt with
      | .error (.unlocated router file) => Run.report (.routerSkipped router file)
      | .error failure => throw failure
      | .ok declaration => do
          Run.report (.routerMounted name mount declaration.file)
          let extraction := tokens declaration.span (some declaration.name)
          Run.reportAll (extraction.halt.map Event.halted).toList
          visitRoutesBy resolver context declaration name mount extraction.tokens
          let scan := mounts declaration.span [] (some declaration.name)
          Run.reportAll (scan.faults.map Event.malformedMount)
          visitMountsBy
            (fun inner => visitRouterBy resolver context depth inner.router
              (nestMount mount inner.path) declaration.file (chain ++ [declaration.name]))
            (chain ++ [declaration.name]) scan.mounts

/-- Adds the routers mounted in the main file. -/
def visitRootsBy (resolver : Resolver) (context : Context) (depth : Nat) (file : Path) :
    List Mount → Run Unit
  | [] => pure ()
  | root :: rest => do
      visitRouterBy resolver context depth root.router root.path file []
      visitRootsBy resolver context depth file rest

/-- Runs a generation pass with a resolver and gives the assembled document. -/
def generateBy (resolver : Resolver) (context : Context) (depth : Nat) (file : Path) (basePath : String)
    (schemes : List SecurityScheme) : Run Document := do
  registerSchemes schemes
  let roots ← rootMounts context file basePath
  if roots.isEmpty then Run.report (.noMounts file)
  visitRootsBy resolver context depth file roots
  pure (← get).document

section

variable (context : Context)

theorem visitRoutesBy_resolve (declaration : Declaration) (tag mount : Text) (calls : List Token) :
    visitRoutesBy (Run.resolve context.provider) context declaration tag mount calls =
      visitRoutes context declaration tag mount calls := by
  induction calls with
  | nil => rfl
  | cons token rest ih =>
      rw [visitRoutesBy, recordOfBy_resolve, ih]
      rfl

theorem visitMountsBy_visitRouter (depth : Nat) (mount : Text) (file : Path) (chain : List Text)
    (list : List Mount) :
    visitMountsBy (fun inner => visitRouter context depth inner.router (nestMount mount inner.path)
      file chain) chain list = visitMounts context depth mount file chain list := by
  induction list with
  | nil => rw [visitMountsBy, visitMounts]
  | cons inner rest ih => rw [visitMountsBy, visitMounts, ih]

theorem visitRouterBy_resolve (depth : Nat) :
    visitRouterBy (Run.resolve context.provider) context depth = visitRouter context depth := by
  induction depth with
  | zero =>
      funext name mount file chain
      rw [visitRouterBy, visitRouter]
  | succ depth ih =>
      funext name mount file chain
      rw [visitRouterBy, visitRouter]
      apply bind_congr
      intro outcome
      cases outcome with
      | ok declaration => simp only [visitRoutesBy_resolve, ih, visitMountsBy_visitRouter]
      | error failure => cases failure <;> rfl

/-- With the resolver of a run, a generation pass is that of the run. -/
theorem generateBy_resolve (depth : Nat) (file : Path) (basePath : String)
    (schemes : List SecurityScheme) :
    generateBy (Run.resolve context.provider) context depth file basePath schemes =
      generate context depth file basePath schemes := by
  have hroots : ∀ roots, visitRootsBy (Run.resolve context.provider) context depth file roots =
      visitRoots context depth file roots := by
    intro roots
    induction roots with
    | nil => rfl
    | cons root rest ih => rw [visitRootsBy, visitRoots, visitRouterBy_resolve, ih]
  rw [generateBy, generate]
  simp only [hroots]

end

/-! ## Runs that keep schemas beside runs that do not -/

section

variable (context : Context)

theorem neutral_register (record : Record) : Neutral (register record) := fun _ _ _ => ⟨rfl, rfl⟩

theorem transparent_visitRoutes (declaration : Declaration) (tag mount : Text) (calls : List Token) :
    Transparent context.provider
      (visitRoutesBy (Run.resolve context.provider) context declaration tag mount calls)
      (visitRoutesBy (resolveAfresh context.provider) context declaration tag mount calls) := by
  induction calls with
  | nil => exact (neutral_pure ()).transparent
  | cons token rest ih =>
      rw [visitRoutesBy, visitRoutesBy]
      apply (transparent_recordOf context.setup context.provider declaration tag mount token).attempt_bind
      · intro record
        exact (neutral_register record).transparent.bind fun _ => ih
      · intro fault
        exact (neutral_report _).transparent.bind fun _ => ih
      · intro failure hfailure
        cases failure with
        | structural fault => exact absurd rfl (hfailure fault)
        | _ => exact ⟨rfl, rfl⟩

theorem transparent_visitMounts {visit visit' : Mount → Run Unit}
    (hvisit : ∀ inner, Transparent context.provider (visit inner) (visit' inner)) (chain : List Text)
    (list : List Mount) :
    Transparent context.provider (visitMountsBy visit chain list) (visitMountsBy visit' chain list) := by
  induction list with
  | nil => exact (neutral_pure ()).transparent
  | cons inner rest ih =>
      rw [visitMountsBy, visitMountsBy]
      split
      · exact (neutral_report _).transparent.bind fun _ => ih
      · exact (hvisit inner).bind fun _ => ih

/-- **A router and everything mounted on it is added alike**, whether schemas are kept or not. -/
theorem transparent_visitRouter (depth : Nat) (name mount : Text) (file : Path) (chain : List Text) :
    Transparent context.provider
      (visitRouterBy (Run.resolve context.provider) context depth name mount file chain)
      (visitRouterBy (resolveAfresh context.provider) context depth name mount file chain) := by
  -- the mounts on a router are taken one level below, so the depth carries the recursion
  induction depth generalizing name mount file chain with
  | zero =>
      rw [visitRouterBy, visitRouterBy]
      exact (neutral_throw _).transparent
  | succ depth ih =>
      rw [visitRouterBy, visitRouterBy]
      apply (neutral_of_reading (reading_locate _ name file)).attempt.transparent.bind
      intro outcome
      cases outcome with
      | error failure =>
          cases failure with
          | unlocated router target => exact (neutral_report _).transparent
          | _ => exact (neutral_throw _).transparent
      | ok declaration =>
          apply (neutral_report _).transparent.bind
          intro _
          apply (neutral_reportAll _).transparent.bind
          intro _
          apply (transparent_visitRoutes context declaration name mount _).bind
          intro _
          apply (neutral_reportAll _).transparent.bind
          intro _
          exact transparent_visitMounts context (fun inner => ih _ _ _ _) _ _

theorem transparent_visitRoots (depth : Nat) (file : Path) (roots : List Mount) :
    Transparent context.provider (visitRootsBy (Run.resolve context.provider) context depth file roots)
      (visitRootsBy (resolveAfresh context.provider) context depth file roots) := by
  induction roots with
  | nil => exact (neutral_pure ()).transparent
  | cons root rest ih =>
      rw [visitRootsBy, visitRootsBy]
      exact (transparent_visitRouter context depth _ _ _ _).bind fun _ => ih

theorem transparent_generate (depth : Nat) (file : Path) (basePath : String)
    (schemes : List SecurityScheme) :
    Transparent context.provider
      (generateBy (Run.resolve context.provider) context depth file basePath schemes)
      (generateBy (resolveAfresh context.provider) context depth file basePath schemes) := by
  have hschemes : Neutral (registerSchemes schemes) := fun _ _ _ => ⟨rfl, rfl⟩
  have hdocument : Neutral (do pure (← get).document : Run Document) := fun _ _ _ => ⟨rfl, rfl⟩
  have hvisit : ∀ roots, Transparent context.provider
      (do
        visitRootsBy (Run.resolve context.provider) context depth file roots
        pure (← get).document)
      (do
        visitRootsBy (resolveAfresh context.provider) context depth file roots
        pure (← get).document) := by
    intro roots
    exact (transparent_visitRoots context depth file roots).bind fun _ => hdocument.transparent
  rw [generateBy, generateBy]
  apply hschemes.transparent.bind
  intro _
  apply (neutral_of_reading (reading_rootMounts context file basePath)).transparent.bind
  intro roots
  split
  · exact (neutral_report _).transparent.bind fun _ => hvisit roots
  · exact hvisit roots

end

/-- **Schemas are loaded at most once, and keeping them does not show.** In every run the references
handed to the provider are distinct. One that the provider does not find is the last of them, and the
run fails with it. And the document, or the failure, is that of the run that hands every reference it
needs to the provider anew. -/
theorem generate_loads_once (context : Context) (depth : Nat) (file : Path) (basePath : String)
    (schemes : List SecurityScheme) :
    (final (generate context depth file basePath schemes) {}).loads.Nodup ∧
      (∀ reference ∈ (final (generate context depth file basePath schemes) {}).loads, ∀ reason,
        (context.provider reference).outcome = .error (.notFound reason) →
        (result (generate context depth file basePath schemes) {}).1 =
            .error (.unresolved reference reason) ∧
          (final (generate context depth file basePath schemes) {}).loads.getLast? = some reference) ∧
      generateBy (Run.resolve context.provider) context depth file basePath schemes =
        generate context depth file basePath schemes ∧
      (result (generateBy (resolveAfresh context.provider) context depth file basePath schemes) {}).1 =
        (result (generate context depth file basePath schemes) {}).1 := by
  obtain ⟨houtcome, hlevel, haccount⟩ := transparent_generate context depth file basePath schemes {} {}
    (level_empty context.provider) settled_empty
  rw [generateBy_resolve] at houtcome hlevel haccount
  -- a reference that is kept has been found
  have hfound : ∀ {reference : Reference} {model : Model} {reason : String},
      (final (generate context depth file basePath schemes) {}).resolved.get? reference = some model →
      (context.provider reference).outcome ≠ .error (.notFound reason) := by
    intro reference model reason hkept hnone
    cases (hlevel.kept reference model hkept).symm.trans hnone
  rcases haccount with hsettled | ⟨hnodup, earlier, missing, failure, hloads, hkept, hcause, hfailure⟩
  · refine ⟨hsettled.nodup, ?_, generateBy_resolve context depth file basePath schemes, houtcome⟩
    intro reference hmem reason hnone
    obtain ⟨model, hmodel⟩ := hsettled.kept reference hmem
    exact absurd hnone (hfound hmodel)
  · refine ⟨hnodup, ?_, generateBy_resolve context depth file basePath schemes, houtcome⟩
    intro reference hmem reason hnone
    rw [hloads] at hmem ⊢
    rcases List.mem_append.1 hmem with hold | hlast
    · obtain ⟨model, hmodel⟩ := hkept reference hold
      exact absurd hnone (hfound hmodel)
    · cases List.mem_singleton.1 hlast
      rw [resolution, hnone] at hcause
      cases hcause
      exact ⟨hfailure, List.getLast?_concat⟩

/-! ## A run that uses a schema twice and misses one -/

/-- A main file with a route that names one schema twice and then one that is not declared. -/
def billsMain : Text :=
  ("const bills = new Router();\n" ++
    "bills.put('/', validateBody(s.bill), validateHeader(s.bill), validateQuery(s.page), f);\n" ++
    "app.use('/', bills.routes());\n").toList

/-- A run over the main file with one declared schema. -/
def billsContext : Context where
  reader := fun path =>
    if path = Path.ofString "main.ts" then .ok billsMain else .error (.disk (.missing path))
  provider := tableProvider [("s.bill", some (.given (.declared "s" "bill") "Bill" .null))]

/-- The schema that is declared. -/
def billReference : Reference := { module := "s", exportName := "bill", file := none }

/-- The schema that is not. -/
def pageReference : Reference := { module := "s", exportName := "page", file := none }

theorem loads_bills :
    (final (generate billsContext 2 (Path.ofString "main.ts") "" []) {}).loads =
        [billReference, pageReference] ∧
      (final (generateBy (resolveAfresh billsContext.provider) billsContext 2
        (Path.ofString "main.ts") "" []) {}).loads =
        [billReference, billReference, pageReference] := by
  rw [← generateBy_resolve]
  -- the text is read character by character only once
  unfold billsContext billsMain
  simp only [String.toList_append]
  repeat rw [String.toList_ofList]
  decide +kernel

/-- The run loads the declared schema once, where a run without a stock loads it twice, and both fail
for the other one. -/
theorem bills_load_once :
    (final (generateBy (resolveAfresh billsContext.provider) billsContext 2
        (Path.ofString "main.ts") "" []) {}).loads =
        [billReference, billReference, pageReference] ∧
      (final (generate billsContext 2 (Path.ofString "main.ts") "" []) {}).loads.Nodup ∧
      (result (generate billsContext 2 (Path.ofString "main.ts") "" []) {}).1 =
        .error (.unresolved pageReference "no export 'page'") ∧
      (result (generateBy (resolveAfresh billsContext.provider) billsContext 2
        (Path.ofString "main.ts") "" []) {}).1 =
        .error (.unresolved pageReference "no export 'page'") := by
  obtain ⟨hnodup, hmissing, -, hsame⟩ :=
    generate_loads_once billsContext 2 (Path.ofString "main.ts") "" []
  have hmem : pageReference ∈
      (final (generate billsContext 2 (Path.ofString "main.ts") "" []) {}).loads := by
    rw [loads_bills.1]
    simp
  obtain ⟨hfailure, -⟩ := hmissing pageReference hmem "no export 'page'" rfl
  exact ⟨loads_bills.2, hnodup, hfailure, hsame.trans hfailure⟩

end RouteAtlas.Generator
