import RouteAtlas.Proofs.Generation.Visits
import RouteAtlas.Proofs.Middleware.PlainHandler

/-!
# The receivers of mounts

A `use` call stands on a receiver, the identifier before its dot. The mounts of a router are the calls
on that router, while the main file gives every call in it, whatever its receiver. A call on a router
that is defined in the main file therefore counts twice: as a mount on that router and as a mount of
the main file. `Reaches` describes the chains of mounts of a run, `Documents` the endpoints at their
ends, and `rooted_iff` says when the mounts of a main file are those on the application, and on what
calls the chains of its endpoints start.
-/

set_option autoImplicit false

namespace RouteAtlas.Router

open Text Source Route

/-- A `use` call that mounts a router: the identifier it stands on, if any, and the mount. -/
structure Site where
  receiver : Option Text
  mount : Mount
  deriving DecidableEq, Repr, Inhabited

/-- The call is one on the receiver asked for, if one is asked for. -/
def Site.counts (receiver : Option Text) (site : Site) : Bool :=
  receiver.isNone || site.receiver == receiver

/-- The call stands on a router that is defined in a text. -/
def Site.OnRouter (code : Text) (site : Site) : Prop :=
  ∃ name, site.receiver = some name ∧ (definition? code name).isSome = true

instance (code : Text) (site : Site) : Decidable (site.OnRouter code) :=
  decidable_of_iff ((site.receiver.bind (definition? code)).isSome = true) (by
    rcases site with ⟨receiver, mount⟩
    cases receiver with
    | none => simp [Site.OnRouter]
    | some name => simp [Site.OnRouter])

/-- The `use` calls of a text that mount a router. The text before is given in reverse. -/
def useSites (basePath seen : Text) : Text → List Site
  | [] => []
  | c :: rest =>
      let following := useSites basePath (c :: seen) rest
      if c = '.' then
        match behindUse? rest with
        | some inner =>
            match argumentsAt (seen.length + 1 + (rest.length - inner.length)) inner with
            | .ok given =>
                match mountOf? basePath given with
                | some mount =>
                    { receiver := (lastIdentifier? seen).map Prod.fst, mount := mount } :: following
                | none => following
            | .error _ => following
        | none => following
      else following

theorem isReceiver_eq (receiver : Option Text) (seen : Text) (mount : Mount) :
    isReceiver receiver seen =
      Site.counts receiver { receiver := (lastIdentifier? seen).map Prod.fst, mount := mount } := by
  cases receiver with
  | none => rfl
  | some name =>
      cases hlast : lastIdentifier? seen with
      | none => simp [isReceiver, Site.counts, hlast]
      | some found => simp [isReceiver, Site.counts, hlast]

theorem useCalls_eq_useSites (basePath : Text) (receiver : Option Text) (seen code : Text) :
    (useCalls basePath receiver seen code).filterMap (fun
      | .ok found => found
      | .error _ => none) =
      ((useSites basePath seen code).filter (Site.counts receiver)).map Site.mount := by
  induction code generalizing seen with
  | nil => rfl
  | cons c rest ih =>
      rw [useCalls, useSites]
      by_cases hdot : c = '.'
      · simp only [hdot, if_true]
        cases hinner : behindUse? rest with
        | none => exact ih _
        | some inner =>
            simp only
            cases hgiven : argumentsAt (seen.length + 1 + (rest.length - inner.length)) inner with
            | error fault =>
                by_cases hreceiver : isReceiver receiver seen = true
                · simp [hreceiver, Except.map, ih]
                · simp [hreceiver, ih]
            | ok given =>
                cases hmount : mountOf? basePath given with
                | none =>
                    by_cases hreceiver : isReceiver receiver seen = true
                    · simp [hreceiver, Except.map, hmount, ih]
                    · simp [hreceiver, hmount, ih]
                | some mount =>
                    -- the call is kept by the scan exactly when its receiver is the one asked for
                    by_cases hreceiver : isReceiver receiver seen = true
                    · have hcounts := hreceiver
                      rw [isReceiver_eq receiver seen mount] at hcounts
                      simp [hreceiver, Except.map, hmount, hcounts, ih]
                    · have hcounts := hreceiver
                      rw [isReceiver_eq receiver seen mount] at hcounts
                      simp [hreceiver, hmount, hcounts, ih]
      · simp only [hdot, if_false]
        exact ih _

/-- **The mounts of a text are its calls on the receiver asked for.** -/
theorem mounts_eq_useSites (code basePath : Text) (receiver : Option Text) :
    (mounts code basePath receiver).mounts =
      ((useSites basePath [] code).filter (Site.counts receiver)).map Site.mount :=
  useCalls_eq_useSites basePath receiver [] code

theorem mem_mounts_none {code basePath : Text} {mount : Mount} :
    mount ∈ (mounts code basePath none).mounts ↔
      ∃ site ∈ useSites basePath [] code, site.mount = mount := by
  rw [mounts_eq_useSites]
  simp [Site.counts]

/-- The mounts of a main file on the application: those that stand on no router defined in it. -/
def applicationMounts (basePath code : Text) : List Mount :=
  ((useSites basePath [] code).filter fun site => ¬ site.OnRouter code).map Site.mount

theorem mounts_eq_applicationMounts_iff {code basePath : Text} :
    (mounts code basePath none).mounts = applicationMounts basePath code ↔
      ∀ site ∈ useSites basePath [] code, ¬ site.OnRouter code := by
  have hall : (useSites basePath [] code).filter (Site.counts none) = useSites basePath [] code :=
    List.filter_eq_self.2 fun _ _ => rfl
  rw [mounts_eq_useSites, hall, applicationMounts]
  constructor
  · intro heq site hsite
    -- a call on a router would be missing among the mounts on the application
    have hlength := congrArg List.length heq
    rw [List.length_map, List.length_map, eq_comm, List.length_filter_eq_length_iff] at hlength
    exact of_decide_eq_true (hlength site hsite)
  · intro hoff
    rw [List.filter_eq_self.2 fun site hsite => decide_eq_true (hoff site hsite)]

end RouteAtlas.Router

namespace RouteAtlas.Generator

open Text Route Router Middleware Api Schema Step

/-- Chains of mounts: from a mount in a file, a run comes to the router at the end. `names` holds the
routers being expanded, which are not entered again. -/
inductive Reaches (reader : Reader) (schemaSuffix : Text) :
    Mount → Path → List Text → List Mount → Declaration → Prop where
  | here {mount : Mount} {file : Path} {names : List Text} {declaration : Declaration} :
      located reader schemaSuffix mount.router file = .ok declaration →
      Reaches reader schemaSuffix mount file names [mount] declaration
  | through {mount inner : Mount} {file : Path} {names : List Text} {declaration target : Declaration}
      {passed : List Mount} :
      located reader schemaSuffix mount.router file = .ok declaration →
      inner ∈ openMounts declaration (names ++ [declaration.name]) →
      Reaches reader schemaSuffix inner declaration.file (names ++ [declaration.name]) passed target →
      Reaches reader schemaSuffix mount file names (mount :: passed) target

/-- A chain of mounts that starts with a mount of the main file leads to a well-formed route with a
key: the mounts passed, nested, are the mount of the route. -/
def Documents (context : Context) (file : Path) (mount : Mount) (key : String × String) : Prop :=
  ∃ passed declaration token,
    Reaches context.reader context.schemaSuffix.toList mount file [] passed declaration ∧
      token ∈ (tokens declaration.span (some declaration.name)).tokens ∧
      recordCheck context.setup (mountUnder passed) token = .ok () ∧
      routeKey? (mountUnder passed) token = some key

/-! ## Visits and chains -/

theorem mem_gather {below : Mount → Except Failure (List Visit)} {list : List Mount}
    {visits : List Visit} (h : gather below list = .ok visits) {visit : Visit} :
    visit ∈ visits ↔ ∃ mount ∈ list, ∃ first, below mount = .ok first ∧ visit ∈ first := by
  induction list generalizing visits with
  | nil =>
      cases h
      simp
  | cons mount rest ih =>
      obtain ⟨first, others, hfirst, hothers, rfl⟩ := gather_cons_eq_ok h
      simp [hfirst, ih hothers]

/-- Every mount that visits are gathered below has its visits. -/
theorem exists_of_gather {below : Mount → Except Failure (List Visit)} {list : List Mount}
    {visits : List Visit} (h : gather below list = .ok visits) {mount : Mount} (hmount : mount ∈ list) :
    ∃ first, below mount = .ok first := by
  induction list generalizing visits with
  | nil => cases hmount
  | cons head rest ih =>
      obtain ⟨first, others, hfirst, hothers, rfl⟩ := gather_cons_eq_ok h
      rcases List.mem_cons.1 hmount with rfl | hrest
      · exact ⟨first, hfirst⟩
      · exact ih hothers hrest

/-- **The visits of a router are the route calls at the ends of its chains.** -/
theorem mem_routerVisits {reader : Reader} {schemaSuffix : Text} {depth : Nat} {outer : List Mount}
    {mount : Mount} {file : Path} {names : List Text} {visits : List Visit}
    (h : routerVisits reader schemaSuffix depth outer mount file names = .ok visits) {visit : Visit} :
    visit ∈ visits ↔ ∃ passed declaration token,
      Reaches reader schemaSuffix mount file names passed declaration ∧
        token ∈ (tokens declaration.span (some declaration.name)).tokens ∧
        visit = { passed := outer ++ passed, declaration := declaration, token := token } := by
  -- the chain grows at its front, by the mount that the recursion passes
  induction depth generalizing outer mount file names visits visit with
  | zero => cases h
  | succ depth ih =>
      rw [routerVisits] at h
      cases hlocated : located reader schemaSuffix mount.router file with
      | error failure =>
          have hnone : visits = [] := by
            rw [hlocated] at h
            cases failure with
            | unlocated _ _ => exact (Except.ok.inj h).symm
            | _ => cases h
          subst hnone
          constructor
          · intro hmem
            cases hmem
          · rintro ⟨passed, declaration, token, hreaches, -, -⟩
            cases hreaches with
            | here hok => cases hlocated.symm.trans hok
            | through hok _ _ => cases hlocated.symm.trans hok
      | ok declaration =>
          rw [hlocated] at h
          simp only [bind_eq_ok, pure, Except.pure, Except.ok.injEq] at h
          obtain ⟨inner, hinner, rfl⟩ := h
          rw [List.mem_append]
          constructor
          · rintro (hown | hbelow)
            · obtain ⟨token, htoken, rfl⟩ := List.mem_map.1 hown
              exact ⟨[mount], declaration, token, .here hlocated, htoken, rfl⟩
            · obtain ⟨next, hnext, first, hfirst, hvisit⟩ := (mem_gather hinner).1 hbelow
              obtain ⟨passed, target, token, hreaches, htoken, rfl⟩ := (ih hfirst).1 hvisit
              refine ⟨mount :: passed, target, token, .through hlocated hnext hreaches, htoken, ?_⟩
              rw [List.append_assoc, List.singleton_append]
          · rintro ⟨passed, target, token, hreaches, htoken, rfl⟩
            cases hreaches with
            | here hok =>
                cases hlocated.symm.trans hok
                exact .inl (List.mem_map.2 ⟨token, htoken, rfl⟩)
            | through hok hnext hreaches =>
                cases hlocated.symm.trans hok
                obtain ⟨first, hfirst⟩ := exists_of_gather hinner hnext
                refine .inr ((mem_gather hinner).2 ⟨_, hnext, first, hfirst, (ih hfirst).2 ?_⟩)
                refine ⟨_, target, token, hreaches, htoken, ?_⟩
                rw [List.append_assoc, List.singleton_append]

theorem gather_eq_ok {below : Mount → Except Failure (List Visit)} {given : Mount → List Visit}
    {list : List Mount} (h : ∀ mount ∈ list, below mount = .ok (given mount)) :
    gather below list = .ok (list.flatMap given) := by
  induction list with
  | nil => rfl
  | cons mount rest ih =>
      exact gather_cons (h mount List.mem_cons_self)
        (ih fun other hother => h other (List.mem_cons_of_mem _ hother))

/-- **A run succeeds if the visits below each mount of its main file are known and none ends it.** -/
theorem exists_yields_generate {context : Context} {depth : Nat} {file : Path} {basePath : String}
    {schemes : List SecurityScheme} {code : Text} (hcode : textOf context.reader file = .ok code)
    (hroots : ∀ mount ∈ (mounts code basePath.toList none).mounts, ∃ visits,
      routerVisits context.reader context.schemaSuffix.toList depth [] mount file [] = .ok visits ∧
        ∀ visit ∈ visits, visit.Passes context) :
    ∃ document stop, Yields (generate context depth file basePath schemes) {} document stop := by
  have hgiven : ∀ mount ∈ (mounts code basePath.toList none).mounts,
      routerVisits context.reader context.schemaSuffix.toList depth [] mount file [] =
        .ok ((routerVisits context.reader context.schemaSuffix.toList depth [] mount file
          []).toOption.getD []) := by
    intro mount hmount
    obtain ⟨visits, hvisits, -⟩ := hroots mount hmount
    rw [hvisits]
    rfl
  refine yields_generate (faithful_empty _) hcode (gather_eq_ok hgiven) fun visit hvisit => ?_
  obtain ⟨mount, hmount, hmem⟩ := List.mem_flatMap.1 hvisit
  obtain ⟨visits, hvisits, hpasses⟩ := hroots mount hmount
  rw [hvisits] at hmem
  exact hpasses visit hmem

/-- What is documented from a mount, by its visits. -/
theorem documents_iff {context : Context} {depth : Nat} {file : Path} {mount : Mount}
    {visits : List Visit}
    (h : routerVisits context.reader context.schemaSuffix.toList depth [] mount file [] = .ok visits)
    {key : String × String} :
    Documents context file mount key ↔ ∃ visit ∈ visits, visit.check context.setup = .ok () ∧
      routeKey? visit.mount visit.token = some key := by
  constructor
  · rintro ⟨passed, declaration, token, hreaches, htoken, hcheck, hkey⟩
    exact ⟨_, (mem_routerVisits h).2 ⟨passed, declaration, token, hreaches, htoken, rfl⟩, hcheck, hkey⟩
  · rintro ⟨visit, hvisit, hcheck, hkey⟩
    obtain ⟨passed, declaration, token, hreaches, htoken, rfl⟩ := (mem_routerVisits h).1 hvisit
    exact ⟨passed, declaration, token, hreaches, htoken, hcheck, hkey⟩

/-- The keys that following visits brings into a document are those of the well-formed routes. -/
theorem Followed.mem_keys {context : Context} {visits : List Visit} {before after : Document}
    (h : Followed context visits before after) {key : String × String} :
    key ∈ after.endpoints.keys ↔ key ∈ before.endpoints.keys ∨
      ∃ visit ∈ visits, visit.check context.setup = .ok () ∧
        routeKey? visit.mount visit.token = some key := by
  induction h with
  | nil document => simp
  | @register visit rest before after record start stop hrecord hrest ih =>
      obtain ⟨-, -, hbears⟩ := sees_recordOf context visit.declaration visit.tag visit.mount
        visit.token start
      have hresult : result (recordOf context visit.declaration visit.tag visit.mount visit.token)
          start = (.ok record, stop) := hrecord
      rw [hresult] at hbears
      have hcheck : visit.check context.setup = .ok () := hbears
      have hkey : routeKey? visit.mount visit.token = some record.key := key_of_recordOf hrecord
      have hput : key ∈ (before.register record).endpoints.keys ↔
          key ∈ before.endpoints.keys ∨ record.key = key := by
        rw [Document.register, Table.keys_put]
        split
        · rename_i hold
          constructor
          · exact .inl
          · rintro (hmem | rfl)
            · exact hmem
            · exact hold
        · simp [eq_comm]
      rw [ih, hput]
      simp [hcheck, hkey, or_assoc]
  | @skip visit rest before after fault hcheck hrest ih =>
      rw [ih]
      simp [hcheck]

theorem endpoints_registerSchemes (schemes : List SecurityScheme) (document : Document) :
    (schemes.foldl Document.registerScheme document).endpoints = document.endpoints := by
  induction schemes generalizing document with
  | nil => rfl
  | cons scheme rest ih => exact ih _

/-- **The endpoints of a run** are those documented from the mounts of the main file. -/
theorem mem_keys_of_generate {context : Context} {depth : Nat} {file : Path} {basePath : String}
    {schemes : List SecurityScheme} {code : Text} {document : Document} {stop : Session}
    (hcode : textOf context.reader file = .ok code)
    (h : Yields (generate context depth file basePath schemes) {} document stop)
    (key : String × String) :
    key ∈ document.endpoints.keys ↔
      ∃ mount ∈ (mounts code basePath.toList none).mounts, Documents context file mount key := by
  obtain ⟨code', visits, hcode', hvisits, hfollowed⟩ := generate_cases (faithful_empty _) h
  cases hcode.symm.trans hcode'
  have hempty : key ∉ (schemes.foldl Document.registerScheme ({} : Session).document).endpoints.keys := by
    rw [endpoints_registerSchemes]
    exact List.not_mem_nil
  rw [hfollowed.mem_keys]
  constructor
  · rintro (hmem | ⟨visit, hvisit, hcheck, hkey⟩)
    · exact absurd hmem hempty
    · obtain ⟨mount, hmount, first, hfirst, hmem⟩ := (mem_gather hvisits).1 hvisit
      exact ⟨mount, hmount, (documents_iff hfirst).2 ⟨visit, hmem, hcheck, hkey⟩⟩
  · rintro ⟨mount, hmount, hdocuments⟩
    obtain ⟨first, hfirst⟩ := exists_of_gather hvisits hmount
    obtain ⟨visit, hmem, hcheck, hkey⟩ := (documents_iff hfirst).1 hdocuments
    exact .inr ⟨visit, (mem_gather hvisits).2 ⟨mount, hmount, first, hfirst, hmem⟩, hcheck, hkey⟩

/-! ## Endpoints and the application -/

/-- A key is documented from a `use` call of the main file that stands on no router defined there. -/
def DocumentedByApplication (context : Context) (file : Path) (basePath code : Text)
    (key : String × String) : Prop :=
  ∃ site ∈ useSites basePath [] code, ¬ site.OnRouter code ∧ Documents context file site.mount key

/-- A key is documented from a `use` call of the main file on a router defined there. -/
def DocumentedByRouter (context : Context) (file : Path) (basePath code : Text)
    (key : String × String) : Prop :=
  ∃ site ∈ useSites basePath [] code, site.OnRouter code ∧ Documents context file site.mount key

/-- **Where endpoints start.** The mounts of a main file are those on the application exactly if no call
that mounts a router stands on a router defined there. A run registers what is documented from the
application and what is documented from the routers of its main file: an endpoint has no chain of mounts
that starts on the application exactly if nothing but calls on these routers documents it. -/
theorem rooted_iff {context : Context} {depth : Nat} {file : Path} {basePath : String}
    {schemes : List SecurityScheme} {code : Text} {document : Document} {stop : Session}
    (hcode : textOf context.reader file = .ok code)
    (h : Yields (generate context depth file basePath schemes) {} document stop) :
    ((mounts code basePath.toList none).mounts = applicationMounts basePath.toList code ↔
      ∀ site ∈ useSites basePath.toList [] code, ¬ site.OnRouter code) ∧
    ∀ key, key ∈ document.endpoints.keys ↔
      DocumentedByApplication context file basePath.toList code key ∨
        DocumentedByRouter context file basePath.toList code key := by
  refine ⟨mounts_eq_applicationMounts_iff, fun key => ?_⟩
  rw [mem_keys_of_generate hcode h key]
  constructor
  · rintro ⟨mount, hmount, hdocuments⟩
    obtain ⟨site, hsite, rfl⟩ := mem_mounts_none.1 hmount
    by_cases hrouter : site.OnRouter code
    · exact .inr ⟨site, hsite, hrouter, hdocuments⟩
    · exact .inl ⟨site, hsite, hrouter, hdocuments⟩
  · rintro (⟨site, hsite, -, hdocuments⟩ | ⟨site, hsite, -, hdocuments⟩)
    · exact ⟨site.mount, mem_mounts_none.2 ⟨site, hsite, rfl⟩, hdocuments⟩
    · exact ⟨site.mount, mem_mounts_none.2 ⟨site, hsite, rfl⟩, hdocuments⟩

/-! ## A router mounted on another one in the main file -/

/-- A main file that mounts a router on another one, which is mounted on the application. -/
def reportsMain : Text :=
  ("const admin = new Router();\n" ++
    "admin.use('/reports', reports.routes());\n" ++
    "const reports = new Router();\n" ++
    "reports.get('/daily', daily);\n" ++
    "app.use('/admin', admin.routes());\n").toList

/-- A run over the main file alone. -/
def reportsContext : Context where
  reader := fun path =>
    if path = Path.ofString "main.ts" then .ok reportsMain else .error (.disk (.missing path))
  provider := tableProvider []

theorem textOf_reportsMain :
    textOf reportsContext.reader (Path.ofString "main.ts") = .ok reportsMain := rfl

/-- The visits below a mount of the main file. -/
def reportsVisits (mount : Mount) : Except Failure (List Visit) :=
  routerVisits reportsContext.reader reportsContext.schemaSuffix.toList 3 [] mount
    (Path.ofString "main.ts") []

/-- A visited route without a note whose chain is a handler alone. -/
def Visit.HandledBy (handler : Text) (visit : Visit) : Prop :=
  visit.token.note = none ∧
    (endpoint visit.token.verb.name.toList visit.token.arguments visit.mount).map Endpoint.chain =
      .ok (chainOf [handler])

instance (handler : Text) (visit : Visit) : Decidable (visit.HandledBy handler) :=
  inferInstanceAs (Decidable (_ ∧ _))

theorem Visit.HandledBy.passes {context : Context} (hsetup : context.setup = {}) {handler : Text}
    (hhandler : IsHandler handler) {visit : Visit} (h : visit.HandledBy handler) :
    visit.Passes context := by
  obtain ⟨hnote, hchain⟩ := h
  cases hendpoint : endpoint visit.token.verb.name.toList visit.token.arguments visit.mount with
  | error fault =>
      rw [hendpoint] at hchain
      cases hchain
  | ok found =>
      rcases found with ⟨path, chain⟩
      rw [hendpoint] at hchain
      cases hchain
      exact Visit.passes_of_record (hhandler.recordOf_eq hsetup _ _ hendpoint hnote)

/-- The routes of the main file have a plain handler, and the calls on its routers are the ones that
document the reports without a prefix. -/
theorem reportsVisits_spec : ∀ site ∈ useSites [] [] reportsMain,
    ∃ visits ∈ (reportsVisits site.mount).toOption.toList,
      (∀ visit ∈ visits, visit.HandledBy "daily".toList) ∧
      (site.OnRouter reportsMain ↔ ∃ visit ∈ visits, visit.check reportsContext.setup = .ok () ∧
        routeKey? visit.mount visit.token = some ("get", "/reports/daily")) := by
  -- the text is read character by character only once
  unfold reportsVisits reportsContext reportsMain
  simp only [String.toList_append]
  repeat rw [String.toList_ofList]
  decide +kernel

theorem exists_reportsVisits {site : Site} (hsite : site ∈ useSites [] [] reportsMain) :
    ∃ visits, reportsVisits site.mount = .ok visits ∧
      (∀ visit ∈ visits, visit.HandledBy "daily".toList) ∧
      (site.OnRouter reportsMain ↔
        Documents reportsContext (Path.ofString "main.ts") site.mount ("get", "/reports/daily")) := by
  obtain ⟨visits, hmem, hhandled, hrouter⟩ := reportsVisits_spec site hsite
  have hvisits : reportsVisits site.mount = .ok visits := eq_ok_of_mem_toOption hmem
  exact ⟨visits, hvisits, hhandled, hrouter.trans (documents_iff hvisits).symm⟩

theorem reportsContext_succeeds : ∃ document stop,
    Yields (generate reportsContext 3 (Path.ofString "main.ts") "" []) {} document stop := by
  refine exists_yields_generate textOf_reportsMain fun mount hmount => ?_
  obtain ⟨site, hsite, rfl⟩ := mem_mounts_none.1 hmount
  obtain ⟨visits, hvisits, hhandled, -⟩ := exists_reportsVisits hsite
  exact ⟨visits, hvisits, fun visit hvisit => (hhandled visit hvisit).passes rfl (by decide +kernel)⟩

theorem reportsMain_onRouter : ∃ site ∈ useSites [] [] reportsMain, site.OnRouter reportsMain := by
  unfold reportsMain
  simp only [String.toList_append]
  repeat rw [String.toList_ofList]
  decide +kernel

/-- The run succeeds over a main file with a mount that is not on the application. -/
theorem reportsMain_rooted_iff : ∃ document stop,
    Yields (generate reportsContext 3 (Path.ofString "main.ts") "" []) {} document stop ∧
      (mounts reportsMain [] none).mounts ≠ applicationMounts [] reportsMain ∧
      ∀ key, key ∈ document.endpoints.keys ↔
        DocumentedByApplication reportsContext (Path.ofString "main.ts") [] reportsMain key ∨
          DocumentedByRouter reportsContext (Path.ofString "main.ts") [] reportsMain key := by
  obtain ⟨document, stop, h⟩ := reportsContext_succeeds
  obtain ⟨hmounts, hkeys⟩ := rooted_iff textOf_reportsMain h
  obtain ⟨site, hsite, hon⟩ := reportsMain_onRouter
  exact ⟨document, stop, h, fun heq => hmounts.1 heq site hsite hon, hkeys⟩

/-- The router mounted on another one is also documented without the prefix of that router, which no
mount on the application accounts for. -/
theorem reportsMain_unrooted : ∃ document stop,
    Yields (generate reportsContext 3 (Path.ofString "main.ts") "" []) {} document stop ∧
      ("get", "/reports/daily") ∈ document.endpoints.keys ∧
      ¬ DocumentedByApplication reportsContext (Path.ofString "main.ts") [] reportsMain
        ("get", "/reports/daily") := by
  obtain ⟨document, stop, h⟩ := reportsContext_succeeds
  refine ⟨document, stop, h, ?_, ?_⟩
  · obtain ⟨site, hsite, hon⟩ := reportsMain_onRouter
    obtain ⟨-, -, -, hdocuments⟩ := exists_reportsVisits hsite
    rw [mem_keys_of_generate textOf_reportsMain h]
    exact ⟨site.mount, mem_mounts_none.2 ⟨site, hsite, rfl⟩, hdocuments.1 hon⟩
  · rintro ⟨site, hsite, hoff, hkey⟩
    obtain ⟨-, -, -, hdocuments⟩ := exists_reportsVisits hsite
    exact hoff (hdocuments.2 hkey)

end RouteAtlas.Generator
