import RouteAtlas.Proofs.Middleware.Checking
import RouteAtlas.Proofs.Router.Locating

/-!
# The routes that a run comes to

Which routers a run enters, and by which mounts, depends on the reader alone. `routerVisits` lists the
route calls of a router and of everything mounted on it in the order in which a run takes them, each
with the mounts passed on the way. `Followed` relates such a list to what it does to a document: a
well-formed route is registered and a malformed one is passed over. A run that succeeds has followed
its visits (`generate_cases`), and a run whose visits are known and do not end it succeeds
(`yields_generate`).
-/

set_option autoImplicit false

namespace RouteAtlas.Generator

open Text Route Router Middleware Api Schema Step

/-- The mount of a router reached by some mounts, outermost first. -/
def mountUnder (passed : List Mount) : Text :=
  passed.foldl (fun mount inner => nestMount mount inner.path) []

theorem mountUnder_append (outer : List Mount) (mount : Mount) :
    mountUnder (outer ++ [mount]) = nestMount (mountUnder outer) mount.path := by
  rw [mountUnder, List.foldl_append]
  rfl

/-- A route call that a run comes to: the mounts passed, the router and the call. -/
structure Visit where
  passed : List Mount
  declaration : Declaration
  token : Token
  deriving DecidableEq, Repr, Inhabited

/-- The name by which the router was mounted last. -/
def Visit.tag (visit : Visit) : Text := (visit.passed.getLast?.map Mount.router).getD []

/-- The mount below which the route stands. -/
def Visit.mount (visit : Visit) : Text := mountUnder visit.passed

/-- The record of a visited route. -/
def Visit.record (context : Context) (visit : Visit) : Run Record :=
  recordOf context visit.declaration visit.tag visit.mount visit.token

/-- The check of a visited route. -/
def Visit.check (setup : Setup) (visit : Visit) : Except Source.Fault Unit :=
  recordCheck setup visit.mount visit.token

/-- The visits of the route calls of a router. -/
def ownVisits (passed : List Mount) (declaration : Declaration) : List Visit :=
  (tokens declaration.span (some declaration.name)).tokens.map fun token =>
    { passed := passed, declaration := declaration, token := token }

/-- The mounts on a router that are followed: those of routers that are not being expanded. -/
def openMounts (declaration : Declaration) (names : List Text) : List Mount :=
  (mounts declaration.span [] (some declaration.name)).mounts.filter fun inner =>
    !names.contains inner.router

/-- The visits below each of some mounts, in order. -/
def gather (below : Mount → Except Failure (List Visit)) : List Mount → Except Failure (List Visit)
  | [] => .ok []
  | mount :: rest => do
      let first ← below mount
      let others ← gather below rest
      pure (first ++ others)

/-- The visits of a router mounted in a file and of everything mounted on it. `outer` holds the mounts
passed before and `names` the routers being expanded. -/
def routerVisits (reader : Reader) (schemaSuffix : Text) :
    Nat → List Mount → Mount → Path → List Text → Except Failure (List Visit)
  | 0, _, _, _, _ => .error .tooDeep
  | depth + 1, outer, mount, file, names =>
      match located reader schemaSuffix mount.router file with
      | .error (.unlocated _ _) => .ok []
      | .error failure => .error failure
      | .ok declaration => do
          let inner ← gather
            (fun inner => routerVisits reader schemaSuffix depth (outer ++ [mount]) inner
              declaration.file (names ++ [declaration.name]))
            (openMounts declaration (names ++ [declaration.name]))
          pure (ownVisits (outer ++ [mount]) declaration ++ inner)

/-- Following visits takes one document to another: well-formed routes are registered and malformed
ones are passed over. -/
inductive Followed (context : Context) : List Visit → Document → Document → Prop where
  | nil (document : Document) : Followed context [] document document
  | register {visit : Visit} {rest : List Visit} {before after : Document} {record : Record}
      {start stop : Session} : Yields (visit.record context) start record stop →
      Followed context rest (before.register record) after → Followed context (visit :: rest) before after
  | skip {visit : Visit} {rest : List Visit} {before after : Document} {fault : Source.Fault} :
      visit.check context.setup = .error fault → Followed context rest before after →
      Followed context (visit :: rest) before after

theorem Followed.append {context : Context} {visits others : List Visit}
    {before middle after : Document} (h : Followed context visits before middle)
    (h' : Followed context others middle after) : Followed context (visits ++ others) before after := by
  induction h with
  | nil _ => exact h'
  | register hrecord _ ih => exact .register hrecord (ih h')
  | skip hcheck _ ih => exact .skip hcheck (ih h')

/-! ## Single routers -/

theorem yields_attempt {α : Type} {step : Run α} {start stop : Session} {outcome : Except Failure α} :
    Yields step.attempt start outcome stop ↔ result step start = (outcome, stop) := by
  show ((Except.ok (result step start).1 : Except Failure (Except Failure α)),
    (result step start).2) = _ ↔ _
  rw [Prod.mk.injEq, Except.ok.injEq, ← Prod.mk.injEq]

theorem faithful_of_texts {reader : Reader} {session other : Session}
    (h : Router.Faithful reader session) (htexts : other.texts = session.texts) :
    Router.Faithful reader other := by
  intro path text hget
  rw [htexts] at hget
  exact h path text hget

/-- Registering a record changes the document and the events alone. -/
theorem yields_register {record : Record} {start stop : Session}
    (h : Yields (register record) start () stop) :
    stop.texts = start.texts ∧ stop.document = start.document.register record := by
  cases h
  exact ⟨rfl, rfl⟩

section

variable {context : Context} {start stop : Session}

/-- One route call of a router: it is registered or passed over, and the others follow. -/
theorem visitRoutes_cons {declaration : Declaration} {tag mount : Text} {token : Token}
    {rest : List Token}
    (h : Yields (visitRoutes context declaration tag mount (token :: rest)) start () stop) :
    ∃ middle, middle.texts = start.texts ∧
      ((∃ record after, Yields (recordOf context declaration tag mount token) start record after ∧
          middle.document = start.document.register record) ∨
        ∃ fault, recordCheck context.setup mount token = .error fault ∧
          middle.document = start.document) ∧
      Yields (visitRoutes context declaration tag mount rest) middle () stop := by
  rw [visitRoutes] at h
  obtain ⟨outcome, after, hattempt, hnext⟩ := yields_bind.1 h
  have hresult := yields_attempt.1 hattempt
  obtain ⟨htexts, hdocument, hbears⟩ :=
    sees_recordOf context declaration tag mount token start
  simp only [final, hresult] at htexts hdocument hbears
  cases outcome with
  | ok record =>
      obtain ⟨_, middle, hregister, hrest⟩ := yields_bind.1 hnext
      obtain ⟨hkept, hregistered⟩ := yields_register hregister
      refine ⟨middle, hkept.trans htexts, .inl ⟨record, after, hresult, ?_⟩, hrest⟩
      rw [hregistered, hdocument]
  | error failure =>
      cases failure with
      | structural fault =>
          obtain ⟨_, middle, hreport, hrest⟩ := yields_bind.1 hnext
          cases hreport
          refine ⟨_, ?_, .inr ⟨fault, hbears, ?_⟩, hrest⟩
          · exact htexts
          · exact hdocument
      | _ =>
          -- any other failure ends the run
          obtain ⟨_, _, hthrow, -⟩ := yields_bind.1 hnext
          exact absurd hthrow not_yields_throw

/-- The route calls of a router have been followed. -/
theorem followed_of_visitRoutes {passed : List Mount} {declaration : Declaration} {mount : Mount}
    {calls : List Token}
    (h : Yields (visitRoutes context declaration mount.router (mountUnder (passed ++ [mount])) calls)
      start () stop) :
    stop.texts = start.texts ∧
      Followed context (calls.map fun token =>
        { passed := passed ++ [mount], declaration := declaration, token := token })
        start.document stop.document := by
  induction calls generalizing start with
  | nil =>
      cases h
      exact ⟨rfl, .nil _⟩
  | cons token rest ih =>
      obtain ⟨middle, htexts, hcase, hrest⟩ := visitRoutes_cons h
      obtain ⟨hkept, hfollowed⟩ := ih hrest
      refine ⟨hkept.trans htexts, ?_⟩
      -- the routes of a router are tagged with the name it is mounted by
      have htag : Visit.tag { passed := passed ++ [mount], declaration := declaration, token := token } =
          mount.router := by simp [Visit.tag]
      rcases hcase with ⟨record, after, hrecord, hdocument⟩ | ⟨fault, hcheck, hdocument⟩
      · rw [hdocument] at hfollowed
        have hvisit : Yields (Visit.record context
            { passed := passed ++ [mount], declaration := declaration, token := token })
            start record after := by
          rw [Visit.record, htag]
          exact hrecord
        exact .register hvisit hfollowed
      · rw [hdocument] at hfollowed
        exact .skip hcheck hfollowed

/-! ## The steps of a run -/

/-- **The steps of a router**: it is located, and passed over where that fails. One that is located is
reported; its route calls are taken, and then the mounts on it. -/
theorem yields_visitRouter {depth : Nat} {name mount : Text} {file : Path} {names : List Text} :
    Yields (visitRouter context (depth + 1) name mount file names) start () stop ↔
      (∃ router target s₁,
        Yields (locate context.reader context.schemaSuffix.toList name file).attempt start
          (.error (.unlocated router target)) s₁ ∧
        Yields (Run.report (.routerSkipped router target)) s₁ () stop) ∨
      ∃ declaration s₁ s₂ s₃ s₄ s₅,
        Yields (locate context.reader context.schemaSuffix.toList name file).attempt start
          (.ok declaration) s₁ ∧
        Yields (Run.report (.routerMounted name mount declaration.file)) s₁ () s₂ ∧
        Yields (Run.reportAll
          ((tokens declaration.span (some declaration.name)).halt.map Event.halted).toList) s₂ () s₃ ∧
        Yields (visitRoutes context declaration name mount
          (tokens declaration.span (some declaration.name)).tokens) s₃ () s₄ ∧
        Yields (Run.reportAll ((mounts declaration.span [] (some declaration.name)).faults.map
          Event.malformedMount)) s₄ () s₅ ∧
        Yields (visitMounts context depth mount declaration.file (names ++ [declaration.name])
          (mounts declaration.span [] (some declaration.name)).mounts) s₅ () stop := by
  rw [visitRouter]
  constructor
  · intro h
    obtain ⟨outcome, s₁, hattempt, hnext⟩ := yields_bind.1 h
    cases outcome with
    | error failure =>
        cases failure with
        | unlocated router target => exact .inl ⟨router, target, s₁, hattempt, hnext⟩
        | _ => exact absurd hnext not_yields_throw
    | ok declaration =>
        obtain ⟨_, s₂, hmounted, hnext⟩ := yields_bind.1 hnext
        obtain ⟨_, s₃, hhalted, hnext⟩ := yields_bind.1 hnext
        obtain ⟨_, s₄, hroutes, hnext⟩ := yields_bind.1 hnext
        obtain ⟨_, s₅, hmalformed, hmounts⟩ := yields_bind.1 hnext
        exact .inr ⟨declaration, s₁, s₂, s₃, s₄, s₅, hattempt, hmounted, hhalted, hroutes, hmalformed,
          hmounts⟩
  · rintro (⟨router, target, s₁, hattempt, hreport⟩ |
      ⟨declaration, s₁, s₂, s₃, s₄, s₅, hattempt, hmounted, hhalted, hroutes, hmalformed, hmounts⟩)
    · exact yields_bind.2 ⟨_, s₁, hattempt, hreport⟩
    · exact yields_bind.2 ⟨_, s₁, hattempt, yields_bind.2 ⟨(), s₂, hmounted,
        yields_bind.2 ⟨(), s₃, hhalted, yields_bind.2 ⟨(), s₄, hroutes,
        yields_bind.2 ⟨(), s₅, hmalformed, hmounts⟩⟩⟩⟩⟩

/-- **One mount on a router**: its router is entered, or reported if it is being expanded, and the other
mounts follow. -/
theorem yields_visitMounts_cons {depth : Nat} {mount : Text} {file : Path} {names : List Text}
    {inner : Mount} {rest : List Mount} :
    Yields (visitMounts context depth mount file names (inner :: rest)) start () stop ↔
      ∃ middle,
        (names.contains inner.router = true ∧
            Yields (Run.report (.cyclicMount inner.router names)) start () middle ∨
          ¬ names.contains inner.router = true ∧
            Yields (visitRouter context depth inner.router (nestMount mount inner.path) file names)
              start () middle) ∧
        Yields (visitMounts context depth mount file names rest) middle () stop := by
  rw [visitMounts]
  by_cases hcyclic : names.contains inner.router = true
  · rw [if_pos hcyclic]
    refine ⟨fun h => ?_, ?_⟩
    · obtain ⟨_, middle, hreport, hrest⟩ := yields_bind.1 h
      exact ⟨middle, .inl ⟨hcyclic, hreport⟩, hrest⟩
    · rintro ⟨middle, ⟨-, hreport⟩ | ⟨hfresh, -⟩, hrest⟩
      · exact yields_bind.2 ⟨(), middle, hreport, hrest⟩
      · exact absurd hcyclic hfresh
  · rw [if_neg hcyclic]
    refine ⟨fun h => ?_, ?_⟩
    · obtain ⟨_, middle, hrouter, hrest⟩ := yields_bind.1 h
      exact ⟨middle, .inr ⟨hcyclic, hrouter⟩, hrest⟩
    · rintro ⟨middle, ⟨hknown, -⟩ | ⟨-, hrouter⟩, hrest⟩
      · exact absurd hknown hcyclic
      · exact yields_bind.2 ⟨(), middle, hrouter, hrest⟩

/-- **The steps of a run**: the schemes are registered and the main file is read; that it mounts nothing
is reported; then what it mounts is taken. -/
theorem yields_generate_iff {depth : Nat} {file : Path} {basePath : String}
    {schemes : List SecurityScheme} {document : Document} :
    Yields (generate context depth file basePath schemes) start document stop ↔
      ∃ s₁ roots s₂ s₃, Yields (registerSchemes schemes) start () s₁ ∧
        Yields (rootMounts context file basePath) s₁ roots s₂ ∧
        Yields (if roots.isEmpty then Run.report (.noMounts file) else pure ()) s₂ () s₃ ∧
        Yields (visitRoots context depth file roots) s₃ () stop ∧ document = stop.document := by
  rw [generate]
  constructor
  · intro h
    obtain ⟨_, s₁, hschemes, hnext⟩ := yields_bind.1 h
    obtain ⟨roots, s₂, hroots, hnext⟩ := yields_bind.1 hnext
    obtain ⟨s₃, hreport, hnext⟩ : ∃ s₃,
        Yields (if roots.isEmpty then Run.report (.noMounts file) else pure ()) s₂ () s₃ ∧
        Yields (do
          visitRoots context depth file roots
          pure (← get).document) s₃ document stop := by
      by_cases hempty : roots.isEmpty = true
      · rw [if_pos hempty] at hnext ⊢
        obtain ⟨_, s₃, hreport, hnext⟩ := yields_bind.1 hnext
        exact ⟨s₃, hreport, hnext⟩
      · rw [if_neg hempty] at hnext ⊢
        exact ⟨s₂, rfl, hnext⟩
    obtain ⟨_, s₄, hvisits, hdocument⟩ := yields_bind.1 hnext
    cases hdocument
    exact ⟨s₁, roots, s₂, s₃, hschemes, hroots, hreport, hvisits, rfl⟩
  · rintro ⟨s₁, roots, s₂, s₃, hschemes, hroots, hreport, hvisits, rfl⟩
    refine yields_bind.2 ⟨(), s₁, hschemes, yields_bind.2 ⟨roots, s₂, hroots, ?_⟩⟩
    by_cases hempty : roots.isEmpty = true
    · rw [if_pos hempty] at hreport ⊢
      exact yields_bind.2 ⟨(), s₃, hreport, yields_bind.2 ⟨(), stop, hvisits, rfl⟩⟩
    · rw [if_neg hempty] at hreport ⊢
      obtain ⟨-, rfl⟩ := yields_pure.1 hreport
      exact yields_bind.2 ⟨(), stop, hvisits, rfl⟩

/-! ## Runs -/

theorem gather_cons {below : Mount → Except Failure (List Visit)} {mount : Mount} {rest : List Mount}
    {first others : List Visit} (hfirst : below mount = .ok first)
    (hothers : gather below rest = .ok others) :
    gather below (mount :: rest) = .ok (first ++ others) := by
  rw [gather, hfirst]
  simp only [bind, Except.bind, hothers]
  rfl

/-- What a router's own step does in a faithful session: nothing if it is not located; otherwise its
routes are taken and then the mounts on it. -/
theorem visitRouter_cases {depth : Nat} {name mount : Text} {file : Path} {names : List Text}
    (hfaithful : Router.Faithful context.reader start)
    (h : Yields (visitRouter context (depth + 1) name mount file names) start () stop) :
    (∃ router target, located context.reader context.schemaSuffix.toList name file =
        .error (.unlocated router target) ∧ Router.Faithful context.reader stop ∧
        stop.document = start.document) ∨
      ∃ declaration before after inner,
        located context.reader context.schemaSuffix.toList name file = .ok declaration ∧
        Router.Faithful context.reader before ∧ before.document = start.document ∧
        Yields (visitRoutes context declaration name mount
          (tokens declaration.span (some declaration.name)).tokens) before () after ∧
        inner.texts = after.texts ∧ inner.document = after.document ∧
        Yields (visitMounts context depth mount declaration.file (names ++ [declaration.name])
          (mounts declaration.span [] (some declaration.name)).mounts) inner () stop := by
  have hlocate : Answers context.reader
      (locate context.reader context.schemaSuffix.toList name file) _ := answers_locate _ _ _
  rcases yields_visitRouter.1 h with ⟨router, target, s₁, hattempt, hreport⟩ |
    ⟨declaration, s₁, s₂, s₃, s₄, s₅, hattempt, hmounted, hhalted, hroutes, hmalformed, hmounts⟩
  · obtain ⟨houtcome, hfaithful₁, hdocument₁⟩ := hlocate.attempt.of_yields hfaithful hattempt
    cases hreport
    exact .inl ⟨router, target, Except.ok.inj houtcome, hfaithful₁, hdocument₁⟩
  -- reporting leaves texts and document alone, so the routes start from the document of the start
  · obtain ⟨houtcome, hfaithful₁, hdocument₁⟩ := hlocate.attempt.of_yields hfaithful hattempt
    obtain ⟨-, hfaithful₂, hdocument₂⟩ := (answers_report _).of_yields hfaithful₁ hmounted
    obtain ⟨-, hfaithful₃, hdocument₃⟩ := (answers_reportAll _).of_yields hfaithful₂ hhalted
    obtain ⟨htexts, hdocument⟩ : s₅.texts = s₄.texts ∧ s₅.document = s₄.document := by
      cases hmalformed
      exact ⟨rfl, rfl⟩
    exact .inr ⟨declaration, s₃, s₄, s₅, Except.ok.inj houtcome, hfaithful₃,
      hdocument₃.trans (hdocument₂.trans hdocument₁), hroutes, htexts, hdocument, hmounts⟩

/-- Runs of a depth follow their visits. -/
def Traced (context : Context) (depth : Nat) : Prop :=
  ∀ (outer : List Mount) (mount : Mount) (file : Path) (names : List Text) (start stop : Session),
    Router.Faithful context.reader start →
    Yields (visitRouter context depth mount.router (mountUnder (outer ++ [mount])) file names)
      start () stop →
    ∃ visits, routerVisits context.reader context.schemaSuffix.toList depth outer mount file names =
        .ok visits ∧ Router.Faithful context.reader stop ∧
      Followed context visits start.document stop.document

/-- The mounts on a router are followed where the runs one level below are. -/
theorem followed_of_visitMounts {depth : Nat} (htraced : Traced context depth) {passed : List Mount}
    {file : Path} {names : List Text} {list : List Mount}
    (hfaithful : Router.Faithful context.reader start)
    (h : Yields (visitMounts context depth (mountUnder passed) file names list) start () stop) :
    ∃ visits, gather (fun inner => routerVisits context.reader context.schemaSuffix.toList depth
        passed inner file names) (list.filter fun inner => !names.contains inner.router) = .ok visits ∧
      Router.Faithful context.reader stop ∧
      Followed context visits start.document stop.document := by
  induction list generalizing start with
  | nil =>
      rw [visitMounts] at h
      cases h
      exact ⟨[], rfl, hfaithful, .nil _⟩
  | cons inner rest ih =>
      obtain ⟨middle, ⟨hcyclic, hreport⟩ | ⟨hfresh, hrouter⟩, hrest⟩ := yields_visitMounts_cons.1 h
      -- a router that is being expanded is reported and left out of the visits
      · obtain ⟨-, hfaithful', hdocument⟩ := (answers_report _).of_yields hfaithful hreport
        rw [List.filter_cons_of_neg (by rw [hcyclic]; decide), ← hdocument]
        exact ih hfaithful' hrest
      · rw [← mountUnder_append] at hrouter
        obtain ⟨first, hfirst, hfaithful', hfollowed⟩ :=
          htraced _ _ _ _ _ _ hfaithful hrouter
        obtain ⟨others, hothers, hlast, hfollowed'⟩ := ih hfaithful' hrest
        rw [List.filter_cons_of_pos (by simpa using hfresh)]
        exact ⟨first ++ others, gather_cons hfirst hothers, hlast, hfollowed.append hfollowed'⟩

/-- **A run that succeeds has followed its visits.** -/
theorem traced (context : Context) (depth : Nat) : Traced context depth := by
  -- the mounts on a router are runs of one level less, so the depth carries the recursion
  induction depth with
  | zero =>
      intro outer mount file names start stop _ h
      rw [visitRouter] at h
      exact absurd h not_yields_throw
  | succ depth ih =>
      intro outer mount file names start stop hfaithful h
      rw [routerVisits]
      rcases visitRouter_cases hfaithful h with ⟨router, target, hlocated, hlast, hdocument⟩ |
        ⟨declaration, before, after, inner, hlocated, hbefore, hdocument, hroutes, htexts, hsame, hrest⟩
      · refine ⟨[], ?_, hlast, hdocument ▸ .nil _⟩
        rw [hlocated]
      · obtain ⟨hkept, hown⟩ := followed_of_visitRoutes hroutes
        have hinner : Router.Faithful context.reader inner :=
          faithful_of_texts hbefore (htexts.trans hkept)
        obtain ⟨visits, hvisits, hlast, hfollowed⟩ := followed_of_visitMounts ih hinner hrest
        refine ⟨ownVisits (outer ++ [mount]) declaration ++ visits, ?_, hlast, ?_⟩
        · rw [hlocated]
          simp only [openMounts, hvisits, bind, Except.bind]
          rfl
        · rw [hdocument] at hown
          rw [hsame] at hfollowed
          exact hown.append hfollowed

theorem followed_of_visitRoots {depth : Nat} {file : Path} {roots : List Mount}
    (hfaithful : Router.Faithful context.reader start)
    (h : Yields (visitRoots context depth file roots) start () stop) :
    ∃ visits, gather (fun root => routerVisits context.reader context.schemaSuffix.toList depth
        [] root file []) roots = .ok visits ∧
      Followed context visits start.document stop.document := by
  induction roots generalizing start with
  | nil =>
      cases h
      exact ⟨[], rfl, .nil _⟩
  | cons root rest ih =>
      rw [visitRoots] at h
      obtain ⟨_, middle, hrouter, hrest⟩ := yields_bind.1 h
      obtain ⟨first, hfirst, hfaithful', hfollowed⟩ :=
        traced context depth [] root file [] start middle hfaithful hrouter
      obtain ⟨others, hothers, hfollowed'⟩ := ih hfaithful' hrest
      exact ⟨first ++ others, gather_cons hfirst hothers, hfollowed.append hfollowed'⟩

/-- The mounts of the main file. -/
theorem answers_rootMounts {file : Path} {basePath : String} {code : Text}
    (hcode : textOf context.reader file = .ok code) :
    Answers context.reader (rootMounts context file basePath)
      (.ok (mounts code basePath.toList none).mounts) := by
  have hread : Answers context.reader (Router.read context.reader file) _ := answers_read file
  rw [hcode] at hread
  have hmounts : Answers context.reader (mountsIn context.reader file basePath.toList)
      (.ok (mounts code basePath.toList none).mounts) :=
    hread.bind ((answers_reportAll _).bind (answers_pure _))
  exact hmounts.attempt.bind (answers_pure _)

/-- Whether the main file mounts anything is reported without reading. -/
theorem answers_noMounts (file : Path) (roots : List Mount) :
    Answers context.reader (if roots.isEmpty then Run.report (.noMounts file) else pure ()) (.ok ()) := by
  split
  · exact answers_report _
  · exact answers_pure ()

/-- A main file that gives mounts has been read. -/
theorem textOf_of_rootMounts {file : Path} {basePath : String} {roots : List Mount}
    (hfaithful : Router.Faithful context.reader start)
    (h : Yields (rootMounts context file basePath) start roots stop) :
    ∃ code, textOf context.reader file = .ok code := by
  cases hcode : textOf context.reader file with
  | ok code => exact ⟨code, rfl⟩
  | error failure =>
      have hread : Answers context.reader (Router.read context.reader file) _ := answers_read file
      rw [hcode] at hread
      have hmounts : Answers context.reader (mountsIn context.reader file basePath.toList)
          (.error failure) := hread.bind_error
      rw [rootMounts] at h
      obtain ⟨outcome, middle, hattempt, hnext⟩ := yields_bind.1 h
      obtain ⟨houtcome, -, -⟩ := hmounts.attempt.of_yields hfaithful hattempt
      rw [Except.ok.injEq] at houtcome
      subst houtcome
      -- every failure to read ends the run
      split at hnext
      · rename_i heq
        cases heq
      · exact absurd hnext not_yields_throw
      · exact absurd hnext not_yields_throw

/-- What a generation run that succeeds has done: it has followed the visits of the main file. -/
theorem generate_cases {depth : Nat} {file : Path} {basePath : String}
    {schemes : List SecurityScheme} {document : Document}
    (hfaithful : Router.Faithful context.reader start)
    (h : Yields (generate context depth file basePath schemes) start document stop) :
    ∃ code visits, textOf context.reader file = .ok code ∧
      gather (fun root => routerVisits context.reader context.schemaSuffix.toList depth [] root file [])
        (mounts code basePath.toList none).mounts = .ok visits ∧
      Followed context visits (schemes.foldl Document.registerScheme start.document) document := by
  obtain ⟨s₁, roots, s₂, s₃, hschemes, hroots, hreport, hvisit, rfl⟩ := yields_generate_iff.1 h
  obtain ⟨htexts₁, hdocument₁⟩ : s₁.texts = start.texts ∧
      s₁.document = schemes.foldl Document.registerScheme start.document := by
    cases hschemes
    exact ⟨rfl, rfl⟩
  have hfaithful₁ := faithful_of_texts hfaithful htexts₁
  obtain ⟨code, hcode⟩ := textOf_of_rootMounts hfaithful₁ hroots
  obtain ⟨hmounts, hfaithful₂, hdocument₂⟩ :=
    (answers_rootMounts hcode).of_yields hfaithful₁ hroots
  rw [Except.ok.injEq] at hmounts
  subst hmounts
  obtain ⟨-, hfaithful₃, hdocument₃⟩ := (answers_noMounts file _).of_yields hfaithful₂ hreport
  obtain ⟨visits, hvisits, hfollowed⟩ := followed_of_visitRoots hfaithful₃ hvisit
  refine ⟨code, visits, hcode, hvisits, ?_⟩
  rwa [hdocument₃, hdocument₂, hdocument₁] at hfollowed

/-! ## Runs that succeed -/

/-- A visited route is well formed or malformed, and does not end a run. -/
def Visit.Passes (context : Context) (visit : Visit) : Prop :=
  ∀ session, (∃ record stop, Yields (visit.record context) session record stop) ∨
    ∃ fault stop, result (visit.record context) session = (.error (.structural fault), stop)

theorem Visit.passes_of_record {visit : Visit} {record : Record}
    (h : visit.record context = pure record) : visit.Passes context := by
  intro session
  refine .inl ⟨record, session, ?_⟩
  rw [h]
  rfl

theorem yields_visitRoutes {passed : List Mount} {declaration : Declaration} {mount : Mount}
    {calls : List Token} (hpasses : ∀ token ∈ calls, Visit.Passes context
      { passed := passed ++ [mount], declaration := declaration, token := token }) :
    ∃ stop, Yields (visitRoutes context declaration mount.router (mountUnder (passed ++ [mount])) calls)
      start () stop := by
  induction calls generalizing start with
  | nil => exact ⟨start, rfl⟩
  | cons token rest ih =>
      have hrest : ∀ start, ∃ stop, Yields (visitRoutes context declaration mount.router
          (mountUnder (passed ++ [mount])) rest) start () stop :=
        fun _ => ih fun other hother => hpasses other (List.mem_cons_of_mem _ hother)
      have htag : Visit.tag { passed := passed ++ [mount], declaration := declaration, token := token } =
          mount.router := by simp [Visit.tag]
      have hvisit := hpasses token List.mem_cons_self start
      rw [Visit.record, htag] at hvisit
      rw [visitRoutes]
      rcases hvisit with ⟨record, after, hrecord⟩ | ⟨fault, after, hfault⟩
      · obtain ⟨stop, hstop⟩ := hrest (final (register record) after)
        exact ⟨stop, yields_bind.2 ⟨.ok record, after, yields_attempt.2 hrecord,
          yields_bind.2 ⟨(), _, rfl, hstop⟩⟩⟩
      · obtain ⟨stop, hstop⟩ :=
          hrest (final (Run.report (.endpointSkipped token.verb mount.router fault)) after)
        exact ⟨stop, yields_bind.2 ⟨.error (.structural fault), after, yields_attempt.2 hfault,
          yields_bind.2 ⟨(), _, rfl, hstop⟩⟩⟩

/-- Runs of a depth succeed where their visits are known and none of them ends a run. -/
def Completed (context : Context) (depth : Nat) : Prop :=
  ∀ (outer : List Mount) (mount : Mount) (file : Path) (names : List Text) (visits : List Visit)
    (start : Session), Router.Faithful context.reader start →
    routerVisits context.reader context.schemaSuffix.toList depth outer mount file names = .ok visits →
    (∀ visit ∈ visits, visit.Passes context) →
    ∃ stop, Yields (visitRouter context depth mount.router (mountUnder (outer ++ [mount])) file names)
      start () stop

/-- The visits below the first mount and those below the others. -/
theorem gather_cons_eq_ok {below : Mount → Except Failure (List Visit)} {mount : Mount}
    {rest : List Mount} {visits : List Visit} (h : gather below (mount :: rest) = .ok visits) :
    ∃ first others, below mount = .ok first ∧ gather below rest = .ok others ∧
      visits = first ++ others := by
  simp only [gather, bind_eq_ok, pure, Except.pure, Except.ok.injEq] at h
  obtain ⟨first, hfirst, others, hothers, rfl⟩ := h
  exact ⟨first, others, hfirst, hothers, rfl⟩

theorem yields_visitMounts {depth : Nat} (hcompleted : Completed context depth) {passed : List Mount}
    {file : Path} {names : List Text} {list : List Mount} {visits : List Visit}
    (hfaithful : Router.Faithful context.reader start)
    (hvisits : gather (fun inner => routerVisits context.reader context.schemaSuffix.toList depth
      passed inner file names) (list.filter fun inner => !names.contains inner.router) = .ok visits)
    (hpasses : ∀ visit ∈ visits, visit.Passes context) :
    ∃ stop, Yields (visitMounts context depth (mountUnder passed) file names list) start () stop := by
  induction list generalizing start visits with
  | nil =>
      rw [visitMounts]
      exact ⟨start, rfl⟩
  | cons inner rest ih =>
      by_cases hcyclic : names.contains inner.router = true
      · rw [List.filter_cons_of_neg (by rw [hcyclic]; decide)] at hvisits
        obtain ⟨middle, hreport, hfaithful', -⟩ :=
          (answers_report (.cyclicMount inner.router names)).yields hfaithful
        obtain ⟨stop, hstop⟩ := ih hfaithful' hvisits hpasses
        exact ⟨stop, yields_visitMounts_cons.2 ⟨middle, .inl ⟨hcyclic, hreport⟩, hstop⟩⟩
      · rw [List.filter_cons_of_pos (by simpa using hcyclic)] at hvisits
        obtain ⟨first, others, hfirst, hothers, rfl⟩ := gather_cons_eq_ok hvisits
        obtain ⟨middle, hmiddle⟩ := hcompleted passed inner file names first start hfaithful hfirst
          fun visit h => hpasses visit (List.mem_append_left _ h)
        -- the run so far is traced, which is how its session is known to be faithful still
        obtain ⟨-, -, hfaithful', -⟩ := traced context depth _ _ _ _ _ _ hfaithful hmiddle
        obtain ⟨stop, hstop⟩ := ih hfaithful' hothers
          fun visit h => hpasses visit (List.mem_append_right _ h)
        rw [mountUnder_append] at hmiddle
        exact ⟨stop, yields_visitMounts_cons.2 ⟨middle, .inr ⟨hcyclic, hmiddle⟩, hstop⟩⟩

/-- **A run whose visits are known and do not end it succeeds.** -/
theorem completed (context : Context) (depth : Nat) : Completed context depth := by
  induction depth with
  | zero =>
      intro outer mount file names visits start _ h
      cases h
  | succ depth ih =>
      intro outer mount file names visits start hfaithful h hpasses
      have hlocate : Answers context.reader
          (locate context.reader context.schemaSuffix.toList mount.router file) _ :=
        answers_locate _ _ _
      obtain ⟨s₁, hattempt, hfaithful₁, -⟩ := hlocate.attempt.yields hfaithful
      rw [routerVisits] at h
      cases hlocated : located context.reader context.schemaSuffix.toList mount.router file with
      | error failure =>
          rw [hlocated] at h hattempt
          cases failure with
          | unlocated router target =>
              exact ⟨_, yields_visitRouter.2 (.inl ⟨router, target, s₁, hattempt, rfl⟩)⟩
          | _ => cases h
      | ok declaration =>
          rw [hlocated] at h hattempt
          simp only [bind_eq_ok, pure, Except.pure, Except.ok.injEq] at h
          obtain ⟨inner, hinner, rfl⟩ := h
          obtain ⟨s₂, hmounted, hfaithful₂, -⟩ := (answers_report
            (.routerMounted mount.router (mountUnder (outer ++ [mount])) declaration.file)).yields
            hfaithful₁
          obtain ⟨s₃, hhalted, hfaithful₃, -⟩ := (answers_reportAll
            ((tokens declaration.span (some declaration.name)).halt.map Event.halted).toList).yields
            hfaithful₂
          obtain ⟨s₄, hroutes⟩ : ∃ s₄, Yields (visitRoutes context declaration mount.router
              (mountUnder (outer ++ [mount])) (tokens declaration.span (some declaration.name)).tokens)
              s₃ () s₄ :=
            yields_visitRoutes fun token htoken =>
              hpasses _ (List.mem_append_left _ (List.mem_map_of_mem htoken))
          obtain ⟨htexts, -⟩ := followed_of_visitRoutes hroutes
          have hfaithful₄ := faithful_of_texts hfaithful₃ htexts
          obtain ⟨s₅, hmalformed, hfaithful₅, -⟩ := (answers_reportAll
            ((mounts declaration.span [] (some declaration.name)).faults.map
              Event.malformedMount)).yields hfaithful₄
          obtain ⟨stop, hmounts⟩ := yields_visitMounts ih hfaithful₅ hinner
            fun visit h => hpasses visit (List.mem_append_right _ h)
          exact ⟨stop, yields_visitRouter.2 (.inr ⟨declaration, s₁, s₂, s₃, s₄, s₅, hattempt, hmounted,
            hhalted, hroutes, hmalformed, hmounts⟩)⟩

theorem yields_visitRoots {depth : Nat} {file : Path} {roots : List Mount} {visits : List Visit}
    (hfaithful : Router.Faithful context.reader start)
    (hvisits : gather (fun root => routerVisits context.reader context.schemaSuffix.toList depth
      [] root file []) roots = .ok visits)
    (hpasses : ∀ visit ∈ visits, visit.Passes context) :
    ∃ stop, Yields (visitRoots context depth file roots) start () stop := by
  induction roots generalizing start visits with
  | nil => exact ⟨start, rfl⟩
  | cons root rest ih =>
      obtain ⟨first, others, hfirst, hothers, rfl⟩ := gather_cons_eq_ok hvisits
      obtain ⟨middle, hmiddle⟩ := completed context depth [] root file [] first start hfaithful hfirst
        fun visit h => hpasses visit (List.mem_append_left _ h)
      obtain ⟨-, -, hfaithful', -⟩ := traced context depth _ _ _ _ _ _ hfaithful hmiddle
      obtain ⟨stop, hstop⟩ := ih hfaithful' hothers
        fun visit h => hpasses visit (List.mem_append_right _ h)
      exact ⟨stop, yields_bind.2 ⟨(), middle, hmiddle, hstop⟩⟩

/-- **A generation run succeeds** where its main file can be read, its visits are known and none of
them ends a run. -/
theorem yields_generate {depth : Nat} {file : Path} {basePath : String}
    {schemes : List SecurityScheme} {code : Text} {visits : List Visit}
    (hfaithful : Router.Faithful context.reader start)
    (hcode : textOf context.reader file = .ok code)
    (hvisits : gather (fun root => routerVisits context.reader context.schemaSuffix.toList depth
      [] root file []) (mounts code basePath.toList none).mounts = .ok visits)
    (hpasses : ∀ visit ∈ visits, visit.Passes context) :
    ∃ document stop, Yields (generate context depth file basePath schemes) start document stop := by
  have hfaithful₁ : Router.Faithful context.reader (final (registerSchemes schemes) start) :=
    hfaithful
  obtain ⟨s₂, hroots, hfaithful₂, -⟩ := (answers_rootMounts hcode).yields hfaithful₁
  obtain ⟨s₃, hreport, hfaithful₃, -⟩ :=
    (answers_noMounts file (mounts code basePath.toList none).mounts).yields hfaithful₂
  obtain ⟨stop, hvisit⟩ := yields_visitRoots hfaithful₃ hvisits hpasses
  exact ⟨stop.document, stop, yields_generate_iff.2 ⟨_, _, s₂, s₃, rfl, hroots, hreport, hvisit, rfl⟩⟩

end

end RouteAtlas.Generator
