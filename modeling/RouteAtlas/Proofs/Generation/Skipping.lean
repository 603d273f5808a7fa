import RouteAtlas.Proofs.Generation.Receivers
import RouteAtlas.Proofs.Middleware.Caching
import RouteAtlas.Proofs.OpenApi.Renumbering

/-!
# Skipped units

A run passes over malformed route calls and over mounts of routers that are not located, and what it
has read, resolved and synthesized for them stays in the session. None of it shows in the document: a
run that succeeds gives, up to the serial numbers of composed models, the document of the run from
which all these calls and mounts are left out, and the OpenAPI document written from it is the same
(`generate_without_skipped`). The two runs go side by side; where only the first one has something to
do, it comes to a session that differs in what it keeps.
-/

set_option autoImplicit false

namespace RouteAtlas.Generator

open Text Route Router Middleware Api Schema Step

/-! ## Runs with units left out -/

/-- Which of the route calls and mounts a run comes to it takes up. A route call is given with its
router, the name and path it is mounted by, and a mount by the router and the file it stands in. -/
structure Selection where
  route : Declaration → Text → Text → Token → Bool
  mount : Text → Path → Bool

/-- Everything is taken up. -/
def Selection.all : Selection where
  route _ _ _ _ := true
  mount _ _ := true

@[simp] theorem Selection.filter_route_all (declaration : Declaration) (tag mount : Text)
    (calls : List Token) : calls.filter (Selection.all.route declaration tag mount) = calls :=
  List.filter_true calls

@[simp] theorem Selection.filter_mount_all (file : Path) (list : List Mount) :
    (list.filter fun inner => Selection.all.mount inner.router file) = list :=
  List.filter_true list

mutual

/-- Adds a router and everything mounted on it, as far as it is selected. -/
def visitRouterOf (selection : Selection) (context : Context) :
    Nat → Text → Text → Path → List Text → Run Unit
  | 0, _, _, _, _ => throw .tooDeep
  | depth + 1, name, mount, file, chain => do
      match ← (locate context.reader context.schemaSuffix.toList name file).attempt with
      | .error (.unlocated router file) => Run.report (.routerSkipped router file)
      | .error failure => throw failure
      | .ok declaration => do
          Run.report (.routerMounted name mount declaration.file)
          let extraction := tokens declaration.span (some declaration.name)
          Run.reportAll (extraction.halt.map Event.halted).toList
          visitRoutes context declaration name mount
            (extraction.tokens.filter (selection.route declaration name mount))
          let scan := mounts declaration.span [] (some declaration.name)
          Run.reportAll (scan.faults.map Event.malformedMount)
          visitMountsOf selection context depth mount declaration.file (chain ++ [declaration.name])
            (scan.mounts.filter fun inner => selection.mount inner.router declaration.file)
termination_by depth _ _ _ chain => (depth, 0, sizeOf chain)

/-- Adds the routers mounted on a router, as far as they are selected. -/
def visitMountsOf (selection : Selection) (context : Context) (depth : Nat) (mount : Text) (file : Path)
    (chain : List Text) : List Mount → Run Unit
  | [] => pure ()
  | inner :: rest => do
      if chain.contains inner.router then
        Run.report (.cyclicMount inner.router chain)
      else
        visitRouterOf selection context depth inner.router (nestMount mount inner.path) file chain
      visitMountsOf selection context depth mount file chain rest
termination_by mounts => (depth, 1, sizeOf mounts)

end

/-- Adds the routers mounted in the main file, as far as they are selected. -/
def visitRootsOf (selection : Selection) (context : Context) (depth : Nat) (file : Path) :
    List Mount → Run Unit
  | [] => pure ()
  | root :: rest => do
      visitRouterOf selection context depth root.router root.path file []
      visitRootsOf selection context depth file rest

/-- A generation pass over what is selected. -/
def generateOf (selection : Selection) (context : Context) (depth : Nat) (file : Path)
    (basePath : String) (schemes : List SecurityScheme) : Run Document := do
  registerSchemes schemes
  let roots ← rootMounts context file basePath
  if roots.isEmpty then Run.report (.noMounts file)
  visitRootsOf selection context depth file
    (roots.filter fun root => selection.mount root.router file)
  pure (← get).document

theorem visitMountsOf_all {context : Context} {depth : Nat}
    (hrouter : visitRouterOf .all context depth = visitRouter context depth) (mount : Text)
    (file : Path) (chain : List Text) (list : List Mount) :
    visitMountsOf .all context depth mount file chain list =
      visitMounts context depth mount file chain list := by
  induction list with
  | nil => rw [visitMountsOf, visitMounts]
  | cons inner rest ih => rw [visitMountsOf, visitMounts, hrouter, ih]

theorem visitRouterOf_all (context : Context) (depth : Nat) :
    visitRouterOf .all context depth = visitRouter context depth := by
  induction depth with
  | zero =>
      funext name mount file chain
      rw [visitRouterOf, visitRouter]
  | succ depth ih =>
      funext name mount file chain
      rw [visitRouterOf, visitRouter]
      apply bind_congr
      intro outcome
      cases outcome with
      | ok declaration =>
          simp only [Selection.filter_route_all, Selection.filter_mount_all, visitMountsOf_all ih]
      | error failure => cases failure <;> rfl

/-- A generation pass over everything is a generation pass. -/
theorem generateOf_all (context : Context) (depth : Nat) (file : Path) (basePath : String)
    (schemes : List SecurityScheme) :
    generateOf .all context depth file basePath schemes =
      generate context depth file basePath schemes := by
  have hroots : ∀ roots, visitRootsOf .all context depth file roots =
      visitRoots context depth file roots := by
    intro roots
    induction roots with
    | nil => rfl
    | cons root rest ih => rw [visitRootsOf, visitRoots, visitRouterOf_all, ih]
  rw [generateOf, generate]
  simp only [Selection.filter_mount_all, hroots]

/-- The record of a route call fails with a fault of the source text. -/
def isMalformed (context : Context) (declaration : Declaration) (tag mount : Text) (token : Token) :
    Bool :=
  match (result (recordOf context declaration tag mount token) {}).1 with
  | .error (.structural _) => true
  | _ => false

/-- A router is not located from a file. -/
def isUnlocated (context : Context) (router : Text) (file : Path) : Bool :=
  match (result (locate context.reader context.schemaSuffix.toList router file) {}).1 with
  | .error (.unlocated _ _) => true
  | _ => false

/-- Malformed route calls and mounts of routers that are not located are left out. -/
def Selection.sound (context : Context) : Selection where
  route declaration tag mount token := !isMalformed context declaration tag mount token
  mount router file := !isUnlocated context router file

/-! ## Sessions of the two runs -/

/-- The session of a run and that of a run with units left out: both are in order, and their documents
match. -/
structure Abreast (context : Context) (numbering : Numbering) (session other : Session) : Prop where
  faithful : Router.Faithful context.reader session
  faithful' : Router.Faithful context.reader other
  matched : Matched context.setup context.provider numbering session other
  document : session.document.Matches numbering other.document

/-- A session that a run has come to without a change to the document. -/
structure Still (context : Context) (session stop : Session) : Prop where
  faithful : Router.Faithful context.reader stop
  later : Later context.setup context.provider session stop
  document : stop.document = session.document

section

variable {context : Context} {numbering : Numbering} {session other start stop : Session}

theorem Abreast.left (h : Abreast context numbering session other)
    (hstill : Still context session stop) : Abreast context numbering stop other := by
  refine ⟨hstill.faithful, h.faithful', h.matched.after hstill.later h.matched.coherent'.later_refl, ?_⟩
  rw [hstill.document]
  exact h.document

theorem Abreast.right (h : Abreast context numbering session other)
    (hstill : Still context other stop) : Abreast context numbering session stop := by
  refine ⟨h.faithful, hstill.faithful, h.matched.after h.matched.coherent.later_refl hstill.later, ?_⟩
  rw [hstill.document]
  exact h.document

/-- A change of the events alone. -/
theorem still_of_events {events : List Event} (hfaithful : Router.Faithful context.reader session)
    (hcoherent : Coherent context.setup context.provider session) :
    Still context session { session with events := events } :=
  ⟨hfaithful, hcoherent.later_of_eq rfl rfl rfl, rfl⟩

theorem still_of_report {event : Event} (hfaithful : Router.Faithful context.reader session)
    (hcoherent : Coherent context.setup context.provider session)
    (h : Yields (Run.report event) session () stop) : Still context session stop := by
  cases h
  exact still_of_events hfaithful hcoherent

theorem still_of_reportAll {events : List Event} (hfaithful : Router.Faithful context.reader session)
    (hcoherent : Coherent context.setup context.provider session)
    (h : Yields (Run.reportAll events) session () stop) : Still context session stop := by
  cases h
  exact still_of_events hfaithful hcoherent

theorem still_of_noMounts {file : Path} {roots : List Mount}
    (hfaithful : Router.Faithful context.reader session)
    (hcoherent : Coherent context.setup context.provider session)
    (h : Yields (if roots.isEmpty then Run.report (.noMounts file) else pure ()) session () stop) :
    Still context session stop := by
  split at h
  · exact still_of_report hfaithful hcoherent h
  · obtain ⟨-, rfl⟩ := yields_pure.1 h
    exact ⟨hfaithful, hcoherent.later_refl, rfl⟩

/-- Locating a router gives the same outcome in all sessions and leaves the document alone. -/
theorem still_of_locate {name : Text} {file : Path} {outcome : Except Failure Declaration}
    (hfaithful : Router.Faithful context.reader session)
    (hcoherent : Coherent context.setup context.provider session)
    (h : result (locate context.reader context.schemaSuffix.toList name file) session =
      (outcome, stop)) :
    outcome = located context.reader context.schemaSuffix.toList name file ∧
      Still context session stop := by
  obtain ⟨houtcome, hlast, hdocument⟩ :=
    answers_locate context.schemaSuffix.toList name file session hfaithful
  have hspares : Spares (locate context.reader context.schemaSuffix.toList name file) :=
    spares_locate _ _ _
  obtain ⟨hresolved, hsynthesized, hserial⟩ := hspares session
  simp only [final, h] at houtcome hlast hdocument hresolved hsynthesized hserial
  exact ⟨houtcome, hlast, hcoherent.later_of_eq hresolved hsynthesized hserial, hdocument⟩

theorem isUnlocated_iff {name : Text} {file : Path} :
    isUnlocated context name file = true ↔ ∃ router target,
      located context.reader context.schemaSuffix.toList name file =
        .error (.unlocated router target) := by
  obtain ⟨houtcome, -, -⟩ :=
    answers_locate context.schemaSuffix.toList name file {} (faithful_empty context.reader)
  rw [isUnlocated, houtcome]
  split
  · rename_i router target heq
    simp [heq]
  · rename_i hother
    simp only [Bool.false_eq_true, false_iff]
    rintro ⟨router, target, heq⟩
    exact hother router target heq

/-- Building a record, also in part, leaves the texts and the document alone. -/
theorem still_of_recordOf (hdeclares : Declares context.provider)
    (hfaithful : Router.Faithful context.reader session)
    (hcoherent : Coherent context.setup context.provider session) {declaration : Declaration}
    {tag mount : Text} {token : Token} {outcome : Except Failure Record}
    (h : result (recordOf context declaration tag mount token) session = (outcome, stop)) :
    Still context session stop := by
  obtain ⟨htexts, hdocument, -⟩ := sees_recordOf context declaration tag mount token session
  obtain ⟨-, -, hlater, -⟩ :=
    agree_recordOf hdeclares declaration tag mount token (hcoherent.matched_nil hcoherent)
  simp only [final, h] at htexts hdocument hlater
  exact ⟨faithful_of_texts hfaithful htexts, hlater, hdocument⟩

/-- **A route call is malformed wherever it is**: a fault of the source text is met in all coherent
sessions or in none. -/
theorem isMalformed_iff (hdeclares : Declares context.provider)
    (hcoherent : Coherent context.setup context.provider session) {declaration : Declaration}
    {tag mount : Text} {token : Token} :
    isMalformed context declaration tag mount token = true ↔ ∃ fault,
      (result (recordOf context declaration tag mount token) session).1 =
        .error (.structural fault) := by
  obtain ⟨wider, -, -, -, -, halike⟩ := agree_recordOf hdeclares declaration tag mount token
    (hcoherent.matched_nil coherent_empty)
  rw [isMalformed]
  revert halike
  generalize (result (recordOf context declaration tag mount token) session).1 = outcome
  generalize (result (recordOf context declaration tag mount token) {}).1 = outcome'
  intro halike
  cases halike with
  | ok _ => simp
  | error failure =>
      cases failure with
      | structural fault => simp
      | _ => simp

/-! ## One run beside the other -/

theorem Abreast.register {record record' : Record} {stop' : Session}
    (h : Abreast context numbering session other) (hrecord : record.Matches numbering record')
    (hregister : Yields (register record) session () stop)
    (hregister' : Yields (register record') other () stop') :
    Abreast context numbering stop stop' := by
  cases hregister
  cases hregister'
  refine ⟨h.faithful, h.faithful', ?_, h.document.register hrecord⟩
  exact h.matched.after (h.matched.coherent.later_of_eq rfl rfl rfl)
    (h.matched.coherent'.later_of_eq rfl rfl rfl)

/-- **Malformed route calls can be left out**: the others give matching records. -/
theorem abreast_visitRoutes (hdeclares : Declares context.provider) {declaration : Declaration}
    {tag mount : Text} {calls : List Token}
    (h : Yields (visitRoutes context declaration tag mount calls) start () stop)
    (habreast : Abreast context numbering start other) :
    ∃ wider stop', Yields (visitRoutes context declaration tag mount
        (calls.filter ((Selection.sound context).route declaration tag mount))) other () stop' ∧
      Abreast context wider stop stop' := by
  induction calls generalizing numbering start other with
  | nil =>
      cases h
      exact ⟨numbering, other, rfl, habreast⟩
  | cons token rest ih =>
      rw [visitRoutes] at h
      obtain ⟨outcome, after, hattempt, hnext⟩ := yields_bind.1 h
      have hresult := yields_attempt.1 hattempt
      have hmalformed : isMalformed context declaration tag mount token = true ↔
          ∃ fault, outcome = .error (.structural fault) := by
        rw [isMalformed_iff hdeclares habreast.matched.coherent, hresult]
      cases outcome with
      | ok record =>
          have hkeep : (Selection.sound context).route declaration tag mount token = true := by
            simpa [Selection.sound] using hmalformed
          rw [List.filter_cons_of_pos hkeep, visitRoutes]
          obtain ⟨_, middle, hregister, hrest⟩ := yields_bind.1 hnext
          -- the other run builds the record as well, whatever it keeps
          obtain ⟨wider, hwider, hlater, hlater', hmatched, halike⟩ :=
            agree_recordOf hdeclares declaration tag mount token habreast.matched
          rcases hresult' : result (recordOf context declaration tag mount token) other with
            ⟨outcome', after'⟩
          simp only [final, hresult, hresult'] at hlater hlater' hmatched halike
          cases halike with
          | @ok _ record' hrecord =>
              have hstill := still_of_recordOf hdeclares habreast.faithful habreast.matched.coherent hresult
              have hstill' :=
                still_of_recordOf hdeclares habreast.faithful' habreast.matched.coherent' hresult'
              have hbuilt : Abreast context wider after after' := by
                refine ⟨hstill.faithful, hstill'.faithful, hmatched, ?_⟩
                rw [hstill.document, hstill'.document]
                exact habreast.document.mono hwider
              have hregister' : Yields (register record') after' () (final (register record') after') := rfl
              obtain ⟨widest, stop', hstop', hlast⟩ :=
                ih hrest (hbuilt.register hrecord hregister hregister')
              exact ⟨widest, stop', yields_bind.2 ⟨.ok record', after', yields_attempt.2 hresult',
                yields_bind.2 ⟨(), _, hregister', hstop'⟩⟩, hlast⟩
      | error failure =>
          cases failure with
          | structural fault =>
              have hdrop : ¬ (Selection.sound context).route declaration tag mount token = true := by
                simpa [Selection.sound] using hmalformed
              rw [List.filter_cons_of_neg hdrop]
              obtain ⟨_, middle, hreport, hrest⟩ := yields_bind.1 hnext
              have hstill := still_of_recordOf hdeclares habreast.faithful habreast.matched.coherent hresult
              have hstill' := still_of_report hstill.faithful hstill.later.coherent hreport
              exact ih hrest ((habreast.left hstill).left hstill')
          | _ =>
              -- any other failure ends the run
              obtain ⟨_, _, hthrow, -⟩ := yields_bind.1 hnext
              exact absurd hthrow not_yields_throw

/-- Runs of a depth go beside those with units left out; a router that is not located leaves the
document alone. -/
def Shadowed (context : Context) (depth : Nat) : Prop :=
  ∀ (name mount : Text) (file : Path) (names : List Text) (numbering : Numbering)
    (start stop other : Session), Abreast context numbering start other →
    Yields (visitRouter context depth name mount file names) start () stop →
    (isUnlocated context name file = true ∧ Still context start stop) ∨
      isUnlocated context name file = false ∧ ∃ wider stop',
        Yields (visitRouterOf (.sound context) context depth name mount file names) other () stop' ∧
          Abreast context wider stop stop'

/-- Mounts of routers that are not located can be left out where that holds one level below. -/
theorem abreast_visitMounts {depth : Nat} (hshadowed : Shadowed context depth) {mount : Text}
    {file : Path} {names : List Text} {list : List Mount}
    (h : Yields (visitMounts context depth mount file names list) start () stop)
    (habreast : Abreast context numbering start other) :
    ∃ wider stop', Yields (visitMountsOf (.sound context) context depth mount file names
        (list.filter fun inner => (Selection.sound context).mount inner.router file)) other () stop' ∧
      Abreast context wider stop stop' := by
  induction list generalizing numbering start other with
  | nil =>
      rw [visitMounts] at h
      cases h
      refine ⟨numbering, other, ?_, habreast⟩
      rw [List.filter_nil, visitMountsOf]
      rfl
  | cons inner rest ih =>
      obtain ⟨middle, hfirst, hrest⟩ := yields_visitMounts_cons.1 h
      by_cases hkeep : (Selection.sound context).mount inner.router file = true
      · have hlocated : isUnlocated context inner.router file = false := by
          simpa [Selection.sound] using hkeep
        rw [List.filter_cons_of_pos (by exact hkeep), visitMountsOf]
        rcases hfirst with ⟨hcyclic, hreport⟩ | ⟨hfresh, hrouter⟩
        · rw [if_pos hcyclic]
          have hstill := still_of_report habreast.faithful habreast.matched.coherent hreport
          have hreport' : Yields (Run.report (.cyclicMount inner.router names)) other ()
              (final (Run.report (.cyclicMount inner.router names)) other) := rfl
          have hstill' := still_of_report habreast.faithful' habreast.matched.coherent' hreport'
          obtain ⟨wider, stop', hstop', hlast⟩ := ih hrest ((habreast.left hstill).right hstill')
          exact ⟨wider, stop', yields_bind.2 ⟨(), _, hreport', hstop'⟩, hlast⟩
        · rw [if_neg hfresh]
          rcases hshadowed _ _ _ _ _ _ _ _ habreast hrouter with ⟨hunlocated, -⟩ |
            ⟨-, wider, middle', hmiddle', habreast'⟩
          · cases hlocated.symm.trans hunlocated
          · obtain ⟨widest, stop', hstop', hlast⟩ := ih hrest habreast'
            exact ⟨widest, stop', yields_bind.2 ⟨(), middle', hmiddle', hstop'⟩, hlast⟩
      · have hunlocated : isUnlocated context inner.router file = true := by
          simpa [Selection.sound] using hkeep
        rw [List.filter_cons_of_neg (by exact hkeep)]
        -- only the run that comes to the mount does something, and its document stays
        have hstill : Still context start middle := by
          rcases hfirst with ⟨-, hreport⟩ | ⟨-, hrouter⟩
          · exact still_of_report habreast.faithful habreast.matched.coherent hreport
          · rcases hshadowed _ _ _ _ _ _ _ _ habreast hrouter with ⟨-, hstill⟩ | ⟨hlocated, -⟩
            · exact hstill
            · cases hlocated.symm.trans hunlocated
        exact ih hrest (habreast.left hstill)

/-- A router that one run locates and reports is located and reported by the other. -/
theorem abreast_opening {name : Text} {file : Path} {declaration : Declaration} {s₁ s₂ s₃ : Session}
    {event : Event} {events : List Event} (habreast : Abreast context numbering start other)
    (hlocated : .ok declaration = located context.reader context.schemaSuffix.toList name file)
    (hstill₁ : Still context start s₁) (hreport : Yields (Run.report event) s₁ () s₂)
    (hreportAll : Yields (Run.reportAll events) s₂ () s₃) :
    ∃ t₁ t₂ t₃,
      Yields (locate context.reader context.schemaSuffix.toList name file).attempt other
        (.ok declaration) t₁ ∧
      Yields (Run.report event) t₁ () t₂ ∧ Yields (Run.reportAll events) t₂ () t₃ ∧
      Abreast context numbering s₃ t₃ := by
  rcases hresult : result (locate context.reader context.schemaSuffix.toList name file) other with
    ⟨outcome, t₁⟩
  obtain ⟨rfl, hstill₁'⟩ :=
    still_of_locate habreast.faithful' habreast.matched.coherent' hresult
  rw [← hlocated] at hresult
  have hreport' : Yields (Run.report event) t₁ () (final (Run.report event) t₁) := rfl
  have hreportAll' : Yields (Run.reportAll events) (final (Run.report event) t₁) ()
      (final (Run.reportAll events) (final (Run.report event) t₁)) := rfl
  have hstill₂ := still_of_report hstill₁.faithful hstill₁.later.coherent hreport
  have hstill₃ := still_of_reportAll hstill₂.faithful hstill₂.later.coherent hreportAll
  have hstill₂' := still_of_report hstill₁'.faithful hstill₁'.later.coherent hreport'
  have hstill₃' := still_of_reportAll hstill₂'.faithful hstill₂'.later.coherent hreportAll'
  refine ⟨t₁, _, _, yields_attempt.2 hresult, hreport', hreportAll', ?_⟩
  exact ((((((habreast.left hstill₁).left hstill₂).left hstill₃).right hstill₁').right hstill₂').right
    hstill₃')

/-- **What is skipped below a router can be left out.** -/
theorem shadowed (hdeclares : Declares context.provider) (depth : Nat) : Shadowed context depth := by
  induction depth with
  | zero =>
      intro name mount file names numbering start stop other _ h
      rw [visitRouter] at h
      exact absurd h not_yields_throw
  | succ depth ih =>
      intro name mount file names numbering start stop other habreast h
      rcases yields_visitRouter.1 h with ⟨router, target, s₁, hattempt, hreport⟩ |
        ⟨declaration, s₁, s₂, s₃, s₄, s₅, hattempt, hmounted, hhalted, hroutes, hfaults, hmounts⟩
      · obtain ⟨houtcome, hstill₁⟩ := still_of_locate habreast.faithful habreast.matched.coherent
          (yields_attempt.1 hattempt)
        have hstill := still_of_report hstill₁.faithful hstill₁.later.coherent hreport
        exact .inl ⟨isUnlocated_iff.2 ⟨router, target, houtcome.symm⟩, hstill.faithful,
          hstill₁.later.trans hstill.later, hstill.document.trans hstill₁.document⟩
      · obtain ⟨houtcome, hstill₁⟩ := still_of_locate habreast.faithful habreast.matched.coherent
          (yields_attempt.1 hattempt)
        refine .inr ⟨?_, ?_⟩
        · rw [← Bool.not_eq_true, isUnlocated_iff, ← houtcome]
          rintro ⟨router, target, herror⟩
          cases herror
        -- locating and reporting keep both runs where they are, and the other run does the same
        · obtain ⟨t₁, t₂, t₃, hattempt', hmounted', hhalted', habreast₃⟩ :=
            abreast_opening habreast houtcome hstill₁ hmounted hhalted
          obtain ⟨wider, t₄, hroutes', habreast₄⟩ := abreast_visitRoutes hdeclares hroutes habreast₃
          have hfaults' : Yields (Run.reportAll ((mounts declaration.span []
              (some declaration.name)).faults.map Event.malformedMount)) t₄ () _ := rfl
          have hstill₅ := still_of_reportAll habreast₄.faithful habreast₄.matched.coherent hfaults
          have hstill₅' :=
            still_of_reportAll habreast₄.faithful' habreast₄.matched.coherent' hfaults'
          obtain ⟨widest, stop', hmounts', hlast⟩ :=
            abreast_visitMounts ih hmounts ((habreast₄.left hstill₅).right hstill₅')
          refine ⟨widest, stop', ?_, hlast⟩
          rw [visitRouterOf]
          exact yields_bind.2 ⟨.ok declaration, t₁, hattempt', yields_bind.2 ⟨(), t₂, hmounted',
            yields_bind.2 ⟨(), t₃, hhalted', yields_bind.2 ⟨(), t₄, hroutes',
            yields_bind.2 ⟨(), _, hfaults', hmounts'⟩⟩⟩⟩⟩

theorem abreast_visitRoots (hdeclares : Declares context.provider) {depth : Nat} {file : Path}
    {roots : List Mount} (h : Yields (visitRoots context depth file roots) start () stop)
    (habreast : Abreast context numbering start other) :
    ∃ wider stop', Yields (visitRootsOf (.sound context) context depth file
        (roots.filter fun root => (Selection.sound context).mount root.router file)) other () stop' ∧
      Abreast context wider stop stop' := by
  induction roots generalizing numbering start other with
  | nil =>
      cases h
      exact ⟨numbering, other, rfl, habreast⟩
  | cons root rest ih =>
      rw [visitRoots] at h
      obtain ⟨_, middle, hrouter, hrest⟩ := yields_bind.1 h
      rcases shadowed hdeclares depth _ _ _ _ _ _ _ _ habreast hrouter with ⟨hunlocated, hstill⟩ |
        ⟨hlocated, wider, middle', hrouter', habreast'⟩
      · rw [List.filter_cons_of_neg (by simpa [Selection.sound] using hunlocated)]
        exact ih hrest (habreast.left hstill)
      · rw [List.filter_cons_of_pos (by simpa [Selection.sound] using hlocated), visitRootsOf]
        obtain ⟨widest, stop', hstop', hlast⟩ := ih hrest habreast'
        exact ⟨widest, stop', yields_bind.2 ⟨(), middle', hrouter', hstop'⟩, hlast⟩

end

/-- Reading the mounts of the main file leaves the schemas alone. -/
theorem spares_rootMounts (context : Context) (file : Path) (basePath : String) :
    Spares (rootMounts context file basePath) := by
  have hmounts : Spares (mountsIn context.reader file basePath.toList) :=
    (spares_read file).bind fun _ _ => ⟨rfl, rfl, rfl⟩
  rw [rootMounts]
  refine hmounts.attempt.bind fun outcome => ?_
  split
  · exact spares_pure _
  · exact spares_throw _
  · exact spares_throw _

/-- A run stands at the mounts of its main file with an empty document beside itself. -/
theorem abreast_rootMounts {context : Context} {file : Path} {basePath : String}
    {schemes : List SecurityScheme} {roots : List Mount} {start stop : Session}
    (hschemes : Yields (registerSchemes schemes) {} () start)
    (hroots : Yields (rootMounts context file basePath) start roots stop) :
    Abreast context [] stop stop := by
  obtain ⟨hfaithful, hregistered, hendpoints⟩ : Router.Faithful context.reader start ∧
      Later context.setup context.provider {} start ∧ start.document.endpoints = [] := by
    cases hschemes
    exact ⟨faithful_empty _, coherent_empty.later_of_eq rfl rfl rfl, endpoints_registerSchemes schemes _⟩
  obtain ⟨code, hcode⟩ := textOf_of_rootMounts hfaithful hroots
  obtain ⟨-, hlast, hdocument⟩ := (answers_rootMounts hcode).of_yields hfaithful hroots
  obtain ⟨hresolved, hsynthesized, hserial⟩ := spares_rootMounts context file basePath start
  rw [hroots.final_eq] at hresolved hsynthesized hserial
  have hlater := hregistered.coherent.later_of_eq hresolved hsynthesized hserial
  refine ⟨hlast, hlast, hlater.coherent.matched_nil hlater.coherent, ?_⟩
  apply Document.matches_of_endpoints_eq_nil
  rw [hdocument, hendpoints]

/-- The session in which records have been built one after the other, whether they came about or not. -/
def afterRecords (context : Context) (visits : List Visit) : Session :=
  visits.foldl (fun session visit => final (visit.record context) session) {}

theorem coherent_afterRecords {context : Context} (hdeclares : Declares context.provider)
    (visits : List Visit) :
    Coherent context.setup context.provider (afterRecords context visits) := by
  have hall : ∀ session, Coherent context.setup context.provider session →
      Coherent context.setup context.provider
        (visits.foldl (fun session visit => final (visit.record context) session) session) := by
    induction visits with
    | nil =>
        intro session hcoherent
        exact hcoherent
    | cons visit rest ih =>
        intro session hcoherent
        obtain ⟨-, -, hlater, -⟩ := agree_recordOf hdeclares visit.declaration visit.tag visit.mount
          visit.token (hcoherent.matched_nil hcoherent)
        exact ih _ hlater.coherent
  exact hall {} coherent_empty

/-- **Skipped units do not disturb the rest of a run.** A run over everything that succeeds gives the
document of the run from which every malformed route call and every mount of a router that is not
located are left out, up to the serial numbers of composed models, which do not show in what is
written. And a record is the same, up to serial numbers, or fails in the same way, whatever records
have been built before it, whole or in part. -/
theorem generate_without_skipped {context : Context} (hdeclares : Declares context.provider) :
    (∀ depth file basePath schemes,
      generateOf .all context depth file basePath schemes =
          generate context depth file basePath schemes ∧
        ∀ document stop, Yields (generate context depth file basePath schemes) {} document stop →
          ∃ document' stop',
            Yields (generateOf (.sound context) context depth file basePath schemes) {} document' stop' ∧
              document.EqUpToSerials document' ∧
              ∀ info, OpenApi.buildDocument document' info = OpenApi.buildDocument document info) ∧
      ∀ (earlier : List Visit) (visit : Visit),
        Alike Record.EqUpToSerials (result (visit.record context) (afterRecords context earlier)).1
          (result (visit.record context) {}).1 := by
  constructor
  · intro depth file basePath schemes
    refine ⟨generateOf_all context depth file basePath schemes, ?_⟩
    intro document stop h
    obtain ⟨s₁, roots, s₂, s₃, hschemes, hroots, hreport, hvisits, rfl⟩ := yields_generate_iff.1 h
    have habreast := abreast_rootMounts hschemes hroots
    have hstill := still_of_noMounts habreast.faithful habreast.matched.coherent hreport
    obtain ⟨wider, stop', hvisits', habreast'⟩ :=
      abreast_visitRoots hdeclares hvisits ((habreast.left hstill).right hstill)
    have hequal := habreast'.document.eqUpToSerials habreast'.matched.oneToOne
    refine ⟨stop'.document, stop', ?_, hequal, OpenApi.buildDocument_of_eqUpToSerials hequal⟩
    rw [generateOf]
    refine yields_bind.2 ⟨(), s₁, hschemes, yields_bind.2 ⟨roots, s₂, hroots, ?_⟩⟩
    by_cases hempty : roots.isEmpty = true
    · rw [if_pos hempty] at hreport ⊢
      exact yields_bind.2 ⟨(), s₃, hreport, yields_bind.2 ⟨(), stop', hvisits', rfl⟩⟩
    · rw [if_neg hempty] at hreport ⊢
      obtain ⟨-, rfl⟩ := yields_pure.1 hreport
      exact yields_bind.2 ⟨(), stop', hvisits', rfl⟩
  · intro earlier visit
    have hcoherent := coherent_afterRecords hdeclares earlier
    obtain ⟨wider, -, -, -, hmatched, halike⟩ := agree_recordOf hdeclares visit.declaration visit.tag
      visit.mount visit.token (hcoherent.matched_nil coherent_empty)
    exact halike.imp fun hrecord => hrecord.eqUpToSerials hmatched.oneToOne

/-! ## A run that skips a route and a mount -/

/-- A main file with a route whose path is no literal and with a mount of a router that is defined
nowhere. -/
def ordersMain : Text :=
  ("const orders = new Router();\n" ++
    "orders.put(path, list);\n" ++
    "orders.get('/', list);\n" ++
    "app.use('/orders', orders.routes());\n" ++
    "app.use('/ghosts', ghosts.routes());\n").toList

/-- A run over the main file with one declared schema. -/
def ordersContext : Context where
  reader := fun path =>
    if path = Path.ofString "main.ts" then .ok ordersMain else .error (.disk (.missing path))
  provider := tableProvider [("s.order", some (.given (.declared "s" "order") "Order" .null))]

theorem ordersContext_declares : Declares ordersContext.provider := by
  intro reference model h
  simp only [ordersContext, tableProvider, Table.get?] at h
  split at h
  · rename_i found heq
    split at heq
    · cases heq
      cases h
      exact ⟨"s", "order", rfl⟩
    · cases heq
  · cases h
  · cases h

/-- A visited route has the handler alone, or its path cannot be read. -/
def Visit.IsOrder (visit : Visit) : Prop :=
  visit.HandledBy "list".toList ∨
    (endpoint visit.token.verb.name.toList visit.token.arguments visit.mount).toOption = none

instance (visit : Visit) : Decidable visit.IsOrder := inferInstanceAs (Decidable (_ ∨ _))

theorem Visit.IsOrder.passes {visit : Visit} (h : visit.IsOrder) : visit.Passes ordersContext := by
  rcases h with hhandled | hnone
  · exact hhandled.passes rfl (by decide +kernel)
  · intro session
    cases hendpoint : endpoint visit.token.verb.name.toList visit.token.arguments visit.mount with
    | ok found =>
        rw [hendpoint] at hnone
        cases hnone
    | error fault =>
        refine .inr ⟨fault, session, ?_⟩
        rw [Visit.record, recordOf, hendpoint]
        rfl

/-- The visits below a mount of the main file. -/
def ordersVisits (mount : Mount) : Except Failure (List Visit) :=
  routerVisits ordersContext.reader ordersContext.schemaSuffix.toList 2 [] mount
    (Path.ofString "main.ts") []

theorem ordersVisits_spec : ∀ mount ∈ (mounts ordersMain [] none).mounts,
    ∃ visits ∈ (ordersVisits mount).toOption.toList, ∀ visit ∈ visits, visit.IsOrder := by
  -- the text is read character by character only once
  unfold ordersVisits ordersContext ordersMain
  simp only [String.toList_append]
  repeat rw [String.toList_ofList]
  decide +kernel

theorem ordersContext_succeeds : ∃ document stop,
    Yields (generate ordersContext 2 (Path.ofString "main.ts") "" []) {} document stop := by
  have hcode : textOf ordersContext.reader (Path.ofString "main.ts") = .ok ordersMain := rfl
  refine exists_yields_generate hcode fun mount hmount => ?_
  obtain ⟨visits, hmem, horders⟩ := ordersVisits_spec mount hmount
  exact ⟨visits, eq_ok_of_mem_toOption hmem, fun visit hvisit => (horders visit hvisit).passes⟩

/-- A route call that resolves a schema and then has a response that is not closed. -/
def brokenOrder : Visit where
  passed := []
  declaration := default
  token := { verb := .put, arguments := "'/', validateBody(s.order), validateResponse('\x7b'), f".toList
             note := none }

/-- A route call with the same schema. -/
def wholeOrder : Visit where
  passed := []
  declaration := default
  token := { verb := .put, arguments := "'/', validateBody(s.order), f".toList, note := none }

/-- A mount is left out of the run, and a record that fails halfway leaves a schema behind. -/
theorem orders_without_skipped :
    isUnlocated ordersContext "ghosts".toList (Path.ofString "main.ts") = true ∧
      isMalformed ordersContext brokenOrder.declaration brokenOrder.tag brokenOrder.mount
        brokenOrder.token = true ∧
      (∃ document stop document' stop',
        Yields (generate ordersContext 2 (Path.ofString "main.ts") "" []) {} document stop ∧
          Yields (generateOf (.sound ordersContext) ordersContext 2 (Path.ofString "main.ts") "" []) {}
            document' stop' ∧ document.EqUpToSerials document' ∧
          OpenApi.buildDocument document' {} = OpenApi.buildDocument document {}) ∧
      (afterRecords ordersContext [brokenOrder]).resolved.keys =
        [{ module := "s", exportName := "order", file := none }] ∧
      Alike Record.EqUpToSerials
        (result (wholeOrder.record ordersContext) (afterRecords ordersContext [brokenOrder])).1
        (result (wholeOrder.record ordersContext) {}).1 := by
  obtain ⟨document, stop, h⟩ := ordersContext_succeeds
  obtain ⟨document', stop', h', hequal, hwritten⟩ :=
    ((generate_without_skipped ordersContext_declares).1 _ _ _ _).2 document stop h
  refine ⟨?_, ?_, ⟨document, stop, document', stop', h, h', hequal, hwritten {}⟩, ?_, ?_⟩
  · unfold ordersContext ordersMain
    simp only [String.toList_append]
    repeat rw [String.toList_ofList]
    decide +kernel
  · unfold ordersContext brokenOrder
    repeat rw [String.toList_ofList]
    decide +kernel
  · unfold ordersContext brokenOrder
    repeat rw [String.toList_ofList]
    decide +kernel
  · exact (generate_without_skipped ordersContext_declares).2 [brokenOrder] wholeOrder

end RouteAtlas.Generator
