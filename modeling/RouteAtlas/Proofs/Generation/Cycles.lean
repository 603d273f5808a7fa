import RouteAtlas.Proofs.Generation.Expansion
import RouteAtlas.Proofs.Generation.Loading

/-!
# Mounts that are passed over as cyclic

A run compares the name by which a router is mounted with the names of the routers being expanded, and
passes over the mount where it finds the name among them. A run that succeeds reports exactly the
mounts that are met so in its expansions (`reported_generate`). Names alone do not tell routers apart:
where files define routers of the same name, a mount can be passed over that closes no cycle, and
`skips_iff` says when that does not happen.
-/

set_option autoImplicit false

namespace RouteAtlas.Generator

open Text Route Router Middleware Api Schema Step

/-- A session holds the report of a cyclic mount. -/
def Reported (router : Text) (chain : List Text) (session : Session) : Prop :=
  Event.cyclicMount router chain ∈ session.events

/-! ## Steps that report no cycles -/

/-- A step reports no cyclic mount, whether it succeeds or not. -/
def Quiet {α : Type} (step : Run α) : Prop :=
  ∀ session router chain, Reported router chain (final step session) ↔ Reported router chain session

section

variable {α β : Type}

theorem quiet_pure (value : α) : Quiet (pure value : Run α) := fun _ _ _ => Iff.rfl

theorem quiet_throw (failure : Failure) : Quiet (throw failure : Run α) := fun _ _ _ => Iff.rfl

theorem quiet_get : Quiet (get : Run Session) := fun _ _ _ => Iff.rfl

/-- A change that adds events other than cyclic mounts, if any. -/
theorem quiet_of_events {step : Run α} {new : Session → List Event}
    (hevents : ∀ session, (final step session).events = session.events ++ new session)
    (hnew : ∀ session router chain, Event.cyclicMount router chain ∉ new session) : Quiet step := by
  intro session router chain
  rw [Reported, hevents, List.mem_append]
  constructor
  · rintro (hold | hadded)
    · exact hold
    · exact absurd hadded (hnew session router chain)
  · exact .inl

theorem quiet_modify {change : Session → Session}
    (h : ∀ session, (change session).events = session.events) :
    Quiet (modify change : Run PUnit) := by
  intro session router chain
  show Event.cyclicMount router chain ∈ (change session).events ↔ _
  rw [h]
  exact Iff.rfl

theorem quiet_reportAll {events : List Event}
    (h : ∀ router chain, Event.cyclicMount router chain ∉ events) : Quiet (Run.reportAll events) :=
  quiet_of_events (fun _ => rfl) fun _ => h

theorem quiet_report {event : Event} (h : ∀ router chain, event ≠ .cyclicMount router chain) :
    Quiet (Run.report event) := by
  apply quiet_of_events (fun _ => rfl)
  intro session router chain hmem
  exact h router chain (List.mem_singleton.1 hmem).symm

theorem quiet_noMounts (file : Path) (roots : List Mount) :
    Quiet (if roots.isEmpty then Run.report (.noMounts file) else pure ()) := by
  split
  · exact quiet_report (by simp)
  · exact quiet_pure ()

theorem Quiet.bind {step : Run α} {next : α → Run β} (hstep : Quiet step)
    (hnext : ∀ value, Quiet (next value)) : Quiet (step >>= next) := by
  intro session router chain
  rcases final_bind step next session with ⟨failure, hfinal, -⟩ | ⟨value, -, hfinal⟩
  · rw [hfinal]
    exact hstep session router chain
  · rw [hfinal]
    exact (hnext value _ router chain).trans (hstep session router chain)

theorem Quiet.attempt {step : Run α} (h : Quiet step) : Quiet step.attempt := h

/-- A quiet step that succeeds leaves the reports alone. -/
theorem Quiet.of_yields {step : Run α} (h : Quiet step) {start stop : Session} {value : α}
    (hyields : Yields step start value stop) (router : Text) (chain : List Text) :
    Reported router chain stop ↔ Reported router chain start := by
  rw [← hyields.final_eq]
  exact h start router chain

theorem quiet_ofBuilding (outcome : Except BuildFault α) : Quiet (Run.ofBuilding outcome) := by
  cases outcome with
  | ok value => exact quiet_pure value
  | error fault => exact quiet_throw _

theorem quiet_load (provider : Provider) (reference : Reference) :
    Quiet (Run.load provider reference) := by
  apply quiet_of_events
  · intro session
    rw [final, result_load]
    rfl
  · intro session router chain hmem
    obtain ⟨file, -, hfile⟩ := List.mem_map.1 hmem
    cases hfile

theorem quiet_resolve (provider : Provider) (reference : Reference) :
    Quiet (Run.resolve provider reference) := by
  rw [Run.resolve]
  apply quiet_get.bind
  intro session
  split
  · exact quiet_pure _
  · apply (quiet_load provider reference).bind
    intro outcome
    split
    · exact (quiet_modify (by intro _; rfl)).bind fun _ => quiet_pure _
    · exact quiet_throw _
    · exact quiet_throw _
    · exact quiet_throw _

theorem quiet_synthesizedFor (custom : Custom) (slot : Slot) : Quiet (synthesizedFor custom slot) := by
  have hserial : Quiet Run.freshSerial := fun _ _ _ => Iff.rfl
  rw [synthesizedFor]
  apply quiet_get.bind
  intro session
  split
  · exact quiet_pure _
  · apply hserial.bind
    intro serial
    apply (quiet_ofBuilding _).bind
    intro model
    exact (quiet_modify (by intro _; rfl)).bind fun _ => quiet_pure _

theorem quiet_of_parallel {resolver other : Resolver} (hresolver : ∀ reference, Quiet (resolver reference))
    {step step' : Run α} (h : Parallel resolver other step step') : Quiet step := by
  induction h with
  | pure value => exact quiet_pure value
  | throw _ => exact quiet_throw _
  | report hevent => exact quiet_report hevent
  | freshSerial => exact fun _ _ _ => Iff.rfl
  | synthesizedFor custom slot => exact quiet_synthesizedFor custom slot
  | resolve reference => exact hresolver reference
  | bind _ _ hstep hnext => exact hstep.bind hnext

theorem quiet_recordOf (context : Context) (declaration : Declaration) (tag mount : Text)
    (token : Token) : Quiet (recordOf context declaration tag mount token) := by
  rw [← recordOfBy_resolve]
  exact quiet_of_parallel (quiet_resolve context.provider)
    (parallel_recordOf (Run.resolve context.provider) (Run.resolve context.provider) context.setup
      declaration tag mount token)

theorem quiet_register (record : Record) : Quiet (register record) := by
  apply quiet_of_events (fun _ => rfl)
  intro session router chain hmem
  rw [Document.registration] at hmem
  split at hmem
  · cases List.mem_singleton.1 hmem
  · cases hmem

theorem quiet_visitRoutes (context : Context) (declaration : Declaration) (tag mount : Text)
    (calls : List Token) : Quiet (visitRoutes context declaration tag mount calls) := by
  induction calls with
  | nil => exact quiet_pure ()
  | cons token rest ih =>
      rw [visitRoutes]
      apply (quiet_recordOf context declaration tag mount token).attempt.bind
      intro outcome
      cases outcome with
      | ok record => exact (quiet_register record).bind fun _ => ih
      | error failure =>
          cases failure with
          | structural fault => exact (quiet_report (by simp)).bind fun _ => ih
          | _ => exact (quiet_throw _).bind fun _ => ih

theorem quiet_read {reader : Reader} (path : Path) : Quiet (Router.read reader path) := by
  intro session router chain
  rw [final, result_read]
  cases session.texts.get? path with
  | some text => exact Iff.rfl
  | none =>
      cases reader path with
      | ok text => exact Iff.rfl
      | error error => exact Iff.rfl

theorem quiet_of_reading {reader : Reader} {step : Run α} (h : Reading reader step) : Quiet step := by
  induction h with
  | pure value => exact quiet_pure value
  | throw _ => exact quiet_throw _
  | reportAll hevents => exact quiet_reportAll hevents
  | read path => exact quiet_read path
  | bind _ _ hstep hnext => exact hstep.bind hnext
  | catching _ _ _ hstep hnext hrefused =>
      rw [catching]
      apply hstep.attempt.bind
      intro outcome
      split
      · exact hnext _
      · exact hrefused _
      · exact quiet_throw _

theorem quiet_faults (faults : List Source.Fault) :
    Quiet (Run.reportAll (faults.map Event.malformedMount)) := by
  apply quiet_reportAll
  intro router chain hmem
  obtain ⟨fault, -, hfault⟩ := List.mem_map.1 hmem
  cases hfault

theorem quiet_halt (halt : Option Halt) :
    Quiet (Run.reportAll (halt.map Event.halted).toList) := by
  apply quiet_reportAll
  intro router chain hmem
  cases halt with
  | none => cases hmem
  | some found => cases List.mem_singleton.1 hmem

end

/-! ## The mounts that are passed over -/

/-- While some routers are expanded, a mount on the innermost one is passed over for its name. -/
structure Skips (context : Context) (file : Path) (basePath : String) (outer : List Declaration)
    (current : Declaration) (mount : Mount) : Prop where
  expansion : Expansion context file basePath (outer ++ [current])
  mounted : mount ∈ mountsOn current
  known : mount.router ∈ namesOf (outer ++ [current])

/-- A mount is passed over in the expansions that go on from some routers. -/
def SkippedBelow (context : Context) (file : Path) (basePath : String) (start : List Declaration)
    (router : Text) (chain : List Text) : Prop :=
  ∃ outer current mount, Relation.ReflTransGen (Enters context file basePath) start (outer ++ [current]) ∧
    mount ∈ mountsOn current ∧ mount.router ∈ namesOf (outer ++ [current]) ∧
    mount.router = router ∧ namesOf (outer ++ [current]) = chain

/-- What a mount that stands in a file has to do with it: it is passed over itself, or a mount below
its router is. -/
def SkippedAt (context : Context) (file : Path) (basePath : String) (stack : List Declaration)
    (origin : Path) (mount : Mount) (router : Text) (chain : List Text) : Prop :=
  (mount.router ∈ namesOf stack ∧ mount.router = router ∧ namesOf stack = chain) ∨
    mount.router ∉ namesOf stack ∧ ∃ declaration,
      located context.reader context.schemaSuffix.toList mount.router origin = .ok declaration ∧
      SkippedBelow context file basePath (stack ++ [declaration]) router chain

section

variable {context : Context} {file : Path} {basePath : String} {router : Text} {chain : List Text}
  {start stop : Session}

theorem SkippedBelow.of_enters {outer stack : List Declaration}
    (hstep : Enters context file basePath outer stack)
    (h : SkippedBelow context file basePath stack router chain) :
    SkippedBelow context file basePath outer router chain := by
  obtain ⟨deeper, current, mount, hreaches, hskipped⟩ := h
  exact ⟨deeper, current, mount, hreaches.head hstep, hskipped⟩

/-- **What is passed over from a router on** is passed over at one of the mounts on it. -/
theorem skippedBelow_concat_iff {outer : List Declaration} {current : Declaration} :
    SkippedBelow context file basePath (outer ++ [current]) router chain ↔
      ∃ inner ∈ mountsOn current,
        SkippedAt context file basePath (outer ++ [current]) current.file inner router chain := by
  constructor
  · rintro ⟨deeper, top, mount, hreaches, hmount, hknown, hrouter, hchain⟩
    rcases Relation.ReflTransGen.cases_head hreaches with hsame | ⟨stack, hstep, hrest⟩
    · obtain ⟨rfl, hcurrent⟩ := List.append_inj' hsame rfl
      cases hcurrent
      exact ⟨mount, hmount, .inl ⟨hknown, hrouter, hchain⟩⟩
    · obtain ⟨inner, origin, declaration, hfollows, hlocated, rfl⟩ := hstep
      obtain ⟨⟨hinner, hfresh⟩, rfl⟩ := follows_concat_iff.1 hfollows
      exact ⟨inner, hinner, .inr ⟨hfresh, declaration, hlocated, deeper, top, mount, hrest, hmount,
        hknown, hrouter, hchain⟩⟩
  · rintro ⟨inner, hinner, ⟨hknown, hrouter, hchain⟩ | ⟨hfresh, declaration, hlocated, hbelow⟩⟩
    · exact ⟨outer, current, inner, .refl, hinner, hknown, hrouter, hchain⟩
    · refine hbelow.of_enters ⟨inner, current.file, declaration, ?_, hlocated, rfl⟩
      exact follows_concat_iff.2 ⟨⟨hinner, hfresh⟩, rfl⟩

/-- What is passed over in a run is so from one of the mounts of the main file on. -/
theorem skippedBelow_nil_iff :
    SkippedBelow context file basePath [] router chain ↔
      ∃ root ∈ mainMounts context file basePath, ∃ declaration,
        located context.reader context.schemaSuffix.toList root.router file = .ok declaration ∧
        SkippedBelow context file basePath [declaration] router chain := by
  constructor
  · rintro ⟨deeper, top, mount, hreaches, hskipped⟩
    rcases Relation.ReflTransGen.cases_head hreaches with hsame | ⟨stack, hstep, hrest⟩
    · simp at hsame
    · obtain ⟨root, origin, declaration, hfollows, hlocated, rfl⟩ := hstep
      obtain ⟨hroot, rfl⟩ := follows_nil_iff.1 hfollows
      exact ⟨root, hroot, declaration, hlocated, deeper, top, mount, hrest, hskipped⟩
  · rintro ⟨root, hroot, declaration, hlocated, hbelow⟩
    exact hbelow.of_enters ⟨root, file, declaration, .root hroot, hlocated, rfl⟩

/-! ## What a run reports -/

/-- Runs of a depth report what is passed over in the expansions from a router on. -/
def Reports (context : Context) (file : Path) (basePath : String) (depth : Nat) : Prop :=
  ∀ (outer : List Declaration) (name under : Text) (origin : Path) (start stop : Session),
    Router.Faithful context.reader start →
    Yields (visitRouter context depth name under origin (namesOf outer)) start () stop →
    ∀ router chain, Reported router chain stop ↔ Reported router chain start ∨ ∃ declaration,
      located context.reader context.schemaSuffix.toList name origin = .ok declaration ∧
      SkippedBelow context file basePath (outer ++ [declaration]) router chain

theorem reported_visitMounts {depth : Nat} (hreports : Reports context file basePath depth)
    {stack : List Declaration} {under : Text} {origin : Path} {list : List Mount}
    (hfaithful : Router.Faithful context.reader start)
    (h : Yields (visitMounts context depth under origin (namesOf stack) list) start () stop) :
    Reported router chain stop ↔ Reported router chain start ∨
      ∃ inner ∈ list, SkippedAt context file basePath stack origin inner router chain := by
  induction list generalizing start with
  | nil =>
      rw [visitMounts] at h
      cases h
      simp
  | cons inner rest ih =>
      obtain ⟨middle, ⟨hcyclic, hreport⟩ | ⟨hfresh, hrouter⟩, hrest⟩ := yields_visitMounts_cons.1 h
      · have hknown : inner.router ∈ namesOf stack := by simpa using hcyclic
        obtain ⟨-, hfaithful', -⟩ := (answers_report _).of_yields hfaithful hreport
        have hmiddle : Reported router chain middle ↔ Reported router chain start ∨
            SkippedAt context file basePath stack origin inner router chain := by
          cases hreport
          simp [Reported, SkippedAt, hknown, eq_comm]
        rw [ih hfaithful' hrest, hmiddle]
        simp [or_assoc]
      · have hunknown : inner.router ∉ namesOf stack := by simpa using hfresh
        have hmiddle : Reported router chain middle ↔ Reported router chain start ∨
            SkippedAt context file basePath stack origin inner router chain := by
          rw [hreports stack _ _ _ _ _ hfaithful hrouter]
          simp [SkippedAt, hunknown]
        rw [ih (faithful_of_visitRouter hfaithful hrouter) hrest, hmiddle]
        simp [or_assoc]

/-- **A run reports what it passes over**, at every depth at which it succeeds. -/
theorem reports (context : Context) (file : Path) (basePath : String) (depth : Nat) :
    Reports context file basePath depth := by
  induction depth with
  | zero =>
      intro outer name under origin start stop _ h
      rw [visitRouter] at h
      exact absurd h not_yields_throw
  | succ depth ih =>
      intro outer name under origin start stop hfaithful h router chain
      have hlocate : Answers context.reader
          (locate context.reader context.schemaSuffix.toList name origin) _ := answers_locate _ _ _
      have hquietly : Quiet (locate context.reader context.schemaSuffix.toList name origin).attempt :=
        (quiet_of_reading (reading_locate _ name origin)).attempt
      rcases yields_visitRouter.1 h with ⟨missing, target, s₁, hattempt, hreport⟩ |
        ⟨declaration, s₁, s₂, s₃, s₄, s₅, hattempt, hmounted, hhalted, hroutes, hmalformed, hmounts⟩
      · obtain ⟨houtcome, -, -⟩ := hlocate.attempt.of_yields hfaithful hattempt
        rw [(quiet_report (by simp)).of_yields hreport, hquietly.of_yields hattempt router chain,
          Except.ok.inj houtcome]
        simp
      -- all that is reported before the mounts are taken is no cycle
      · obtain ⟨houtcome, hfaithful₁, -⟩ := hlocate.attempt.of_yields hfaithful hattempt
        obtain ⟨-, hfaithful₂, -⟩ := (answers_report _).of_yields hfaithful₁ hmounted
        obtain ⟨-, hfaithful₃, -⟩ := (answers_reportAll _).of_yields hfaithful₂ hhalted
        obtain ⟨htexts, -⟩ :=
          @followed_of_visitRoutes _ _ _ [] _ { router := name, path := under } _ hroutes
        obtain ⟨-, hfaithful₅, -⟩ := (answers_reportAll _).of_yields
          (faithful_of_texts hfaithful₃ htexts) hmalformed
        have hquiet : Reported router chain s₅ ↔ Reported router chain start :=
          calc Reported router chain s₅
            _ ↔ Reported router chain s₄ := (quiet_faults _).of_yields hmalformed router chain
            _ ↔ Reported router chain s₃ :=
              (quiet_visitRoutes context declaration name under _).of_yields hroutes router chain
            _ ↔ Reported router chain s₂ := (quiet_halt _).of_yields hhalted router chain
            _ ↔ Reported router chain s₁ :=
              (quiet_report (by simp)).of_yields hmounted router chain
            _ ↔ Reported router chain start := hquietly.of_yields hattempt router chain
        rw [← namesOf_concat] at hmounts
        rw [reported_visitMounts ih hfaithful₅ hmounts, hquiet, Except.ok.inj houtcome]
        simp only [Except.ok.injEq, exists_eq_left', skippedBelow_concat_iff, mountsOn]

theorem reported_visitRoots (basePath : String) {depth : Nat} {roots : List Mount}
    (hfaithful : Router.Faithful context.reader start)
    (h : Yields (visitRoots context depth file roots) start () stop) :
    Reported router chain stop ↔ Reported router chain start ∨
      ∃ root ∈ roots, ∃ declaration,
        located context.reader context.schemaSuffix.toList root.router file = .ok declaration ∧
        SkippedBelow context file basePath [declaration] router chain := by
  induction roots generalizing start with
  | nil =>
      cases h
      simp
  | cons root rest ih =>
      rw [visitRoots] at h
      obtain ⟨_, middle, hrouter, hrest⟩ := yields_bind.1 h
      have hmiddle := reports context file basePath depth [] _ _ _ _ _ hfaithful hrouter router chain
      rw [ih (faithful_of_visitRouter hfaithful hrouter) hrest, hmiddle]
      simp [or_assoc]

/-- **The cycles that a run reports** are the mounts passed over in its expansions. -/
theorem reported_generate {depth : Nat} {schemes : List SecurityScheme} {document : Document}
    (h : Yields (generate context depth file basePath schemes) {} document stop) :
    Reported router chain stop ↔ ∃ outer current mount, Skips context file basePath outer current mount ∧
      mount.router = router ∧ namesOf (outer ++ [current]) = chain := by
  have hskips : SkippedBelow context file basePath [] router chain ↔ ∃ outer current mount,
      Skips context file basePath outer current mount ∧ mount.router = router ∧
        namesOf (outer ++ [current]) = chain := by
    constructor
    · rintro ⟨outer, current, mount, hreaches, hmount, hknown, hskipped⟩
      exact ⟨outer, current, mount, ⟨hreaches, hmount, hknown⟩, hskipped⟩
    · rintro ⟨outer, current, mount, hskips, hskipped⟩
      exact ⟨outer, current, mount, hskips.expansion, hskips.mounted, hskips.known, hskipped⟩
  rw [← hskips, skippedBelow_nil_iff]
  obtain ⟨s₁, roots, s₂, s₃, hschemes, hroots, hreport, hvisits, -⟩ := yields_generate_iff.1 h
  have hfaithful₁ : Router.Faithful context.reader s₁ := by
    cases hschemes
    exact faithful_empty context.reader
  have hnone : ¬ Reported router chain s₁ := by
    cases hschemes
    exact List.not_mem_nil
  have hmain := (quiet_of_reading (reading_rootMounts context file basePath)).of_yields hroots router chain
  obtain ⟨code, hcode⟩ := textOf_of_rootMounts hfaithful₁ hroots
  obtain ⟨hmounts, hfaithful₂, -⟩ := (answers_rootMounts hcode).of_yields hfaithful₁ hroots
  rw [Except.ok.injEq] at hmounts
  obtain ⟨-, hfaithful₃, -⟩ := (answers_noMounts file roots).of_yields hfaithful₂ hreport
  rw [reported_visitRoots basePath hfaithful₃ hvisits,
    (quiet_noMounts file roots).of_yields hreport, hmain]
  simp [mainMounts, hcode, hmounts, hnone]

end

/-! ## Mounts that close a cycle -/

/-- A mount on the innermost router denotes one of the routers being expanded: locating it from the
file it stands in gives the file and the name of one of them. -/
def ClosesCycle (context : Context) (outer : List Declaration) (current : Declaration)
    (mount : Mount) : Prop :=
  ∃ declaration, located context.reader context.schemaSuffix.toList mount.router current.file =
      .ok declaration ∧
    ∃ ancestor ∈ outer ++ [current], ancestor.file = declaration.file ∧ ancestor.name = declaration.name

/-- No mount that a run meets denotes a router which is defined in another file than a router of the
same name that is being expanded. -/
def NoHomonyms (context : Context) (file : Path) (basePath : String) : Prop :=
  ∀ outer current mount declaration ancestor, Expansion context file basePath (outer ++ [current]) →
    mount ∈ mountsOn current →
    located context.reader context.schemaSuffix.toList mount.router current.file = .ok declaration →
    ancestor ∈ outer ++ [current] → ancestor.name = declaration.name → ancestor.file = declaration.file

/-- **Which mounts are passed over as cyclic.** A run that succeeds reports a cycle exactly for the
mounts on an expanded router whose name is that of a router being expanded. Where routers are located
by the name they are defined with, the mounts that close a cycle are among them, and those of them that
can be located all close a cycle exactly when no router of the same name in another file is met. -/
theorem skips_iff {context : Context} {depth : Nat} {file : Path} {basePath : String}
    {schemes : List SecurityScheme} {document : Document} {stop : Session}
    (h : Yields (generate context depth file basePath schemes) {} document stop) :
    (∀ router chain, Event.cyclicMount router chain ∈ stop.events ↔
      ∃ outer current mount, Skips context file basePath outer current mount ∧
        mount.router = router ∧ namesOf (outer ++ [current]) = chain) ∧
    (LocatesByName context →
      (∀ outer current mount, Expansion context file basePath (outer ++ [current]) →
        mount ∈ mountsOn current → ClosesCycle context outer current mount →
        Skips context file basePath outer current mount) ∧
      ((∀ outer current mount declaration, Skips context file basePath outer current mount →
          located context.reader context.schemaSuffix.toList mount.router current.file =
            .ok declaration →
          ClosesCycle context outer current mount) ↔
        NoHomonyms context file basePath)) := by
  refine ⟨fun router chain => reported_generate h, fun hnamed => ⟨?_, ?_, ?_⟩⟩
  · rintro outer current mount hexpansion hmount ⟨declaration, hlocated, ancestor, hancestor, -, hname⟩
    refine ⟨hexpansion, hmount, ?_⟩
    rw [hnamed.name_eq hlocated] at hname
    exact List.mem_map.2 ⟨ancestor, hancestor, hname⟩
  · intro hcloses outer current mount declaration ancestor hexpansion hmount hlocated hancestor hname
    have hknown : mount.router ∈ namesOf (outer ++ [current]) := by
      rw [← hnamed.name_eq hlocated, ← hname]
      exact List.mem_map_of_mem hancestor
    obtain ⟨found, hfound, other, hother, hfile, hothername⟩ :=
      hcloses outer current mount declaration ⟨hexpansion, hmount, hknown⟩ hlocated
    cases hlocated.symm.trans hfound
    -- the names of an expansion are distinct, so the two routers of that name are one
    have hsame : ancestor = other :=
      List.inj_on_of_nodup_map (hexpansion.nodup hnamed) hancestor hother (hname.trans hothername.symm)
    rw [hsame, hfile]
  · intro hnone outer current mount declaration hskips hlocated
    obtain ⟨ancestor, hancestor, hname⟩ := List.mem_map.1 hskips.known
    rw [← hnamed.name_eq hlocated] at hname
    exact ⟨declaration, hlocated, ancestor, hancestor, hnone outer current mount declaration ancestor
      hskips.expansion hskips.mounted hlocated hancestor hname, hname⟩

theorem ring_succeeds : ∃ document stop,
    Yields (generate ringContext 3 (Path.ofString "main.ts") "" []) {} document stop := by
  have hdocument : ∃ document ∈ (result (generate ringContext 3 (Path.ofString "main.ts") "" [])
      {}).1.toOption.toList, document.endpoints.keys = [] := by
    rw [← generateBy_resolve]
    decide +kernel
  obtain ⟨document, hmem, -⟩ := hdocument
  exact ⟨document, _, yields_of_mem_toOption hmem⟩

/-- The mount that leads back to the first router of a ring closes a cycle and is reported. -/
theorem ring_skips : ∃ document stop,
    Yields (generate ringContext 3 (Path.ofString "main.ts") "" []) {} document stop ∧
      ∃ outer current mount, ClosesCycle ringContext outer current mount ∧
        Skips ringContext (Path.ofString "main.ts") "" outer current mount ∧
        Event.cyclicMount mount.router (namesOf (outer ++ [current])) ∈ stop.events := by
  obtain ⟨document, stop, h⟩ := ring_succeeds
  obtain ⟨hreported, hexact⟩ := skips_iff h
  obtain ⟨first, second, mount, again, hstack, -, hmount, hagain, hfile, hname⟩ := exists_ring
  have hcloses : ClosesCycle ringContext [first] second mount :=
    ⟨again, hagain, first, List.mem_cons_self, hfile, hname⟩
  have hskips := (hexact ringContext_locatesByName).1 [first] second mount hstack hmount hcloses
  exact ⟨document, stop, h, [first], second, mount, hcloses, hskips,
    (hreported _ _).2 ⟨[first], second, mount, hskips, rfl, rfl⟩⟩

/-! ## Routers of the same name in two files -/

/-- An outer router, a router mounted on it, and one mounted on that which is defined in another file
under the name of the outer one. -/
def homonymFiles : Table Path Text :=
  [(Path.ofString "main.ts", "import { api } from './api';\napp.use('/api', api.routes());\n".toList),
   (Path.ofString "api.ts", ("import { users } from './users';\nconst api = new Router();\n" ++
      "api.use('/users', users.routes());\n").toList),
   (Path.ofString "users.ts", ("import { api } from './inner/api';\nconst users = new Router();\n" ++
      "users.use('/inner', api.routes());\n").toList),
   (Path.ofString "inner/api.ts", "const api = new Router();\napi.get('/list', list);\n".toList)]

/-- A run over these files. -/
def homonymContext : Context where
  reader := fun path =>
    match homonymFiles.get? path with
    | some text => .ok text
    | none => .error (.disk (.missing path))
  provider := tableProvider []

theorem homonym_succeeds : ∃ document stop,
    Yields (generate homonymContext 4 (Path.ofString "main.ts") "" []) {} document stop ∧
      document.endpoints.keys = [] := by
  have hdocument : ∃ document ∈ (result (generate homonymContext 4 (Path.ofString "main.ts") "" [])
      {}).1.toOption.toList, document.endpoints.keys = [] := by
    rw [← generateBy_resolve]
    -- the texts are read character by character only once
    unfold homonymContext homonymFiles
    simp only [String.toList_append]
    repeat rw [String.toList_ofList]
    decide +kernel
  obtain ⟨document, hmem, hkeys⟩ := hdocument
  exact ⟨document, _, yields_of_mem_toOption hmem, hkeys⟩

/-- While the users are expanded, the router mounted on them is another one than those being expanded,
with a route of its own and the name of the outer one. -/
theorem exists_homonym : ∃ first second mount declaration,
    Expansion homonymContext (Path.ofString "main.ts") "" ([first] ++ [second]) ∧
      mount ∈ mountsOn second ∧ mount.router ∈ namesOf ([first] ++ [second]) ∧
      located homonymContext.reader homonymContext.schemaSuffix.toList mount.router second.file =
        .ok declaration ∧
      (tokens declaration.span (some declaration.name)).tokens.isEmpty = false ∧
      ∀ ancestor ∈ [first] ++ [second], ancestor.file ≠ declaration.file := by
  have hnested : ∃ root ∈ mainMounts homonymContext (Path.ofString "main.ts") "",
      ∃ first ∈ (located homonymContext.reader homonymContext.schemaSuffix.toList root.router
        (Path.ofString "main.ts")).toOption.toList,
      ∃ below ∈ openMounts first [first.name],
      ∃ second ∈ (located homonymContext.reader homonymContext.schemaSuffix.toList below.router
        first.file).toOption.toList,
      ∃ mount ∈ mountsOn second, mount.router ∈ namesOf ([first] ++ [second]) ∧
      ∃ declaration ∈ (located homonymContext.reader homonymContext.schemaSuffix.toList mount.router
        second.file).toOption.toList,
      (tokens declaration.span (some declaration.name)).tokens.isEmpty = false ∧
      ∀ ancestor ∈ [first] ++ [second], ancestor.file ≠ declaration.file := by
    unfold homonymContext homonymFiles
    simp only [String.toList_append]
    repeat rw [String.toList_ofList]
    decide +kernel
  obtain ⟨root, hroot, first, hfirst, below, hbelow, second, hsecond, mount, hmount, hknown,
    declaration, hdeclaration, htokens, hfiles⟩ := hnested
  exact ⟨first, second, mount, declaration, expansion_pair hroot (eq_ok_of_mem_toOption hfirst) hbelow
    (eq_ok_of_mem_toOption hsecond), hmount, hknown, eq_ok_of_mem_toOption hdeclaration, htokens, hfiles⟩

/-- The inner router closes no cycle, for it is located in a file of its own, and yet its mount is
passed over as cyclic: the route on it is missing from the document. -/
theorem homonym_skipped : ∃ document stop outer current mount declaration,
    Yields (generate homonymContext 4 (Path.ofString "main.ts") "" []) {} document stop ∧
      Skips homonymContext (Path.ofString "main.ts") "" outer current mount ∧
      Event.cyclicMount mount.router (namesOf (outer ++ [current])) ∈ stop.events ∧
      located homonymContext.reader homonymContext.schemaSuffix.toList mount.router current.file =
        .ok declaration ∧
      (tokens declaration.span (some declaration.name)).tokens.isEmpty = false ∧
      document.endpoints.keys = [] ∧
      ¬ ClosesCycle homonymContext outer current mount := by
  obtain ⟨document, stop, h, hkeys⟩ := homonym_succeeds
  obtain ⟨first, second, mount, declaration, hstack, hmount, hknown, hlocated, htokens, hfiles⟩ :=
    exists_homonym
  have hskips : Skips homonymContext (Path.ofString "main.ts") "" [first] second mount :=
    ⟨hstack, hmount, hknown⟩
  refine ⟨document, stop, [first], second, mount, declaration, h, hskips,
    (reported_generate h).2 ⟨[first], second, mount, hskips, rfl, rfl⟩, hlocated, htokens, hkeys, ?_⟩
  rintro ⟨found, hfound, ancestor, hancestor, hfile, -⟩
  cases hlocated.symm.trans hfound
  exact hfiles ancestor hancestor hfile

end RouteAtlas.Generator
