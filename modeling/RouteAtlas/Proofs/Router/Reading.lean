import RouteAtlas.Generator
import RouteAtlas.Proofs.Router.Locating

/-!
# Steps that read

Locating a router and finding the mounts of the main file do nothing but read texts and report what
they find. `Reading` says so of a step by the way it is put together: where it goes on behind a text
that the disk refuses, it does so by `catching` the refusal and no other failure. A property of such
steps is then proved once, by induction.
-/

set_option autoImplicit false

namespace RouteAtlas.Router

open Text

/-- Goes on with what a step gives, or behind a refusal of the disk. Other failures stay. -/
def catching {α β : Type} (step : Run α) (next : α → Run β) (refused : DiskError → Run β) : Run β := do
  match ← step.attempt with
  | .ok value => next value
  | .error (.reading (.disk error)) => refused error
  | .error failure => throw failure

/-- A step reads texts and reports something else than cyclic mounts, and does nothing else. -/
inductive Reading (reader : Reader) : {α : Type} → Run α → Prop where
  | pure {α : Type} (value : α) : Reading reader (pure value)
  | throw {α : Type} {failure : Failure} (hfailure : failure ≠ .tooDeep) :
      Reading reader (throw failure : Run α)
  | reportAll {events : List Event} (hevents : ∀ router chain, Event.cyclicMount router chain ∉ events) :
      Reading reader (Run.reportAll events)
  | read (path : Path) : Reading reader (read reader path)
  | bind {α β : Type} {step : Run α} {next : α → Run β} : Reading reader step →
      (∀ value, Reading reader (next value)) → Reading reader (step >>= next)
  | catching {α β : Type} {step : Run α} {next : α → Run β} {refused : DiskError → Run β} :
      Reading reader step → (∀ value, Reading reader (next value)) →
      (∀ error, Reading reader (refused error)) → Reading reader (catching step next refused)

section

variable {reader : Reader}

theorem readFirst_cons (path : Path) (rest : List Path) :
    readFirst reader (path :: rest) = catching (read reader path)
      (fun text => pure (some (path, text))) fun _ => readFirst reader rest := by
  rw [readFirst, catching]
  apply bind_congr
  intro outcome
  cases outcome with
  | ok text => rfl
  | error failure =>
      cases failure with
      | reading error => cases error <;> rfl
      | _ => rfl

theorem rootMounts_eq (context : Generator.Context) (file : Path) (basePath : String) :
    Generator.rootMounts context file basePath =
      catching (mountsIn context.reader file basePath.toList) pure
        fun error => throw (.routerFile file error) := by
  rw [Generator.rootMounts, catching]
  apply bind_congr
  intro outcome
  cases outcome with
  | ok mounts => rfl
  | error failure =>
      cases failure with
      | reading error => cases error <;> rfl
      | _ => rfl

theorem reading_report {event : Event} (h : ∀ router chain, event ≠ .cyclicMount router chain) :
    Reading reader (Run.report event) := by
  have hevents : ∀ router chain, Event.cyclicMount router chain ∉ [event] := by
    intro router chain hmem
    exact h router chain (List.mem_singleton.1 hmem).symm
  exact .reportAll hevents

theorem reading_readFirst (paths : List Path) : Reading reader (readFirst reader paths) := by
  induction paths with
  | nil => exact .pure none
  | cons path rest ih =>
      rw [readFirst_cons]
      exact .catching (.read path) (fun text => .pure _) fun _ => ih

/-- Locating a router is reading. -/
theorem reading_locate (schemaSuffix name : Text) (file : Path) :
    Reading reader (locate reader schemaSuffix name file) := by
  rw [locate]
  apply Reading.bind (.read file)
  intro code
  split
  · exact .pure _
  · split
    · exact .throw (by simp)
    · split
      · apply Reading.bind (reading_readFirst _)
        intro found
        split
        · exact .throw (by simp)
        · split
          · exact .throw (by simp)
          · exact .bind (reading_report (by simp)) fun _ => .pure _
      · exact .throw (by simp)

theorem reading_faults (faults : List Source.Fault) :
    Reading reader (Run.reportAll (faults.map Event.malformedMount)) := by
  apply Reading.reportAll
  simp

/-- Finding the mounts of the main file is reading. -/
theorem reading_rootMounts (context : Generator.Context) (file : Path) (basePath : String) :
    Reading context.reader (Generator.rootMounts context file basePath) := by
  have hmounts : Reading context.reader (mountsIn context.reader file basePath.toList) :=
    .bind (.read file) fun code => .bind (reading_faults _) fun _ => .pure _
  rw [rootMounts_eq]
  exact .catching hmounts .pure fun error => .throw (by simp)

end

end RouteAtlas.Router
