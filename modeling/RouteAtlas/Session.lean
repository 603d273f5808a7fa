import RouteAtlas.Api.Document
import RouteAtlas.Failure
import RouteAtlas.Schema.Reference

/-!
# Sessions

The state of one run: the texts read so far, the schemas resolved and synthesized so far, the document
being assembled and the events reported. A step of a run may fail, and what it did to the state before
it failed stays done.
-/

set_option autoImplicit false

namespace RouteAtlas

open Schema Api

/-- The state of a run. -/
structure Session where
  /-- Texts by the path they were read from. -/
  texts : Table Path Text := []
  /-- The paths handed to the reader, in order. -/
  requests : List Path := []
  /-- Models by the reference they were resolved from. -/
  resolved : Table Reference Model := []
  /-- The references handed to the provider, in order. -/
  loads : List Reference := []
  /-- The module files already reported as loaded. -/
  opened : List String := []
  /-- Models synthesized for a custom middleware and slot. -/
  synthesized : Table (String × Slot) Model := []
  /-- The serial number of the next composed model. -/
  serial : Nat := 0
  document : Document := {}
  events : List Event := []
  deriving Inhabited

/-- A step of a run. -/
abbrev Run := ExceptT Failure (StateM Session)

namespace Run

/-- Reports an event. -/
def report (event : Event) : Run Unit :=
  modify fun session => { session with events := session.events ++ [event] }

/-- Reports several events. -/
def reportAll (events : List Event) : Run Unit :=
  modify fun session => { session with events := session.events ++ events }

/-- Takes the outcome of reading source text as a step. -/
def ofSource {α : Type} (outcome : Except Source.Fault α) : Run α :=
  match outcome with
  | .ok value => pure value
  | .error fault => throw (.structural fault)

/-- Takes the outcome of building a model as a step. -/
def ofBuilding {α : Type} (outcome : Except BuildFault α) : Run α :=
  match outcome with
  | .ok value => pure value
  | .error fault => throw (.unbuildable fault)

/-- Runs a step and hands out its outcome instead of failing. -/
def attempt {α : Type} (step : Run α) : Run (Except Failure α) :=
  (step.run : StateM Session (Except Failure α))

/-- A serial number not used before. -/
def freshSerial : Run Nat := do
  let session ← get
  set { session with serial := session.serial + 1 }
  pure session.serial

/-- Asks the provider for a reference and keeps account of it. -/
def load (provider : Provider) (reference : Reference) : Run (Except LoadFault Model) := do
  let loading := provider reference
  modify fun session => { session with loads := session.loads ++ [reference] }
  match loading.opened with
  | none => pure ()
  | some file =>
      if (← get).opened.contains file then pure ()
      else do
        modify fun session => { session with opened := session.opened ++ [file] }
        report (.moduleLoaded file)
  pure loading.outcome

/-- The model of a reference, loaded at most once. -/
def resolve (provider : Provider) (reference : Reference) : Run Model := do
  match (← get).resolved.get? reference with
  | some model => pure model
  | none =>
      match ← load provider reference with
      | .ok model =>
          modify fun session => { session with resolved := session.resolved.put reference model }
          pure model
      | .error (.notFound reason) => throw (.unresolved reference reason)
      | .error (.nameless path) => throw (.nameless path)
      | .error (.refused error) => throw (.reading (.disk error))

end Run

end RouteAtlas
