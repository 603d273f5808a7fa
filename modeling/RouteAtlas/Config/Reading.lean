import RouteAtlas.Path
import RouteAtlas.Yaml.Value

/-!
# Reading settings

Settings are read from the values of a document. A reading always gives a value, and collects what is
wrong with the settings, each finding with the keys and indices that lead to it, in the order in which
the settings are declared. Nothing but text is taken for text; text in bytes must be valid UTF-8.
-/

set_option autoImplicit false

namespace RouteAtlas.Config

open Yaml

/-- One step to a setting: a key of a mapping or an index of a list. -/
inductive Step where
  | key (name : String)
  | index (position : Nat)
  deriving DecidableEq, Repr, Inhabited

/-- What can be wrong with a setting. -/
inductive Issue where
  | missing
  | notText
  | undecodable
  | notPath
  | notList
  | notMapping
  deriving DecidableEq, Repr, Inhabited

/-- An issue and where it was found. -/
structure Finding where
  location : List Step
  issue : Issue
  deriving DecidableEq, Repr, Inhabited

/-- A value read from settings, with everything that is wrong with them. -/
structure Reading (α : Type) where
  value : α
  findings : List Finding := []
  deriving Inhabited

namespace Reading

/-- A value with one finding. -/
def flaw {α : Type} (value : α) (issue : Issue) : Reading α := ⟨value, [⟨[], issue⟩]⟩

/-- Findings of both readings are kept, those of the first one first. -/
def andThen {α β : Type} (first : Reading α) (next : α → Reading β) : Reading β :=
  let second := next first.value
  ⟨second.value, first.findings ++ second.findings⟩

instance : Monad Reading where
  pure value := ⟨value, []⟩
  bind := andThen

/-- The reading one step further out. -/
def within {α : Type} (step : Step) (reading : Reading α) : Reading α :=
  { reading with
    findings := reading.findings.map fun finding =>
      { finding with location := step :: finding.location } }

/-- The value where nothing is wrong, and the findings otherwise. -/
def result {α : Type} (reading : Reading α) : Except (List Finding) α :=
  if reading.findings.isEmpty then .ok reading.value else .error reading.findings

end Reading

/-- Reads a text. -/
def readText : Value → Reading String
  | .text value => pure value
  | .binary bytes =>
      match String.fromUTF8? ⟨bytes.toArray⟩ with
      | some value => pure (String.ofList (Text.spelled value.toList))
      | none => .flaw "" .undecodable
  | _ => .flaw "" .notText

/-- Reads a path. -/
def readPath : Value → Reading Path
  | .text value => pure (Path.ofString value)
  | _ => .flaw default .notPath

/-- Reads a value that may be null. -/
def readOptional {α : Type} (read : Value → Reading α) : Value → Reading (Option α)
  | .null => pure none
  | value => do
      let value ← read value
      pure (some value)

/-- Reads the items of a list of a document from an index on. -/
def readItems {α : Type} (document : Document) (read : Value → Reading α) :
    Nat → List Item → Reading (List α)
  | _, [] => pure []
  | position, item :: rest => do
      let item ← (read (document.value item)).within (.index position)
      let items ← readItems document read (position + 1) rest
      pure (item :: items)

/-- Reads a list of a document. -/
def readList {α : Type} (document : Document) (read : Value → Reading α) :
    Value → Reading (List α)
  | .list items => readItems document read 0 items
  | .set items => readItems document read 0 items
  | _ => .flaw [] .notList

/-- The settings of a mapping under their names, and the document they stand in. -/
structure Settings where
  document : Document
  entries : Table String Item
  deriving Inhabited

/-- The value of a setting. -/
def Settings.get? (settings : Settings) (name : String) : Option Value :=
  (settings.entries.get? name).map settings.document.value

/-- Reads a mapping of a document. -/
def readMapping {α : Type} [Inhabited α] (document : Document) (read : Settings → Reading α) :
    Value → Reading α
  | .mapping entries _ => read ⟨document, entries⟩
  | _ => .flaw default .notMapping

/-- Reads a setting that has a default. -/
def setting {α : Type} (settings : Settings) (name : String) (read : Value → Reading α)
    (otherwise : α) : Reading α :=
  match settings.get? name with
  | some value => (read value).within (.key name)
  | none => pure otherwise

/-- Reads a setting that must be there. -/
def required {α : Type} [Inhabited α] (settings : Settings) (name : String)
    (read : Value → Reading α) : Reading α :=
  match settings.get? name with
  | some value => (read value).within (.key name)
  | none => (Reading.flaw default .missing).within (.key name)

end RouteAtlas.Config
