import RouteAtlas.Yaml.Character

/-!
# Tokens of YAML documents

The tokens between which the grammar of a document is stated, the causes for which reading fails, and
the tags of nodes. A tag is written with a handle that stands for the start of its name, or in full.
-/

set_option autoImplicit false

namespace RouteAtlas.Yaml

/-- Why a document could not be read. -/
inductive Fault where
  /-- The text is no document, or a node does not fit its tag. -/
  | malformed
  /-- A scalar is written like a value of its kind and denotes none. -/
  | outOfRange (message : String)
  /-- A number is too large to be worked with. -/
  | tooLarge
  /-- A scalar tagged as a truth value is none. -/
  | notBoolean
  /-- A scalar tagged as a number is empty. -/
  | emptyNumber
  /-- A scalar tagged as a point in time is none. -/
  | notMoment
  /-- A mapping is tagged as a point in time. -/
  | notScalar
  /-- Nodes are nested too deeply, or without an end. -/
  | tooDeep
  deriving DecidableEq, Repr, Inhabited

/-- A tag as written: a handle and the rest of the name, or the whole name. -/
structure TagText where
  handle : Option Text
  suffix : Text
  deriving DecidableEq, Repr, Inhabited

/-- A directive in front of a document. -/
inductive Directive where
  /-- The version of the format. -/
  | version (major : Nat)
  /-- What a tag handle stands for. -/
  | handle (name meaning : Text)
  | other
  deriving DecidableEq, Repr, Inhabited

/-- A token of a document. -/
inductive Token where
  | directive (value : Directive)
  | documentStart
  | documentEnd
  | blockSequenceStart
  | blockMappingStart
  | blockEnd
  | flowSequenceStart
  | flowSequenceEnd
  | flowMappingStart
  | flowMappingEnd
  | flowEntry
  | blockEntry
  | key
  | value
  | reference (name : Text)
  | anchor (name : Text)
  | tag (value : TagText)
  | scalar (text : Text) (isPlain : Bool)
  deriving DecidableEq, Repr, Inhabited

end RouteAtlas.Yaml
