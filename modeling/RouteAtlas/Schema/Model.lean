import RouteAtlas.Json.Basic

/-!
# Schema models

A model is a named record type: a list of fields, each with a type, a name under which it appears in
documents, an optional default and constraints. Field types nest freely and may refer to other models,
so a model carries everything it is made of and cannot be recursive. A model can also stand for a
given JSON schema, without fields. Models are told apart by their identity, not by their contents: two
declarations with the same contents are two models.
-/

set_option autoImplicit false

namespace RouteAtlas.Schema

/-- Which model a value is: a declaration of some source, or the result of a construction. -/
inductive Identity where
  | declared (home key : String)
  | built (serial : Nat)
  deriving DecidableEq, Repr, Inhabited

/-- What a model does with keys it does not declare. -/
inductive Extra where
  | ignore
  | allow
  | forbid
  deriving DecidableEq, Repr, Inhabited

/-- Bounds on the values of a field. -/
structure Constraints where
  minimum : Option Number := none
  exclusiveMinimum : Option Number := none
  maximum : Option Number := none
  exclusiveMaximum : Option Number := none
  minLength : Option Number := none
  maxLength : Option Number := none
  pattern : Option String := none
  deriving Repr, Inhabited

/-- A bound is set on the size of values. -/
def Constraints.hasBound (constraints : Constraints) : Bool :=
  constraints.minimum.isSome || constraints.exclusiveMinimum.isSome
    || constraints.maximum.isSome || constraints.exclusiveMaximum.isSome

/-- A bound is set on the length of values. -/
def Constraints.hasLength (constraints : Constraints) : Bool :=
  constraints.minLength.isSome || constraints.maxLength.isSome

/-- The settings of a field beside its type. -/
structure Settings where
  /-- The name of the field in documents, when it is not the member name. -/
  publicName : Option String := none
  fallback : Option Json := none
  description : Option String := none
  constraints : Constraints := {}
  /-- The example value shown for the field. -/
  shownExample : Option String := none
  deriving Repr, Inhabited

mutual

/-- The type of a field. -/
inductive FieldType where
  | text
  | integer
  | number
  | boolean
  | bytes
  | anything
  | nothing
  | list (item : FieldType)
  | mapping (value : FieldType)
  | optional (inner : FieldType)
  | union (options : List FieldType)
  | literal (values : List Json)
  | model (model : Model)

/-- A field of a model: its member name, its type and its settings. -/
inductive Field where
  | mk (member : String) (type : FieldType) (settings : Settings)

/-- A model: a record of fields, or a given schema. -/
inductive Model where
  | record (identity : Identity) (name : String) (doc : Option String) (extra : Extra)
      (fields : List Field)
  | given (identity : Identity) (name : String) (schema : Json)

end

instance : Inhabited FieldType := ⟨.anything⟩

instance : Inhabited Field := ⟨.mk "" .anything {}⟩

instance : Inhabited Model := ⟨.record default "" none .ignore []⟩

namespace Field

/-- The member name of a field. -/
def member : Field → String
  | .mk member _ _ => member

/-- The type of a field. -/
def type : Field → FieldType
  | .mk _ type _ => type

/-- The settings of a field. -/
def settings : Field → Settings
  | .mk _ _ settings => settings

/-- The name under which a field appears in documents. -/
def key (field : Field) : String :=
  field.settings.publicName.getD field.member

/-- A field without a default has to be given. -/
def isRequired (field : Field) : Bool := field.settings.fallback.isNone

end Field

namespace Model

/-- Which model this is. -/
def identity : Model → Identity
  | .record identity _ _ _ _ => identity
  | .given identity _ _ => identity

/-- The name of a model. -/
def name : Model → String
  | .record _ name _ _ _ => name
  | .given _ name _ => name

/-- The fields of a model; a given schema has none. -/
def fields : Model → List Field
  | .record _ _ _ _ fields => fields
  | .given _ _ _ => []

/-- The member names of a model, in order. -/
def members (model : Model) : List String := model.fields.map Field.member

/-- The name of a model as messages show it. -/
def shown (model : Model) : String := "Schema(" ++ model.name ++ ")"

end Model

/-- Enters a field in a list of fields, in place of one with the same member name or at the end. -/
def putField (fields : List Field) (field : Field) : List Field :=
  match fields with
  | [] => [field]
  | first :: rest =>
      if first.member = field.member then field :: rest else first :: putField rest field

/-- Enters every field of a list in order. -/
def putFields (fields added : List Field) : List Field := added.foldl putField fields

end RouteAtlas.Schema
