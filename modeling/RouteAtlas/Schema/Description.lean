import RouteAtlas.Json.Parser
import RouteAtlas.Schema.Building

/-!
# Schema descriptions

Models are described by JSON objects. A description names the model and either lists its fields or
gives a JSON schema outright; a field type may refer to an earlier model of the same list by its key.
In a schema that is given outright a marked object stands for a value that no document can hold.
A schema module is a description of its models and of the names it exports. In a file it stands behind
a line that announces it; a file without that line is a module without exports of its own.
-/

set_option autoImplicit false

namespace RouteAtlas.Schema

/-- The number of an entry. -/
def numberAt? (fields : Table String Json) (key : String) : Option Number :=
  match fields.get? key with
  | some (.num value) => some value
  | _ => none

/-- The string of an entry. -/
def stringAt? (fields : Table String Json) (key : String) : Option String :=
  (fields.get? key).bind Json.str?

/-- The field type a name stands for. -/
def plainType? : String → Option FieldType
  | "str" => some .text
  | "int" => some .integer
  | "float" => some .number
  | "bool" => some .boolean
  | "bytes" => some .bytes
  | "any" => some .anything
  | "none" => some .nothing
  | _ => none

mutual

/-- The field type a description denotes; `models` holds the models described before. -/
def typeOf? (models : Table String Model) : Json → Option FieldType
  | .str name => plainType? name
  | .obj [("list", item)] => (typeOf? models item).map FieldType.list
  | .obj [("dict", value)] => (typeOf? models value).map FieldType.mapping
  | .obj [("optional", inner)] => (typeOf? models inner).map FieldType.optional
  | .obj [("union", .arr options)] => (typesOf? models options).map FieldType.union
  | .obj [("literal", .arr values)] => some (.literal values)
  | .obj [("model", .str key)] => (models.get? key).map FieldType.model
  | _ => none

/-- The field types a list of descriptions denotes. -/
def typesOf? (models : Table String Model) : List Json → Option (List FieldType)
  | [] => some []
  | item :: rest => do
      let type ← typeOf? models item
      let types ← typesOf? models rest
      pure (type :: types)

end

/-- The field a description denotes. -/
def fieldOf? (models : Table String Model) (description : Json) : Option Field := do
  let entries ← description.obj?
  let name ← stringAt? entries "name"
  let type ← typeOf? models (← entries.get? "type")
  pure (.mk name type
    { publicName := stringAt? entries "alias"
      fallback := entries.get? "default"
      description := stringAt? entries "description"
      constraints :=
        { minimum := numberAt? entries "ge"
          exclusiveMinimum := numberAt? entries "gt"
          maximum := numberAt? entries "le"
          exclusiveMaximum := numberAt? entries "lt"
          minLength := numberAt? entries "min_length"
          maxLength := numberAt? entries "max_length"
          pattern := stringAt? entries "pattern" } })

/-- What a description says about undeclared keys. -/
def extraOf (entries : Table String Json) : Extra :=
  match stringAt? entries "extra" with
  | some "forbid" => .forbid
  | some "allow" => .allow
  | _ => .ignore

/-- The key that marks an object as standing for a foreign value. -/
def foreignMark : String := "__opaque__"

mutual

/-- A value with foreign values in place of the objects that stand for them. -/
def withForeign : Json → Json
  | .obj fields =>
      match fields with
      | [(key, .bool true)] =>
          if key == foreignMark then .foreign else .obj [(key, .bool true)]
      | fields => .obj (withForeignFields fields)
  | .arr items => .arr (withForeignItems items)
  | value => value

/-- Entries with foreign values in place of the objects that stand for them. -/
def withForeignFields : List (String × Json) → List (String × Json)
  | [] => []
  | (key, value) :: rest => (key, withForeign value) :: withForeignFields rest

/-- Items with foreign values in place of the objects that stand for them. -/
def withForeignItems : List Json → List Json
  | [] => []
  | item :: rest => withForeign item :: withForeignItems rest

end

/-- The model a description denotes, under its key. -/
def modelOf? (home : String) (models : Table String Model) (description : Json) :
    Option (String × Model) := do
  let entries ← description.obj?
  let name ← stringAt? entries "name"
  let key := (stringAt? entries "id").getD name
  match entries.get? "raw" with
  | some schema => pure (key, .given (.declared home key) name (withForeign schema))
  | none => do
      let descriptions ← (← entries.get? "fields").arr?
      let fields ← descriptions.mapM (fieldOf? models)
      pure (key, .record (.declared home key) name (stringAt? entries "doc") (extraOf entries)
        (putFields [] fields))

/-- Why descriptions denote no models. -/
inductive DescriptionFault where
  /-- One of them does not describe a model. -/
  | unreadable
  /-- One of them describes a model that cannot be built. -/
  | unbuildable (fault : BuildFault)
  deriving DecidableEq, Repr, Inhabited

/-- The models a list of descriptions denotes, under their keys. -/
def modelsOf (home : String) (descriptions : List Json) :
    Except DescriptionFault (Table String Model) :=
  descriptions.foldlM (fun models description =>
    match modelOf? home models description with
    | none => .error .unreadable
    | some (key, model) =>
        match model.buildFault? with
        | some fault => .error (.unbuildable fault)
        | none => .ok (models.put key model)) []

/-- What a schema module exports under a name. -/
inductive Export where
  /-- A model that can be used as a schema. -/
  | model (model : Model)
  /-- Something that is no model. -/
  | value
  /-- A name that stands for nothing. -/
  | nothing

/-- A schema module: its exports, or the text of the fault that loading it raises. -/
inductive Module where
  | raising (text : String)
  | exporting (exports : Table String Export)

/-- The export of a model by itself. A model that is given by its schema has to be exported as one. -/
def Export.ofModel : Model → Export
  | .record identity name doc extra fields => .model (.record identity name doc extra fields)
  | .given _ _ _ => .value

/-- The export a description denotes. -/
def exportOf? (models : Table String Model) (description : Json) : Option Export :=
  match description with
  | .obj [("model", .str key)] => (models.get? key).map Export.ofModel
  | .obj [("schema", .str key)] => (models.get? key).map Export.model
  | .obj [("value", .null)] => some .nothing
  | .obj [("value", _)] => some .value
  | _ => none

/-- The exports of a module: its models under their keys, and then what the module names. -/
def exportsOf (models : Table String Model) (named : Table String Json) : Table String Export :=
  named.foldl (fun exports (name, description) =>
    match exportOf? models description with
    | some found => Table.put exports name found
    | none => exports) (models.map fun (key, model) => (key, Export.ofModel model))

/-- The module a description denotes. A module with a model that cannot be built raises the fault. -/
def moduleOf? (home : String) (description : Json) : Option Module := do
  let entries ← description.obj?
  match stringAt? entries "raise" with
  | some text => pure (.raising text)
  | none =>
      let descriptions := ((entries.get? "models").bind Json.arr?).getD []
      let named := ((entries.get? "exports").bind Json.obj?).getD []
      match modelsOf home descriptions with
      | .ok models => pure (.exporting (exportsOf models named))
      | .error (.unbuildable fault) => pure (.raising fault.message)
      | .error .unreadable => none

/-- The line that announces the description of a module. -/
def moduleLine : String := "# schema module\n"

/-- The text of a module with a description. -/
def moduleText (description : String) : String := moduleLine ++ description

/-- The names that a module has without exporting anything. -/
def inherentNames : List String :=
  ["__annotations__", "__builtins__", "__cached__", "__class__", "__delattr__", "__dict__", "__dir__",
    "__eq__", "__file__", "__format__", "__ge__", "__getattribute__", "__getstate__", "__gt__",
    "__hash__", "__init__", "__init_subclass__", "__le__", "__loader__", "__lt__", "__name__", "__ne__",
    "__new__", "__package__", "__reduce__", "__reduce_ex__", "__repr__", "__setattr__", "__sizeof__",
    "__spec__", "__str__", "__subclasshook__"]

/-- What a module with some exports has under a name. -/
def exportUnder (exports : Table String Export) (name : String) : Export :=
  match exports.get? name with
  | some found => found
  | none => if inherentNames.contains name then .value else .nothing

/-- The module a text denotes. -/
def moduleOfText (home : String) (text : Text) : Module :=
  let described := do
    let description ← Text.dropStart? moduleLine.toList text
    let json ← Json.parse? (String.ofList description)
    moduleOf? home json
  described.getD (.exporting [])

end RouteAtlas.Schema
