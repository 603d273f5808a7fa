import RouteAtlas.Schema.Name
import RouteAtlas.Schema.Normal
import RouteAtlas.Text.Case
import RouteAtlas.Text.Margin

/-!
# JSON schemas of models

A model is rendered as a JSON schema of an object. The models nested in it become definitions, each
under the name made from its own, and are referred to by a reference that the caller chooses. A
property carries a title made from its key unless its type is a single model, possibly optional.

The entries of a schema come about in a fixed order and are then sorted by their keys, level by level,
except for those that stand under the keys `properties` and `default`.

A default or a literal value must not look like a reference: an entry `$ref` in it would name a
definition that does not exist.
-/

set_option autoImplicit false

namespace RouteAtlas.Schema

open Text

/-- The entries of a schema. -/
abbrev Entries := List (String × Json)

/-! ## Types -/

/-- The entries of the schema that accepts null alone. -/
def nullEntries : Entries := [("type", .str "null")]

/-- The alternatives of a schema: the members of a lone union, and the schema itself otherwise. -/
def alternatives : Entries → List Json
  | [("anyOf", .arr items)] => items
  | entries => [.obj entries]

/-- Enters a schema in a list, in place of one that is equal or at the end. -/
def enterSchema (schemas : List Json) (schema : Json) : List Json :=
  match schemas with
  | [] => [schema]
  | first :: rest =>
      if first.alike schema then schema :: rest else first :: enterSchema rest schema

/-- The union of schemas: lone unions are opened and equal members are taken together. A union of one
is that one. -/
def anyOf (options : List Entries) : Entries :=
  match (options.flatMap alternatives).foldl enterSchema [] with
  | [.obj entries] => entries
  | members => [("anyOf", .arr members)]

/-- The union of a schema with null. -/
def withNull (entries : Entries) : Entries :=
  if (Json.obj entries).alike (.obj nullEntries) then nullEntries else anyOf [entries, nullEntries]

/-- The type that all literal values share. -/
def sharedType? : List Json → Option String
  | [] => none
  | first :: rest => do
      let type ← literalType? first
      if rest.all fun value => literalType? value == some type then some type else none

/-- The entry of an optional setting. -/
def settingEntry (key : String) (value : Option Json) : Entries :=
  match value with
  | some value => [(key, value)]
  | none => []

/-- The schema of a choice between literal values. -/
def literalEntries (values : List Json) : Entries :=
  (match values with
    | [value] => ("const", value)
    | values => ("enum", .arr values))
    :: settingEntry "type" ((sharedType? values).map Json.str)

mutual

/-- The schema of a field type in normal form; `refTo` writes the reference to a definition. -/
def FieldType.entries (refTo : String → String) : FieldType → Entries
  | .text => [("type", .str "string")]
  | .integer => [("type", .str "integer")]
  | .number => [("type", .str "number")]
  | .boolean => [("type", .str "boolean")]
  | .bytes => [("type", .str "string"), ("format", .str "binary")]
  | .anything => []
  | .nothing => nullEntries
  | .list item => [("type", .str "array"), ("items", .obj (item.entries refTo))]
  | .mapping value =>
      let entries := value.entries refTo
      [("type", .str "object"),
        ("additionalProperties", if entries.isEmpty then .bool true else .obj entries)]
  | .optional inner => withNull (inner.entries refTo)
  | .union options =>
      let entries := anyOf (optionEntries refTo options)
      if options.any FieldType.isNothing then withNull entries else entries
  | .literal values => literalEntries values
  | .model model => [("$ref", .str (refTo (definitionName model.name)))]

/-- The schemas of the options of a union, null apart. -/
def optionEntries (refTo : String → String) : List FieldType → List Entries
  | [] => []
  | .nothing :: rest => optionEntries refTo rest
  | option :: rest => option.entries refTo :: optionEntries refTo rest

end

/-! ## Constraints -/

namespace Constraints

/-- The entries of the bounds: on a number those of JSON Schema, and elsewhere annotations under the
names that the bounds have in descriptions. -/
def bounds (constraints : Constraints) (type : FieldType) : Entries :=
  let named := fun (key : String) (value : Option Number) =>
    settingEntry key (value.map Json.num)
  match type with
  | .integer => numeric named
  | .number => numeric named
  | _ =>
      named "gt" constraints.exclusiveMinimum ++ named "ge" constraints.minimum
        ++ named "lt" constraints.exclusiveMaximum ++ named "le" constraints.maximum
where
  /-- The bounds of a number. -/
  numeric (named : String → Option Number → Entries) : Entries :=
    named "maximum" constraints.maximum ++ named "minimum" constraints.minimum
      ++ named "exclusiveMaximum" constraints.exclusiveMaximum
      ++ named "exclusiveMinimum" constraints.exclusiveMinimum

/-- The keys of the least and the greatest length: those of characters, of items on a list, and of
entries on a mapping without bounds. -/
def lengthKeys (constraints : Constraints) : FieldType → String × String
  | .list _ => ("minItems", "maxItems")
  | .mapping _ =>
      if constraints.hasBound then ("minLength", "maxLength") else ("minProperties", "maxProperties")
  | _ => ("minLength", "maxLength")

/-- The pattern shows on a text without bounds. -/
def shownPattern (constraints : Constraints) : FieldType → Option String
  | .text => if constraints.hasBound then none else constraints.pattern
  | _ => none

/-- The schema entries of the constraints of a field of a type. -/
def entries (constraints : Constraints) (type : FieldType) : Entries :=
  let (least, greatest) := constraints.lengthKeys type
  constraints.bounds type
    ++ settingEntry least (constraints.minLength.map Json.num)
    ++ settingEntry greatest (constraints.maxLength.map Json.num)
    ++ settingEntry "pattern" ((constraints.shownPattern type).map Json.str)

end Constraints

/-! ## Fields -/

/-- The title made from a key: title case, with blanks for underscores. -/
def titleOf (key : String) : String :=
  String.ofList (trim ((title key.toList).map fun c => if c = '_' then ' ' else c))

/-- The description of a model: its documentation without the margin. -/
def Model.description? : Model → Option String
  | .record _ _ (some doc) _ _ =>
      if doc.isEmpty then none else some (String.ofList (withoutMargin doc.toList))
  | _ => none

/-- The description of a field beside the schema of its type. A reference does not repeat the
description of the model it refers to. -/
def Field.shownDescription (field : Field) (type : FieldType) : Option String :=
  match type with
  | .model model =>
      if field.settings.description = model.description? then none else field.settings.description
  | _ => field.settings.description

/-- The schema of a field as a property. Constraints and titles are those of its type without null. -/
def Field.property (refTo : String → String) (field : Field) : Entries :=
  let type := field.type.normal
  let inner := type.withoutNull
  let constrained := inner.entries refTo ++ field.settings.constraints.entries inner
  let isModel := match inner with
    | .model _ => field.settings.constraints.pattern.isNone
    | _ => false
  (if type.isNullable then withNull constrained else constrained)
    ++ settingEntry "default" field.settings.fallback
    ++ settingEntry "description" ((field.shownDescription type).map Json.str)
    ++ settingEntry "example" (field.settings.shownExample.map Json.str)
    ++ (if isModel then [] else [("title", .str (titleOf field.key))])

/-- The properties of a list of fields; of two fields with one key the later gives the schema and the
earlier the place. -/
def properties (refTo : String → String) (fields : List Field) : Table String Json :=
  Table.ofList (fields.map fun field => (field.key, .obj (field.property refTo)))

/-- The keys that have to be given. -/
def requiredKeys (fields : List Field) : List String :=
  (fields.filter Field.isRequired).map Field.key

/-- A key is that of a field further on. -/
def isKeyOf (fields : List Field) (key : String) : Bool := fields.any fun field => field.key == key

/-- The fields that show as properties: of those with one key the last. -/
def shownFields : List Field → List Field
  | [] => []
  | field :: rest => if isKeyOf rest field.key then shownFields rest else field :: shownFields rest

/-! ## Models -/

/-- The schema of a model without its definitions. -/
def Model.body (refTo : String → String) : Model → Entries
  | .given _ _ (.obj entries) => entries
  | .given _ _ _ => []
  | .record identity name doc extra fields =>
      [("type", .str "object"), ("properties", .obj (properties refTo fields))]
      ++ (match requiredKeys fields with
        | [] => []
        | keys => [("required", .arr (keys.map Json.str))])
      ++ [("title", .str name)]
      ++ settingEntry "description"
          ((Model.record identity name doc extra fields).description?.map Json.str)
      ++ (match extra with
        | .ignore => []
        | .allow => [("additionalProperties", .bool true)]
        | .forbid => [("additionalProperties", .bool false)])

mutual

/-- The models a field type refers to, directly or through others. -/
def FieldType.models : FieldType → List Model
  | .list item => item.models
  | .mapping value => value.models
  | .optional inner => inner.models
  | .union options => optionModels options
  | .model model => model :: model.nested
  | _ => []

/-- The models the options of a union refer to. -/
def optionModels : List FieldType → List Model
  | [] => []
  | option :: rest => option.models ++ optionModels rest

/-- The models a model is made of. -/
def Model.nested : Model → List Model
  | .record _ _ _ _ fields => fieldModels fields
  | .given _ _ _ => []

/-- The models that fields refer to, as far as they show as properties. -/
def fieldModels : List Field → List Model
  | [] => []
  | .mk member type settings :: rest =>
      if isKeyOf rest (settings.publicName.getD member) then fieldModels rest
      else type.models ++ fieldModels rest

end

/-- The definitions of the models a model is made of, each under its name. Different models that one model
is made of are taken to have different names, since nothing else tells their definitions apart. -/
def Model.definitions (refTo : String → String) (model : Model) : Entries :=
  Table.ofList (model.nested.map fun nested =>
    (definitionName nested.name, .obj (nested.body refTo)))

/-! ## Order -/

/-- Entries in ascending order of their keys. -/
def sortFields (fields : Entries) : Entries := fields.mergeSort fun a b => a.1 ≤ b.1

/-- Entries under this key keep their order. -/
def keepsOrder (key : String) : Bool := key == "properties" || key == "default"

mutual

/-- A schema with its entries in order; `isKept` tells whether it keeps the order that it has. -/
def arrange (isKept : Bool) : Json → Json
  | .obj fields =>
      if isKept then .obj (arrangeFields fields) else .obj (sortFields (arrangeFields fields))
  | .arr items => .arr (arrangeItems isKept items)
  | value => value

/-- Entries with their values in order. -/
def arrangeFields : Entries → Entries
  | [] => []
  | (key, value) :: rest => (key, arrange (keepsOrder key) value) :: arrangeFields rest

/-- Items in order, each as the list itself. -/
def arrangeItems (isKept : Bool) : List Json → List Json
  | [] => []
  | item :: rest => arrange isKept item :: arrangeItems isKept rest

end

/-! ## References in data -/

/-- Why a model has no schema. -/
inductive ReferenceFault where
  /-- A default or a literal value refers to a definition that does not exist. -/
  | dangling
  /-- A property is called like a reference, or a reference in a value is no text. -/
  | misplaced
  deriving DecidableEq, Repr, Inhabited

/-- The key of a reference. -/
def referenceKey : String := "$ref"

/-- A reference leads out of the document. -/
def isRemote (reference : String) : Bool :=
  ["http://", "https://"].any fun start => startsWith reference.toList start.toList

mutual

/-- A value refers to something in the document. -/
def refersInside : Json → Bool
  | .obj fields => refersInsideFields fields
  | .arr items => refersInsideItems items
  | _ => false

/-- An entry refers to something in the document; lists of examples do not count. -/
def refersInsideFields : Entries → Bool
  | [] => false
  | (key, value) :: rest =>
      (match value with
        | .str text => key == referenceKey && !isRemote text
        | .arr items => key != "examples" && refersInsideItems items
        | value => refersInside value)
        || refersInsideFields rest

/-- An item refers to something in the document. -/
def refersInsideItems : List Json → Bool
  | [] => false
  | item :: rest => refersInside item || refersInsideItems rest

end

mutual

/-- A value has an entry for a reference that is a list or an object. -/
def misplacesReference : Json → Bool
  | .obj fields => misplacesInFields fields
  | .arr items => misplacesInItems items
  | _ => false

/-- An entry is for a reference and is a list or an object, or has such an entry. -/
def misplacesInFields : Entries → Bool
  | [] => false
  | (key, value) :: rest =>
      (match value with
        | .obj fields => key == referenceKey || misplacesInFields fields
        | .arr items => key == referenceKey || misplacesInItems items
        | _ => false)
        || misplacesInFields rest

/-- An item has an entry for a reference that is a list or an object. -/
def misplacesInItems : List Json → Bool
  | [] => false
  | item :: rest => misplacesReference item || misplacesInItems rest

end

mutual

/-- The literal values of a field type. -/
def FieldType.literals : FieldType → List Json
  | .list item => item.literals
  | .mapping value => value.literals
  | .optional inner => inner.literals
  | .union options => optionLiterals options
  | .literal values => values
  | _ => []

/-- The literal values of the options of a union. -/
def optionLiterals : List FieldType → List Json
  | [] => []
  | option :: rest => option.literals ++ optionLiterals rest

end

/-- The defaults and literal values that show in the schema of a model. -/
def Model.data (model : Model) : List Json :=
  (shownFields model.fields).flatMap fun field =>
    field.settings.fallback.toList ++ field.type.literals

/-- Nothing in a model and the models that it is made of is mistaken for a reference. -/
def Model.checkReferences (model : Model) : Except ReferenceFault Unit :=
  let models := model :: model.nested
  if models.any fun model => model.data.any refersInside then .error .dangling
  else if models.any fun model =>
      isKeyOf model.fields referenceKey || model.data.any misplacesReference then
    .error .misplaced
  else .ok ()

/-! ## Schemas -/

/-- The JSON schema of a model. -/
def Model.schema (refTo : String → String) (model : Model) : Except ReferenceFault Json :=
  match model with
  | .given _ _ schema => .ok schema
  | .record .. => do
      model.checkReferences
      let definitions := match model.definitions refTo with
        | [] => []
        | definitions => [("$defs", Json.obj definitions)]
      pure (arrange false (.obj (model.body refTo ++ definitions)))

/-- The reference to a definition in a schema that stands by itself. -/
def standaloneRef (name : String) : String := "#/$defs/" ++ name

end RouteAtlas.Schema
