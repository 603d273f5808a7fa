import RouteAtlas.Api.Record
import RouteAtlas.OpenApi.Components

/-!
# Operations

An endpoint record becomes an operation object: its parameters from the path, query and header
schemas, a request body, and a response for every declared status.
-/

set_option autoImplicit false

namespace RouteAtlas.OpenApi

open Schema Api

/-- The keys that a list of required properties holds. A text stands for its characters and an object
for its keys. -/
def requiredNames : Option Json → Except Misshape (List String)
  | none => .ok []
  | some (.arr items) =>
      if items.any fun
        | .arr _ => true
        | .obj _ => true
        | _ => false
      then .error .wrongKind
      else .ok (items.filterMap Json.str?)
  | some (.str text) => .ok (text.toList.map Char.toString)
  | some (.obj fields) => .ok (Table.keys fields)
  | some _ => .error .wrongKind

/-- The description of a property. A text or a list has none unless it mentions the word, which then
cannot be looked up. -/
def propertyDescription : Json → Except Misshape (Option Json)
  | .obj fields => .ok (Table.get? fields "description")
  | .str text =>
      if Text.occurs "description".toList text.toList then .error .wrongKind else .ok none
  | .arr items =>
      if items.any fun
        | .str text => text == "description"
        | _ => false
      then .error .wrongKind
      else .ok none
  | _ => .error .wrongKind

/-- One parameter of an operation. A parameter in the path is always required. -/
def parameter (location : String) (required : List String) (name : String) (property : Json) :
    Except Misshape Json := do
  let description ← propertyDescription property
  pure (.obj ([("name", .str name), ("in", .str location),
    ("required", .bool (location == Slot.path.name || required.contains name)), ("schema", property)]
    ++ settingEntry "description" description))

/-- The parameters of the properties of a schema. -/
def propertyParameters (location : String) (required : List String) :
    List (String × Json) → Except Misshape (List Json)
  | [] => pure []
  | (name, property) :: rest => do
      let first ← parameter location required name property
      let others ← propertyParameters location required rest
      pure (first :: others)

/-- The parameters a schema stands for at a location. -/
def parameters (model : Model) (location : String) : Assemble (List Json) := do
  let rendered ← component model
  let required ← Assemble.ofOutcome (requiredNames (rendered.get? "required"))
  match rendered.get? "properties" with
  | none => pure []
  | some (.obj properties) =>
      Assemble.ofOutcome (propertyParameters location required properties)
  | some _ => throw .notMapping

/-- The slots that become parameters, in order. -/
def parameterOrder : List Slot := [.path, .query, .header]

/-- The parameters of a request. -/
def requestParameters (request : Request) : List Slot → Assemble (List Json)
  | [] => pure []
  | slot :: rest => do
      let first ← match request.get? slot with
        | some model => parameters model slot.name
        | none => pure []
      let others ← requestParameters request rest
      pure (first ++ others)

/-- A schema as the content of a media type. -/
def content (mediaType : String) (schema : Json) : Json :=
  .obj [(mediaType, .obj [("schema", schema)])]

/-- The media type of response bodies. -/
def responseType : String := "application/json"

/-- The responses of an operation. -/
def responseObjects : List (String × Response) → Assemble (List (String × Json))
  | [] => pure []
  | (status, response) :: rest => do
      let body ← match response.body with
        | some model => do
            let schema ← component model
            pure [("content", content responseType schema)]
        | none => pure []
      let others ← responseObjects rest
      pure ((status, .obj (("description", .str response.description) :: body)) :: others)

/-- The response of an operation that declares none. -/
def unspecifiedResponse : List (String × Json) :=
  [("default", .obj [("description", .str "Unspecified response")])]

/-- The entry of a text that is not empty. -/
def textEntry (key : String) (text : String) : List (String × Json) :=
  if text.isEmpty then [] else [(key, .str text)]

/-- The entry of a list that is not empty. -/
def listEntry (key : String) (items : List Json) : List (String × Json) :=
  if items.isEmpty then [] else [(key, .arr items)]

/-- The operation object of an endpoint. -/
def operation (record : Record) : Assemble Json := do
  let parameters ← requestParameters record.request parameterOrder
  let body ← match record.request.body with
    | some model => do
        let schema ← component model
        pure [("requestBody", Json.obj [("required", .bool true),
          ("content", content record.request.contentType schema)])]
    | none => pure []
  let responses ← responseObjects record.responses
  pure (.obj ([("summary", .str record.summary), ("tags", .arr [.str record.tag])]
    ++ textEntry "description" (record.description.getD "")
    ++ listEntry "security" (record.security.map fun name => .obj [(name, .arr [])])
    ++ listEntry "parameters" parameters
    ++ body
    ++ [("responses", .obj (if responses.isEmpty then unspecifiedResponse else responses))]))

end RouteAtlas.OpenApi
