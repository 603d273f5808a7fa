import RouteAtlas.Api.Document
import RouteAtlas.OpenApi.Operation

/-!
# The OpenAPI document

The document object of a registry: general information, servers, components and the operations by
path and method, all in order of registration.
-/

set_option autoImplicit false

namespace RouteAtlas.OpenApi

open Api

/-- What is said about the interface as a whole. -/
structure Info where
  title : String := "API"
  version : String := "1.0.0"
  servers : List Server := []
  description : String := ""
  deriving DecidableEq, Repr, Inhabited

/-- The version of the document format. -/
def formatVersion : String := "3.0.0"

/-- The object of a security scheme. -/
def schemeObject (scheme : SecurityScheme) : Json :=
  let core : List (String × Json) :=
    if scheme.type = "http" then
      let given := scheme.scheme.getD ""
      [("type", .str "http"), ("scheme", .str (if given.isEmpty then "bearer" else given))]
    else
      [("type", .str scheme.type), ("in", .str scheme.location), ("name", .str scheme.parameter)]
  .obj (core ++ textEntry "description" scheme.description)

/-- The object of a server. -/
def serverObject (server : Server) : Json :=
  .obj (("url", .str server.url) :: Schema.settingEntry "description"
    (server.description.map Json.str))

/-- The operations of one path under their methods. -/
def pathItem : List Record → Assemble (Table String Json)
  | [] => pure []
  | record :: rest => do
      let first ← operation record
      let others ← pathItem rest
      pure ((record.key.1, first) :: others)

/-- The path items of all paths. -/
def pathItems : List (String × List Record) → Assemble (List (String × Json))
  | [] => pure []
  | (path, records) :: rest => do
      let item ← pathItem records
      let others ← pathItems rest
      pure ((path, .obj item) :: others)

/-- The components of the document: security schemes, then schemas. -/
def componentsObject (document : Document) (schemas : Table String Json) : List (String × Json) :=
  (if document.schemes.isEmpty then []
    else [("securitySchemes", .obj (document.schemes.map fun (name, scheme) =>
      (name, schemeObject scheme)))])
  ++ (if schemas.isEmpty then [] else [("schemas", .obj schemas)])

/-- The document object of a registry. -/
def build (document : Document) (info : Info) : Assemble Json := do
  let paths ← pathItems document.paths
  let components := componentsObject document (← get).components
  pure (.obj ([("openapi", .str formatVersion),
      ("info", .obj ([("title", .str info.title), ("version", .str info.version)]
        ++ textEntry "description" info.description))]
    ++ listEntry "servers" (info.servers.map serverObject)
    ++ (if components.isEmpty then [] else [("components", .obj components)])
    ++ [("paths", .obj paths)]))

/-- The document object of a registry built from nothing, and the events of building it. -/
def buildDocument (document : Document) (info : Info) : Except Misshape Json × List Event :=
  let (outcome, assembly) := (build document info).run.run {}
  (outcome, assembly.events)

end RouteAtlas.OpenApi
