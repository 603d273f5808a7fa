import RouteAtlas.Api.Record
import RouteAtlas.Event

/-!
# The document model

The registry of all endpoints and security schemes of one run. Endpoints are kept in the order of
their first registration; registering the same method and path again replaces the record in place.
-/

set_option autoImplicit false

namespace RouteAtlas.Api

/-- Endpoint records under their keys, and security schemes under their names. -/
structure Document where
  endpoints : Table (String × String) Record := []
  schemes : Table String SecurityScheme := []
  deriving Inhabited

namespace Document

/-- Registers an endpoint. -/
def register (document : Document) (record : Record) : Document :=
  { document with endpoints := document.endpoints.put record.key record }

/-- The event of registering an endpoint: it may replace an earlier one. -/
def registration (document : Document) (record : Record) : List Event :=
  if document.endpoints.has record.key then
    [.replaced (String.ofList (Text.upper record.method.toList)) record.path]
  else []

/-- Registers a security scheme. -/
def registerScheme (document : Document) (scheme : SecurityScheme) : Document :=
  { document with schemes := document.schemes.put scheme.name scheme }

/-- The records in order of first registration. -/
def records (document : Document) : List Record := document.endpoints.values

/-- Adds a record to its path's group. -/
def addToGroup (groups : Table String (List Record)) (record : Record) :
    Table String (List Record) :=
  groups.put record.path ((groups.get? record.path).getD [] ++ [record])

/-- The records grouped by path, both in order of registration. -/
def paths (document : Document) : Table String (List Record) :=
  document.records.foldl addToGroup []

end Document

end RouteAtlas.Api
