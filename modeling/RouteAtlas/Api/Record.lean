import RouteAtlas.Schema.Compose
import RouteAtlas.Table
import RouteAtlas.Text.Case

/-!
# Endpoint records

What is documented about one endpoint: its method and path, a summary, its request schemas by slot,
its responses by status and the security schemes it requires. A slot that is filled twice holds the
merge of both schemas.
-/

set_option autoImplicit false

namespace RouteAtlas.Api

open Schema

/-- The parts of a request that a schema can describe. -/
inductive Slot where
  | query
  | path
  | header
  | body
  deriving DecidableEq, Repr, Inhabited

namespace Slot

/-- Every slot, in order. -/
def all : List Slot := [.query, .path, .header, .body]

/-- The name of a slot. -/
def name : Slot → String
  | .query => "query"
  | .path => "path"
  | .header => "header"
  | .body => "body"

/-- The name of a slot with a capital letter. -/
def capitalName : Slot → String
  | .query => "Query"
  | .path => "Path"
  | .header => "Header"
  | .body => "Body"

/-- The slot with a given name. -/
def ofName? (name : String) : Option Slot :=
  all.find? fun slot => slot.name == name

end Slot

/-- Request schemas by slot, and the content type of the body. -/
structure Request where
  query : Option Model := none
  path : Option Model := none
  header : Option Model := none
  body : Option Model := none
  contentType : String := "application/json"
  deriving Inhabited

namespace Request

/-- The schema in a slot. -/
def get? (request : Request) : Slot → Option Model
  | .query => request.query
  | .path => request.path
  | .header => request.header
  | .body => request.body

/-- Replaces the schema in a slot. -/
def set (request : Request) (slot : Slot) (model : Model) : Request :=
  match slot with
  | .query => { request with query := some model }
  | .path => { request with path := some model }
  | .header => { request with header := some model }
  | .body => { request with body := some model }

/-- Puts a schema in a slot, merging it with the one already there. -/
def assign (serial : Nat) (request : Request) (slot : Slot) (model : Model) :
    Except BuildFault Request :=
  match request.get? slot with
  | none => .ok (request.set slot model)
  | some current => (current.merge serial model).map (request.set slot)

/-- No slot holds a schema. -/
def isEmpty (request : Request) : Bool :=
  Slot.all.all fun slot => (request.get? slot).isNone

/-- The slot just set holds the schema. -/
@[simp] theorem get?_set_self (request : Request) (slot : Slot) (model : Model) :
    (request.set slot model).get? slot = some model := by
  cases slot <;> rfl

/-- Setting one slot leaves the others alone. -/
theorem get?_set_of_ne (request : Request) {slot other : Slot} (model : Model) (h : other ≠ slot) :
    (request.set slot model).get? other = request.get? other := by
  cases slot <;> cases other <;> first | rfl | exact absurd rfl h

end Request

/-- A documented response. -/
structure Response where
  description : String
  body : Option Model := none
  deriving Inhabited

/-- What is documented about one endpoint. -/
structure Record where
  method : String
  path : String
  summary : String := ""
  description : Option String := none
  tag : String
  request : Request := {}
  responses : Table String Response := []
  security : List String := []
  deriving Inhabited

/-- The method in lower case and the path, which tell endpoints apart. -/
def Record.key (record : Record) : String × String :=
  (String.ofList (Text.lower record.method.toList), record.path)

/-- A security scheme that endpoints can require by name. -/
structure SecurityScheme where
  name : String
  type : String := "apiKey"
  location : String := "header"
  parameter : String := "X-API-KEY"
  scheme : Option String := none
  description : String := ""
  deriving DecidableEq, Repr, Inhabited

/-- A server the interface is offered on. -/
structure Server where
  url : String
  description : Option String := none
  deriving DecidableEq, Repr, Inhabited

end RouteAtlas.Api
