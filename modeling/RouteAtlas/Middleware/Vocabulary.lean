import RouteAtlas.Api.Record
import RouteAtlas.Source.Call

/-!
# Middleware vocabulary

The names by which middleware expressions are told apart: the validators of each request slot, the
response validator, the wrappers of operation handlers and the composite validator. The expressions of a
chain are numbered, and each has a kind once its chain is classified. Custom middlewares are declared
by name, with the fields they demand by slot, the slot of a schema they are given and the security
scheme they stand for.
-/

set_option autoImplicit false

namespace RouteAtlas.Middleware

open Source Api

/-- What a middleware expression is for. -/
inductive Kind where
  | validator (slot : Slot)
  | response
  | custom
  | handler
  | unclassified
  deriving DecidableEq, Repr, Inhabited

/-- The name of a kind. -/
def Kind.name : Kind → String
  | .validator slot => slot.name ++ "-validator"
  | .response => "response-validator"
  | .custom => "custom-validator"
  | .handler => "operation-handler"
  | .unclassified => "unclassified"

/-- One expression of a middleware chain: its position in the chain, its text and what it is for. -/
structure Expression where
  position : Nat
  text : Text
  kind : Kind := .unclassified
  deriving DecidableEq, Repr, Inhabited

/-- Texts as the expressions of a chain, at the positions from zero on. -/
def chainOf (texts : List Text) : List Expression :=
  texts.zipIdx.map fun (text, position) => { position := position, text := text }

@[simp] theorem map_text_chainOf (texts : List Text) : (chainOf texts).map Expression.text = texts := by
  rw [chainOf, List.map_map]
  exact List.zipIdx_map_fst 0 texts

theorem map_position_chainOf (texts : List Text) :
    (chainOf texts).map Expression.position = List.range (chainOf texts).length := by
  rw [chainOf, List.map_map, List.length_map, List.length_zipIdx, List.range_eq_range']
  exact List.zipIdx_map_snd 0 texts

/-- A middleware outside the built-in vocabulary. -/
structure Custom where
  name : String
  query : List String := []
  path : List String := []
  header : List String := []
  body : List String := []
  /-- The slot of a schema passed as first argument. -/
  schemaSlot : Option String := none
  /-- The security scheme required by the middleware. -/
  security : Option String := none
  deriving DecidableEq, Repr, Inhabited

/-- The fields a custom middleware demands in a slot. -/
def Custom.fields (custom : Custom) : Slot → List String
  | .query => custom.query
  | .path => custom.path
  | .header => custom.header
  | .body => custom.body

/-- The validators of a slot. -/
def validatorNames : Slot → List Text
  | .body => ["validateBody".toList]
  | .query => ["validateParam".toList, "validateQuery".toList]
  | .path => ["validatePath".toList]
  | .header => ["validateHeader".toList]

/-- The slots in the order in which their validators are looked for. -/
def validatedSlots : List Slot := [.body, .query, .path, .header]

/-- The response validator. -/
def responseValidator : Text := "validateResponse".toList

/-- The wrappers of operation handlers, in the order in which they are looked for. -/
def wrapperNames : List Text :=
  ["usecaseWrapper".toList, "executeAndValidateResponses".toList,
   "executeAndValidateResponse".toList]

/-- An expression mentions a handler wrapper. -/
def mentionsWrapper (expression : Text) : Bool :=
  wrapperNames.any (mentions expression)

/-- The kind of an expression by the names it mentions, before the handler is chosen. -/
def kindOf (customs : List Custom) (expression : Text) : Kind :=
  if mentionsWrapper expression then .handler
  else
    match validatedSlots.find? fun slot => (validatorNames slot).any (mentions expression) with
    | some slot => .validator slot
    | none =>
        if mentions expression responseValidator then .response
        else if customs.any fun custom => mentions expression custom.name.toList then .custom
        else .unclassified

end RouteAtlas.Middleware
