import RouteAtlas.Text.Basic

/-!
# HTTP verbs

The eight methods a route can be declared with, in the order in which they are tried and reported.
-/

set_option autoImplicit false

namespace RouteAtlas.Route

/-- The methods of route calls. -/
inductive Verb where
  | get
  | post
  | put
  | delete
  | patch
  | head
  | options
  | trace
  deriving DecidableEq, Repr, Inhabited

namespace Verb

/-- Every verb, in order. -/
def all : List Verb := [.get, .post, .put, .delete, .patch, .head, .options, .trace]

/-- The lower-case name of a verb. -/
def name : Verb → String
  | .get => "get"
  | .post => "post"
  | .put => "put"
  | .delete => "delete"
  | .patch => "patch"
  | .head => "head"
  | .options => "options"
  | .trace => "trace"

/-- The upper-case name of a verb. -/
def upperName : Verb → String
  | .get => "GET"
  | .post => "POST"
  | .put => "PUT"
  | .delete => "DELETE"
  | .patch => "PATCH"
  | .head => "HEAD"
  | .options => "OPTIONS"
  | .trace => "TRACE"

/-- Every verb is listed. -/
theorem mem_all (verb : Verb) : verb ∈ all := by
  cases verb <;> decide

end Verb

end RouteAtlas.Route
