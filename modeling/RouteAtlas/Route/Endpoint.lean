import RouteAtlas.Middleware.Vocabulary
import RouteAtlas.Route.Template
import RouteAtlas.Source.Literal

/-!
# Endpoints

The arguments of a route call are its path literal and a chain of middleware expressions, which are
numbered. The path is joined to the mount of the router and written as a template.
-/

set_option autoImplicit false

namespace RouteAtlas.Route

open Source Middleware

/-- The full template of an endpoint and its middleware chain. -/
structure Endpoint where
  path : Text
  chain : List Expression
  deriving DecidableEq, Repr, Inhabited

/-- The endpoint declared by the arguments of a route call. -/
def endpoint (verb arguments mount : Text) : Except Fault Endpoint := do
  match ← Source.arguments arguments with
  | [] => .error (.emptyCall verb)
  | first :: chain =>
      match unquote? first with
      | none => .error (.pathNotLiteral verb first)
      | some localPath =>
          pure { path := template (pathUnder mount localPath), chain := chainOf chain }

end RouteAtlas.Route
