import RouteAtlas.Route.Template
import RouteAtlas.Route.Token
import RouteAtlas.Source.Call
import RouteAtlas.Source.Literal

/-!
# Mounts

A router is mounted by a call of `use` with a path literal and the routes of the router. Every such
call in a text counts, wherever it stands; with a receiver given, the identifier before the dot has to
be that receiver. A call whose arguments are malformed is passed over and its fault is kept.
-/

set_option autoImplicit false

namespace RouteAtlas.Router

open Text Source Route

/-- A router and the path it is mounted under, without surrounding slashes. -/
structure Mount where
  router : Text
  path : Text
  deriving DecidableEq, Repr, Inhabited

/-- The text behind the parenthesis of a `use` call whose dot has just been read. -/
def behindUse? (text : Text) : Option Text :=
  match (dropStart? "use".toList (trimLeft text)).map trimLeft with
  | some ('(' :: inner) => some inner
  | _ => none

/-- The text before a dot, given in reverse, ends with the receiver. -/
def isReceiver (receiver : Option Text) (seen : Text) : Bool :=
  match receiver with
  | none => true
  | some receiver =>
      match lastIdentifier? seen with
      | some (name, _) => name == receiver
      | none => false

/-- The mount declared by the arguments of a `use` call: a path literal, then the routes of a
router. -/
def mountOf? (basePath : Text) : List Text → Option Mount
  | path :: routes :: _ => do
      let path ← unquote? path
      match (dottedName routes).reverse with
      | method :: router :: _ =>
          if method = "routes".toList then
            some { router := router, path := mountWithin path basePath }
          else none
      | _ => none
  | _ => none

/-- The arguments of a call, from the text behind its parenthesis at the given offset. -/
def argumentsAt (start : Nat) (inner : Text) : Except Fault (List Text) := do
  let (inside, _) ← splitAtCloser .round start start 0 (lex inner)
  arguments (raw inside)

/-- The outcome of every `use` call in a text: its mount, its fault, or neither. The text before is
given in reverse. -/
def useCalls (basePath : Text) (receiver : Option Text) (seen : Text) :
    Text → List (Except Fault (Option Mount))
  | [] => []
  | c :: rest =>
      let following := useCalls basePath receiver (c :: seen) rest
      if c = '.' then
        match behindUse? rest with
        | some inner =>
            if isReceiver receiver seen then
              let start := seen.length + 1 + (rest.length - inner.length)
              (argumentsAt start inner).map (mountOf? basePath) :: following
            else following
        | none => following
      else following

/-- The mounts found in a text and the faults of the calls passed over. -/
structure MountScan where
  mounts : List Mount
  faults : List Fault
  deriving DecidableEq, Repr, Inhabited

/-- The mounts of a text. -/
def mounts (code basePath : Text) (receiver : Option Text) : MountScan :=
  let calls := useCalls basePath receiver [] code
  { mounts := calls.filterMap fun
      | .ok found => found
      | .error _ => none
    faults := calls.filterMap fun
      | .ok _ => none
      | .error fault => some fault }

end RouteAtlas.Router
