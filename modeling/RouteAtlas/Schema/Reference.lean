import RouteAtlas.Disk
import RouteAtlas.Schema.Model

/-!
# Schema references

Route sources name a schema by a module and an export of it, possibly with the file the module was
imported from. A provider answers a reference with a model or with the reason why there is none.
-/

set_option autoImplicit false

namespace RouteAtlas.Schema

/-- A schema named by a module and an export. -/
structure Reference where
  module : String
  exportName : String
  file : Option Path
  deriving DecidableEq, Repr, Inhabited

/-- The dotted form of a reference. -/
def Reference.dotted (reference : Reference) : String :=
  reference.module ++ "." ++ reference.exportName

/-- Why a reference has no model. -/
inductive LoadFault where
  /-- There is no such module or export. -/
  | notFound (reason : String)
  /-- The file of the reference has no name to look up beside it. -/
  | nameless (path : Path)
  /-- The disk refuses to look for a file. -/
  | refused (error : DiskError)
  deriving DecidableEq, Repr, Inhabited

/-- The answer of a provider, and the module file it took it from, if any. -/
structure Loading where
  opened : Option String
  outcome : Except LoadFault Model

/-- A source of schemas. It is a function of the reference: however often it is asked for one, the answer is
the same model or the same reason why there is none, as with modules that are kept once they are loaded. -/
abbrev Provider := Reference → Loading

/-- The provider of a table of exports under their dotted references; an export may be empty. -/
def tableProvider (exports : Table String (Option Model)) : Provider := fun reference =>
  { opened := none
    outcome := match exports.get? reference.dotted with
      | some (some model) => .ok model
      | some none => .error (.notFound "")
      | none => .error (.notFound ("no export '" ++ reference.exportName ++ "'")) }

end RouteAtlas.Schema
