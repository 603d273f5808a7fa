import RouteAtlas.Disk
import RouteAtlas.Event
import RouteAtlas.Schema.Building
import RouteAtlas.Schema.Reference

/-!
# Failures of a run

The ways in which a generation run can fail, each with its wording. A structural fault skips one
endpoint and an unlocated router skips one mount; all others end the run.
-/

set_option autoImplicit false

namespace RouteAtlas

open Source Schema

/-- Why a step of a run failed. -/
inductive Failure where
  /-- Source text does not have an expected shape. -/
  | structural (fault : Fault)
  /-- A router is neither defined in a file nor imported from one that defines it. -/
  | unlocated (router : Text) (file : Path)
  /-- A referenced schema could not be loaded. -/
  | unresolved (reference : Reference) (reason : String)
  /-- The main router file could not be read. -/
  | routerFile (path : Path) (error : DiskError)
  /-- A file could not be read. -/
  | reading (error : ReadError)
  /-- A custom middleware names a slot that does not exist. -/
  | unknownSlot (slot : String)
  /-- A schema was imported from a file without a name. -/
  | nameless (path : Path)
  /-- A model that the run asks for cannot be built. -/
  | unbuildable (fault : BuildFault)
  /-- Routers mount one another deeper than the sources define routers. -/
  | tooDeep
  deriving DecidableEq, Repr, Inhabited

namespace Failure

/-- The wording of a path that has no last segment. -/
def namelessMessage (path : Path) : String :=
  "PosixPath(" ++ String.ofList (Text.quoted path.text) ++ ") has an empty name"

/-- The wording of a failure. -/
def message : Failure → String
  | .structural fault => fault.message
  | .unlocated router file => unlocatedMessage router file
  | .unresolved reference reason =>
      "cannot resolve schema " ++ reference.dotted
        ++ (if reason.isEmpty then "" else ": " ++ reason)
  | .routerFile path error => "cannot read router file " ++ path.toString ++ ": " ++ error.message
  | .reading (.disk error) => error.message
  | .reading (.path _) => nullCharacterMessage
  | .reading .undecodable => "invalid text"
  | .unknownSlot slot => "unknown request slot: " ++ slot
  | .nameless path => namelessMessage path
  | .unbuildable fault => fault.message
  | .tooDeep => "mounts nest too deeply"

/-- The failures that a run foresees, as opposed to those that only surface through it. -/
def isForeseen : Failure → Bool
  | .structural _ => true
  | .unlocated _ _ => true
  | .unresolved _ _ => true
  | .routerFile _ _ => true
  | .reading _ => false
  | .unknownSlot _ => false
  | .nameless _ => false
  | .unbuildable _ => false
  | .tooDeep => false

end Failure

end RouteAtlas
