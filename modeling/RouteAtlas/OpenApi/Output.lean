import RouteAtlas.Disk
import RouteAtlas.OpenApi.Check
import RouteAtlas.OpenApi.Document
import RouteAtlas.OpenApi.Tree
import RouteAtlas.Yaml.Writer

/-!
# Writing the document to a disk

The document is built and checked, each finding is reported, and the text is written below the
destination folder, which is made where needed. Nothing on the disk is touched before the document has
been built and checked, and no existing file changes when writing fails.
-/

set_option autoImplicit false

namespace RouteAtlas.OpenApi

open Api

/-- The name of the written file. -/
def outputName : String := "openapi-docs.yml"

/-- Why a document was not written. -/
inductive OutputFault where
  /-- The document could not be built or checked. -/
  | misshapen (misshape : Misshape)
  /-- The file cannot be asked for. -/
  | path (fault : PathFault)
  /-- The file could not be written. -/
  | unwritable (target : Path) (cause : String)
  deriving DecidableEq, Repr, Inhabited

/-- The wording of a document that could not be written. -/
def unwritableMessage (target : Path) (cause : String) : String :=
  "cannot write " ++ target.toString ++ ": " ++ cause

/-- What writing a document leaves behind. -/
structure Output where
  outcome : Except OutputFault Path
  disk : Disk
  events : List Event

/-- Puts a document object on a disk. -/
def place (disk : Disk) (document : Json) (target : Path) : Except OutputFault Unit × Disk :=
  match target.parent.fault?, disk.makeFolders target.parent with
  | some fault, _ => (.error (.path fault), disk)
  | none, .error error => (.error (.unwritable target error.message), disk)
  | none, .ok disk =>
      if hasForeign document then (.error (.unwritable target foreignMessage), disk)
      else
        match target.fault?, disk.write target (Yaml.blockDocument (documentTree document)) with
        | some fault, _ => (.error (.path fault), disk)
        | none, .error error => (.error (.unwritable target error.message), disk)
        | none, .ok disk => (.ok (), disk)

/-- Builds, checks and writes the document of a registry. -/
def output (disk : Disk) (document : Document) (info : Info) (destination : Path)
    (fileName : String) : Output :=
  let (built, events) := buildDocument document info
  let checked := do
    let object ← built
    let findings ← check object
    pure (object, findings)
  match checked with
  | .error misshape => { outcome := .error (.misshapen misshape), disk := disk, events := events }
  | .ok (object, findings) =>
      let events := events ++ findings.map fun (location, message) =>
        Event.inconsistency location message
      let target := destination / Path.ofString fileName
      match place disk object target with
      | (.error fault, disk) => { outcome := .error fault, disk := disk, events := events }
      | (.ok (), disk) =>
          { outcome := .ok target
            disk := disk
            events := events ++ [.written document.endpoints.length target] }

end RouteAtlas.OpenApi
