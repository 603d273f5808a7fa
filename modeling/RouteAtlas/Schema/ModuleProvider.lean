import RouteAtlas.Disk
import RouteAtlas.Schema.Description
import RouteAtlas.Schema.Reference

/-!
# Schemas from module files

A reference is looked up in a module file beside the file it was imported from, and then in the schema
folder. The first candidate that is a file counts. A module gives the same models however it is
reached, because a model is told apart by the absolute path of its module and its key.
-/

set_option autoImplicit false

namespace RouteAtlas.Schema

open Text

/-- The suffix of module files. -/
def moduleSuffix : Text := ".py".toList

/-- The module files beside an imported file. -/
def besideFile (file : Path) : Except LoadFault (List Path) :=
  if file.suffix = moduleSuffix then .ok [file]
  else
    match file.withSuffix? moduleSuffix, file.withName? (file.name ++ moduleSuffix) with
    | some replaced, some added => .ok [replaced, added]
    | _, _ => .error (.nameless file)

/-- The module files a reference may be found in, in order. -/
def candidates (schemaFolder : Option Path) (reference : Reference) :
    Except LoadFault (List Path) := do
  let beside ← match reference.file with
    | some file => besideFile file
    | none => .ok []
  let shared := match schemaFolder with
    | some folder => [folder / Path.ofText (reference.module.toList ++ moduleSuffix)]
    | none => []
  pure (beside ++ shared)

/-- The candidates as a message lists them. -/
def triedPaths : List Path → String
  | [] => "no candidate paths"
  | paths => ", ".intercalate (paths.map Path.toString)

/-- The answer of a module file. -/
def loadFrom (root : String) (disk : Disk) (path : Path) (reference : Reference) : Loading :=
  let home := Disk.absolute root path
  match disk.read path with
  | .error _ =>
      { opened := none, outcome := .error (.notFound ("error importing " ++ home ++ ": unreadable")) }
  | .ok text =>
      match moduleOfText home text with
      | .raising fault =>
          { opened := none
            outcome := .error (.notFound ("error importing " ++ home ++ ": " ++ fault)) }
      | .exporting exports =>
          { opened := some home
            outcome := match exportUnder exports reference.exportName with
              | .model model => .ok model
              | .value => .error (.notFound (path.toString ++ ":" ++ reference.exportName
                  ++ " is not a pydantic model"))
              | .nothing => .error (.notFound (path.toString ++ " has no export '"
                  ++ reference.exportName ++ "'")) }

/-- The provider of the module files of a disk; `root` is the absolute path of its working
directory. -/
def moduleProvider (root : String) (disk : Disk) (schemaFolder : Option Path) : Provider :=
  fun reference =>
    match candidates schemaFolder reference with
    | .error fault => { opened := none, outcome := .error fault }
    | .ok paths =>
        match disk.firstFile paths with
        | .error error => { opened := none, outcome := .error (.refused error) }
        | .ok (some path) => loadFrom root disk path reference
        | .ok none =>
            { opened := none
              outcome := .error (.notFound ("no schema module for '" ++ reference.module
                ++ "' (tried " ++ triedPaths paths ++ ")")) }

end RouteAtlas.Schema
