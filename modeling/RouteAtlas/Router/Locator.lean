import RouteAtlas.Router.Import
import RouteAtlas.Router.Marker
import RouteAtlas.Router.Mount
import RouteAtlas.Session

/-!
# Locating routers

A router is located from the file that mounts it: first among the definitions of that file, then
through its import, one file deep. A module specifier is tried as written and with the usual source
suffixes. Texts are read once and kept; a failed reading is tried again the next time.
-/

set_option autoImplicit false

namespace RouteAtlas.Router

open Text

/-- Where a router is declared and what its file binds. -/
structure Declaration where
  name : Text
  span : Text
  file : Path
  imports : Table Text Path
  schemaFile : Option Path
  deriving DecidableEq, Repr, Inhabited

/-- The endings tried behind a module specifier. -/
def moduleEndings : List Text :=
  ["".toList, ".ts".toList, ".js".toList, "/index.ts".toList, "/index.js".toList]

/-- The path a module specifier denotes, seen from a folder. -/
def modulePath (folder : Path) (module : Text) : Path :=
  (folder / Path.ofText module).normalize

/-- A module specifier is relative to the importing file. -/
def isRelative (module : Text) : Bool := startsWith module ['.']

/-- The text of a file, read at most once. -/
def read (reader : Reader) (path : Path) : Run Text := do
  match (← get).texts.get? path with
  | some text => pure text
  | none => do
      modify fun session => { session with requests := session.requests ++ [path] }
      match reader path with
      | .ok text =>
          modify fun session => { session with texts := session.texts.put path text }
          pure text
      | .error error => throw (.reading error)

/-- The first of some paths that can be read, and its text. -/
def readFirst (reader : Reader) : List Path → Run (Option (Path × Text))
  | [] => pure none
  | path :: rest => do
      match ← (read reader path).attempt with
      | .ok text => pure (some (path, text))
      | .error (.reading (.disk _)) => readFirst reader rest
      | .error failure => throw failure

/-- The file a module specifier denotes, and its text. -/
def readSpecified (reader : Reader) (folder : Path) (module : Text) : Run (Option (Path × Text)) :=
  readFirst reader (moduleEndings.map fun ending => modulePath folder (module ++ ending))

/-- The routers mounted in a file. -/
def mountsIn (reader : Reader) (file : Path) (basePath : Text) : Run (List Mount) := do
  let code ← read reader file
  let scan := mounts code basePath none
  Run.reportAll (scan.faults.map Event.malformedMount)
  pure scan.mounts

/-- The first binding whose module ends like a schema file, as a path. -/
def schemaFileOf? (schemaSuffix : Text) (bindings : List Binding) (folder : Path) : Option Path :=
  let bare := Path.dropExtension schemaSuffix
  (bindings.find? fun binding =>
    endsWith binding.module schemaSuffix || (!bare.isEmpty && endsWith binding.module bare)).map
      fun binding => modulePath folder binding.module

/-- The declaration of a router and what its file binds. -/
def sourceOf (schemaSuffix : Text) (code : Text) (file : Path) (marker : Marker) : Declaration :=
  let all := bindings code
  let above := match importsAbove code marker.start all with
    | [] => all
    | above => above
  let relative := above.filter fun binding => isRelative binding.module
  { name := marker.name
    span := spanOf code marker
    file := file
    imports := Table.ofList (relative.map fun binding =>
      (binding.localName, modulePath file.parent binding.module))
    schemaFile := schemaFileOf? schemaSuffix above file.parent }

/-- The definition an import binding denotes in the text of its module. -/
def importedDefinition? (code name : Text) (binding : Binding) : Option Marker :=
  let target :=
    if binding.imported = defaultName || binding.imported = wholeModule then name
    else binding.imported
  match definition? code target with
  | some marker => some marker
  | none =>
      if binding.imported = defaultName then (exportedName? code).bind (definition? code) else none

/-- The declaration of a router as seen from a file. -/
def locate (reader : Reader) (schemaSuffix : Text) (name : Text) (file : Path) : Run Declaration := do
  let code ← read reader file
  match definition? code name with
  | some marker => pure (sourceOf schemaSuffix code file marker)
  | none =>
      match (bindings code).find? fun binding => binding.localName == name with
      | none => throw (.unlocated name file)
      | some binding =>
          if isRelative binding.module then do
            match ← readSpecified reader file.parent binding.module with
            | none => throw (.unlocated name file)
            | some (target, targetCode) =>
                match importedDefinition? targetCode name binding with
                | none => throw (.unlocated name target)
                | some marker => do
                    Run.report (.routerFound name target)
                    pure (sourceOf schemaSuffix targetCode target marker)
          else throw (.unlocated name file)

end RouteAtlas.Router
