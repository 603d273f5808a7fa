import RouteAtlas.Config.Reading
import RouteAtlas.Disk
import RouteAtlas.Middleware.Vocabulary

/-!
# Configurations

The settings of a generation run, as a file states them. The paths in a file that are not absolute are
meant relative to the folder of the file. Unknown settings are ignored.
-/

set_option autoImplicit false

namespace RouteAtlas

open Yaml Api Middleware Config

/-- The settings of a generation run. -/
structure Config where
  routerFile : Option Path := none
  schemaFolder : Option Path := none
  outputFolder : Path := Path.ofString "docs"
  title : String := "API"
  version : String := "1.0.0"
  description : String := ""
  servers : List Server := []
  basePath : String := ""
  schemaSuffix : String := ".schema.ts"
  denied : List String := []
  customs : List Custom := []
  schemes : List SecurityScheme := []
  deriving Inhabited

namespace Config

/-- Reads a list of mappings. -/
def Settings.listOf {α : Type} [Inhabited α] (settings : Settings)
    (read : Settings → Reading α) : Value → Reading (List α) :=
  readList settings.document (readMapping settings.document read)

/-- Reads a list of texts that may be left out. -/
def texts (settings : Settings) (name : String) : Reading (List String) :=
  setting settings name (readList settings.document readText) []

/-- Reads a custom middleware. -/
def readCustom (settings : Settings) : Reading Custom := do
  let name ← required settings "name" readText
  let query ← texts settings "query"
  let path ← texts settings "path"
  let header ← texts settings "header"
  let body ← texts settings "body"
  let schemaSlot ← setting settings "schema_slot" (readOptional readText) none
  let security ← setting settings "security" (readOptional readText) none
  pure
    { name := name, query := query, path := path, header := header, body := body,
      schemaSlot := schemaSlot, security := security }

/-- Reads a server. -/
def readServer (settings : Settings) : Reading Server := do
  let url ← required settings "url" readText
  let description ← setting settings "description" (readOptional readText) none
  pure { url := url, description := description }

/-- Reads a security scheme. -/
def readScheme (settings : Settings) : Reading SecurityScheme := do
  let standard : SecurityScheme := { name := "" }
  let name ← required settings "name" readText
  let type ← setting settings "type" readText standard.type
  let location ← setting settings "location" readText standard.location
  let parameter ← setting settings "parameter" readText standard.parameter
  let scheme ← setting settings "scheme" (readOptional readText) standard.scheme
  let description ← setting settings "description" readText standard.description
  pure
    { name := name, type := type, location := location, parameter := parameter, scheme := scheme,
      description := description }

/-- Reads a configuration. -/
def readConfig (settings : Settings) : Reading Config := do
  let standard : Config := {}
  let routerFile ← setting settings "router_path" (readOptional readPath) standard.routerFile
  let schemaFolder ← setting settings "schema_dir" (readOptional readPath) standard.schemaFolder
  let outputFolder ← setting settings "output_dir" readPath standard.outputFolder
  let title ← setting settings "title" readText standard.title
  let version ← setting settings "version" readText standard.version
  let description ← setting settings "description" readText standard.description
  let servers ← setting settings "servers" (settings.listOf readServer) standard.servers
  let basePath ← setting settings "base_path" readText standard.basePath
  let schemaSuffix ← setting settings "schema_suffix" readText standard.schemaSuffix
  let denied ← texts settings "denied_middlewares"
  let customs ← setting settings "custom_middlewares" (settings.listOf readCustom)
    standard.customs
  let schemes ← setting settings "security_schemes" (settings.listOf readScheme)
    standard.schemes
  pure
    { routerFile := routerFile, schemaFolder := schemaFolder, outputFolder := outputFolder,
      title := title, version := version, description := description, servers := servers,
      basePath := basePath, schemaSuffix := schemaSuffix, denied := denied, customs := customs,
      schemes := schemes }

/-- Takes the paths that the settings state relative to a folder. -/
def relativeTo (config : Config) (folder : Path) (settings : Settings) : Config :=
  { config with
    routerFile := config.routerFile.map (folder / ·)
    schemaFolder := config.schemaFolder.map (folder / ·)
    outputFolder :=
      if settings.entries.has "output_dir" then folder / config.outputFolder else config.outputFolder }

/-- Why a configuration could not be loaded. -/
inductive Fault where
  /-- The file could not be read. -/
  | unreadable (file : Path) (error : DiskError)
  /-- The file cannot be asked for. -/
  | path (fault : PathFault)
  /-- The file holds no text. -/
  | undecodable
  /-- The file holds no document. -/
  | malformed (file : Path)
  /-- A scalar of the document denotes nothing. -/
  | scalar (fault : Yaml.Fault)
  /-- The document is no mapping. -/
  | notMapping (file : Path)
  /-- A setting has a name that is no text. -/
  | otherKey
  /-- Settings are missing or of the wrong kind. -/
  | invalid (file : Path) (findings : List Finding)
  deriving DecidableEq, Repr, Inhabited

/-- The wording of a fault; a fault that was not foreseen has none. -/
def Fault.message? : Fault → Option String
  | .unreadable file error =>
      some ("cannot read config " ++ file.toString ++ ": " ++ error.message)
  | .malformed file => some ("invalid YAML in " ++ file.toString)
  | .notMapping file => some (file.toString ++ ": expected a mapping at top level")
  | .invalid file _ => some ("invalid config " ++ file.toString ++ ":")
  | .path _ => none
  | .undecodable => none
  | .scalar _ => none
  | .otherKey => none

/-- The configuration that a document states in a file. -/
def ofDocument (file : Path) (document : Yaml.Document) : Except Fault Config :=
  match if document.root.isVoid then .mapping [] false else document.root with
  | .mapping entries hasOtherKeys =>
      if hasOtherKeys then .error .otherKey
      else
        let settings : Settings := ⟨document, entries⟩
        match (readConfig settings).result with
        | .ok config => .ok (config.relativeTo file.parent settings)
        | .error findings => .error (.invalid file findings)
  | _ => .error (.notMapping file)

/-- Loads the configuration in a file. -/
def load (disk : Disk) (file : Path) : Except Fault Config :=
  match disk.read file with
  | .error (.disk error) => .error (.unreadable file error)
  | .error (.path fault) => .error (.path fault)
  | .error .undecodable => .error .undecodable
  | .ok text =>
      match Yaml.read text with
      | .error .malformed => .error (.malformed file)
      | .error fault => .error (.scalar fault)
      | .ok document => ofDocument file document

end Config

end RouteAtlas
