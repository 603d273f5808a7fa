import RouteAtlas.Middleware.Chain
import RouteAtlas.Route.Endpoint

/-!
# Generation

One pass over a main router file and the routers it mounts. Routers are taken in mount order and
endpoints in source order; then the routers mounted on a router are taken below its mount. Unlocated
routers and malformed endpoints are skipped. A router is not entered again while it is being
expanded. The nesting of mounts is bounded by `depth`.
-/

set_option autoImplicit false

namespace RouteAtlas.Generator

open Text Route Router Middleware Api Schema

/-- What a generation run works with. -/
structure Context where
  reader : Reader
  provider : Provider
  setup : Setup := {}
  schemaSuffix : String := ".schema.ts"

/-- Registers an endpoint in the document. -/
def register (record : Record) : Run Unit := do
  let session ← get
  Run.reportAll (session.document.registration record)
  modify fun session => { session with document := session.document.register record }

/-- The record of one route call. -/
def recordOf (context : Context) (declaration : Declaration) (tag mount : Text) (token : Token) :
    Run Record := do
  let found ← Run.ofSource (endpoint token.verb.name.toList token.arguments mount)
  build context.setup context.provider declaration
    { method := token.verb.name
      path := String.ofList found.path
      tag := String.ofList tag
      note := token.note.map String.ofList }
    found.chain

/-- Registers the route calls of a router, passing over malformed ones. -/
def visitRoutes (context : Context) (declaration : Declaration) (tag mount : Text) :
    List Token → Run Unit
  | [] => pure ()
  | token :: rest => do
      match ← (recordOf context declaration tag mount token).attempt with
      | .ok record => register record
      | .error (.structural fault) => Run.report (.endpointSkipped token.verb tag fault)
      | .error failure => throw failure
      visitRoutes context declaration tag mount rest

/-- A mount below another one. -/
def nestMount (mount inner : Text) : Text :=
  if mount.isEmpty then inner else if inner.isEmpty then mount else mount ++ '/' :: inner

mutual

/-- Adds a router and everything mounted on it. `chain` holds the routers being expanded. -/
def visitRouter (context : Context) : Nat → Text → Text → Path → List Text → Run Unit
  | 0, _, _, _, _ => throw .tooDeep
  | depth + 1, name, mount, file, chain => do
      match ← (locate context.reader context.schemaSuffix.toList name file).attempt with
      | .error (.unlocated router file) => Run.report (.routerSkipped router file)
      | .error failure => throw failure
      | .ok declaration => do
          Run.report (.routerMounted name mount declaration.file)
          let extraction := tokens declaration.span (some declaration.name)
          Run.reportAll (extraction.halt.map Event.halted).toList
          visitRoutes context declaration name mount extraction.tokens
          let scan := mounts declaration.span [] (some declaration.name)
          Run.reportAll (scan.faults.map Event.malformedMount)
          visitMounts context depth mount declaration.file (chain ++ [declaration.name]) scan.mounts
termination_by depth _ _ _ chain => (depth, 0, sizeOf chain)

/-- Adds the routers mounted on a router. -/
def visitMounts (context : Context) (depth : Nat) (mount : Text) (file : Path) (chain : List Text) :
    List Mount → Run Unit
  | [] => pure ()
  | inner :: rest => do
      if chain.contains inner.router then
        Run.report (.cyclicMount inner.router chain)
      else
        visitRouter context depth inner.router (nestMount mount inner.path) file chain
      visitMounts context depth mount file chain rest
termination_by mounts => (depth, 1, sizeOf mounts)

end

/-- Adds the routers mounted in the main file. -/
def visitRoots (context : Context) (depth : Nat) (file : Path) : List Mount → Run Unit
  | [] => pure ()
  | root :: rest => do
      visitRouter context depth root.router root.path file []
      visitRoots context depth file rest

/-- Registers security schemes. -/
def registerSchemes (schemes : List SecurityScheme) : Run Unit :=
  modify fun session =>
    { session with document := schemes.foldl Document.registerScheme session.document }

/-- The mounts of the main file. -/
def rootMounts (context : Context) (file : Path) (basePath : String) : Run (List Mount) := do
  match ← (mountsIn context.reader file basePath.toList).attempt with
  | .ok mounts => pure mounts
  | .error (.reading (.disk error)) => throw (.routerFile file error)
  | .error failure => throw failure

/-- Runs a generation pass and gives the assembled document. -/
def generate (context : Context) (depth : Nat) (file : Path) (basePath : String)
    (schemes : List SecurityScheme) : Run Document := do
  registerSchemes schemes
  let roots ← rootMounts context file basePath
  if roots.isEmpty then Run.report (.noMounts file)
  visitRoots context depth file roots
  pure (← get).document

/-- The number of router definitions in the texts of a disk. -/
def definitionCount (disk : Disk) : Nat :=
  (disk.files.map fun (_, bytes) =>
    match Disk.decode bytes with
    | .ok text => (markers text).length
    | .error _ => 0).foldl (· + ·) 0

/-- A nesting depth that no acyclic run over a disk reaches: every definition can be passed once for
every set of names on the chain. -/
def depthFor (disk : Disk) : Nat :=
  (definitionCount disk + 1) * (definitionCount disk + 1)

end RouteAtlas.Generator
