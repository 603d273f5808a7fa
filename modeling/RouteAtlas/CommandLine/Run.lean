import RouteAtlas.CommandLine.Help
import RouteAtlas.Config.Basic
import RouteAtlas.Generator
import RouteAtlas.OpenApi.Output
import RouteAtlas.Schema.ModuleProvider

/-!
# Running a command

A command is a function of a disk and an argument list. It leaves behind an exit code, what it writes
to its two outputs, and the disk. `generate` writes the document of a router file; `routes` lists its
endpoints. A misuse of the command line ends with code two; a failure that the program foresees ends
with code one and a message, and any other failure with code one alone. Which lines the standard output
takes depends on its encoding, and a line that it does not take ends the run; the standard error output
shows surrogates by their code points.
-/

set_option autoImplicit false

namespace RouteAtlas.CommandLine

open Api

/-- A failure that escapes the program. -/
inductive Escape where
  | run (failure : Failure)
  | document (misshape : OpenApi.Misshape)
  | config (fault : Config.Fault)
  | path (fault : PathFault)
  /-- The standard output does not take a line. -/
  | unprintable
  deriving DecidableEq, Repr, Inhabited

/-- A standard output, by the lines it takes: an encoding refuses a line as a whole, and none refuses a
line of ASCII characters, as those of the help and of counts are. -/
structure OutputStream where
  takes : String → Bool
  takes_ascii : ∀ text : String, (∀ c ∈ text.toList, c.toNat < 0x80) → takes text = true

/-- A standard output in UTF-8 that refuses surrogates and takes any other line. -/
def OutputStream.strict : OutputStream where
  takes text := !Text.hasSurrogate text.toList
  takes_ascii text h := by rw [Text.hasSurrogate_of_ascii h, Bool.not_false]

/-- What a command leaves behind. -/
structure Outcome where
  exitCode : Nat
  /-- What is written to the standard output. -/
  output : String := ""
  /-- What is written to the standard error output. -/
  report : String := ""
  disk : Disk
  escape : Option Escape := none

/-! ## Misuse -/

/-- The report of a misuse. -/
def misuseReport (command : Option Command) (misuse : Misuse) : String :=
  (if misuse.showsUsage then
    line ("Usage: " ++ usage command) ++ line ("Try '" ++ helpCall command ++ "' for help.") ++ line ""
  else "") ++ line ("Error: " ++ misuse.message)

/-- The outcome of a misuse. -/
def misused (disk : Disk) (command : Option Command) (misuse : Misuse) : Outcome :=
  { exitCode := 2, report := misuseReport command misuse, disk := disk }

/-- The outcome of asking for help. -/
def helped (disk : Disk) (command : Option Command) : Outcome :=
  { exitCode := 0, output := help command, disk := disk }

/-- The outcome of saying nothing. -/
def helpedUnasked (disk : Disk) : Outcome := { exitCode := 2, report := help none, disk := disk }

/-! ## Checking paths -/

/-- How a switch is called where its value is at fault. -/
def Switch.hint (switch : Switch) : String :=
  match switch.letter? with
  | some letter => "'" ++ String.ofList ['-', letter] ++ "' / '" ++ switch.long ++ "'"
  | none => "'" ++ switch.long ++ "'"

/-- How the router file is called where it is at fault. -/
def routerHint : String := "'[ROUTER_PATH]'"

/-- What a path leads to as it is written: an empty path leads nowhere, and nothing but a folder may
stand before a slash at its end. -/
def placeOf (disk : Disk) (path : String) : Disk.Place :=
  if path.isEmpty then .missing
  else
    match disk.place (Path.ofString path) with
    | .file segments bytes =>
        if Text.endsWith path.toList ['/'] || Text.endsWith path.toList ['/', '.'] then .blocked
        else .file segments bytes
    | place => place

/-- Why the arguments of a command are refused. -/
inductive Refusal where
  | misuse (misuse : Misuse)
  | path (fault : PathFault)
  deriving DecidableEq, Repr, Inhabited

/-- A path must be one that a disk can be asked for. -/
def needPath (path : String) : Except Refusal Unit :=
  match (Path.ofString path).fault? with
  | some fault => .error (.path fault)
  | none => .ok ()

/-- A path must lead to a file. -/
def needFile (disk : Disk) (hint path : String) : Except Refusal Unit := do
  needPath path
  match placeOf disk path with
  | .file _ _ => pure ()
  | .folder _ => throw (.misuse (.fileIsFolder hint path))
  | .root => throw (.misuse (.fileIsFolder hint path))
  | _ => throw (.misuse (.noFile hint path))

/-- A path must not lead to a file. -/
def needFolder (disk : Disk) (hint path : String) : Except Refusal Unit := do
  needPath path
  match placeOf disk path with
  | .file _ _ => throw (.misuse (.folderIsFile hint path))
  | _ => pure ()

/-- Checks the value of a switch. -/
def checkSwitch (disk : Disk) (switch : Switch) (value : String) : Except Refusal Unit :=
  match switch with
  | .config => needFile disk switch.hint value
  | .schemas => needFolder disk switch.hint value
  | .output => needFolder disk switch.hint value
  | _ => .ok ()

/-- Checks the switches in the order in which they were first given, each by its last value. -/
def checkSwitches (disk : Disk) (arguments : Arguments) : List Given → Except Refusal Unit
  | [] => .ok ()
  | given :: rest => do
      checkSwitch disk given.switch ((arguments.last? given.switch).getD "")
      checkSwitches disk arguments rest

/-- Checks the arguments of a command and gives the router file. -/
def checkArguments (disk : Disk) (arguments : Arguments) : Except Refusal (Option String) := do
  checkSwitches disk arguments arguments.given
  match arguments.free with
  | [] => pure none
  | router :: extra =>
      needFile disk routerHint router
      if extra.isEmpty then pure (some router) else throw (.misuse (.extraArguments extra))

/-! ## Settings -/

/-- A configuration with what the arguments say instead. -/
def override (config : Config) (arguments : Arguments) (router : Option String) : Config :=
  let servers := arguments.values .server
  { config with
    routerFile := (router.map Path.ofString) <|> config.routerFile
    schemaFolder := ((arguments.last? .schemas).map Path.ofString) <|> config.schemaFolder
    outputFolder := ((arguments.last? .output).map Path.ofString).getD config.outputFolder
    title := (arguments.last? .title).getD config.title
    version := (arguments.last? .apiVersion).getD config.version
    basePath := (arguments.last? .basePath).getD config.basePath
    servers := if servers.isEmpty then config.servers else servers.map fun url => { url := url }
    denied := config.denied ++ arguments.values .deny }

/-- The configuration that the arguments name, or the standard one. -/
def baseConfig (disk : Disk) (arguments : Arguments) : Except Config.Fault Config :=
  match arguments.last? .config with
  | some file => Config.load disk (Path.ofString file)
  | none => .ok {}

/-! ## Commands -/

/-- The log lines of events: warnings, and all others on demand. -/
def logLines (isVerbose : Bool) (events : List Event) : String :=
  String.join ((events.filter fun event => isVerbose || event.level == .warning).map fun event =>
    line event.line)

/-- The report of a foreseen failure. -/
def errorLine (message : String) : String := line ("Error: " ++ message)

/-- What a generation run over a disk gives, and the events it reports. -/
def generated (root : String) (disk : Disk) (config : Config) (router : Path) :
    Except Failure Document × List Event :=
  let context : Generator.Context :=
    { reader := disk.read
      provider := Schema.moduleProvider root disk config.schemaFolder
      setup := { customs := config.customs, denied := config.denied }
      schemaSuffix := config.schemaSuffix }
  let (outcome, session) := (Generator.generate context (Generator.depthFor disk) router
    config.basePath config.schemes).run.run {}
  (outcome, session.events)

/-- The outcome of a generation run that failed. -/
def failed (disk : Disk) (output report : String) (failure : Failure) : Outcome :=
  if failure.isForeseen then
    { exitCode := 1, output := output, report := report ++ errorLine failure.message, disk := disk }
  else
    { exitCode := 1, output := output, report := report, disk := disk, escape := some (.run failure) }

/-- The information of a configuration about the interface as a whole. -/
def infoOf (config : Config) : OpenApi.Info :=
  { title := config.title
    version := config.version
    servers := config.servers
    description := config.description }

/-- Ends a command that goes on to write a line to its standard output. -/
def Outcome.saying (outcome : Outcome) (stream : OutputStream) (text : String) : Outcome :=
  if stream.takes text then { outcome with output := outcome.output ++ line text }
  else { outcome with exitCode := 1, escape := some .unprintable }

/-- Writes the document of a router file that was announced on the standard output. -/
def runAnnounced (stream : OutputStream) (root : String) (disk : Disk) (isVerbose : Bool)
    (config : Config) (router : Path) (scanning : String) : Outcome :=
  match generated root disk config router with
  | (.error failure, events) => failed disk scanning (logLines isVerbose events) failure
  | (.ok document, events) =>
      let found := scanning
        ++ line ("Found " ++ toString document.endpoints.length ++ " endpoints.")
      let written := OpenApi.output disk document (infoOf config) config.outputFolder
        OpenApi.outputName
      let report := logLines isVerbose (events ++ written.events)
      match written.outcome with
      | .ok target =>
          Outcome.saying { exitCode := 0, output := found, report := report, disk := written.disk }
            stream ("OpenAPI document saved to " ++ target.toString)
      | .error (.unwritable target cause) =>
          { exitCode := 1
            output := found
            report := report ++ errorLine (OpenApi.unwritableMessage target cause)
            disk := written.disk }
      | .error (.misshapen misshape) =>
          { exitCode := 1
            output := found
            report := report
            disk := written.disk
            escape := some (.document misshape) }
      | .error (.path fault) =>
          { exitCode := 1
            output := found
            report := report
            disk := written.disk
            escape := some (.path fault) }

/-- Writes the document of a router file. -/
def runGenerate (stream : OutputStream) (root : String) (disk : Disk) (isVerbose : Bool)
    (config : Config) (router : Path) : Outcome :=
  let scanning := "Scanning " ++ router.toString ++ "..."
  if stream.takes scanning then
    runAnnounced stream root disk isVerbose config router (line scanning)
  else { exitCode := 1, disk := disk, escape := some .unprintable }

/-- The line of an endpoint in a list. -/
def routeLine (record : Record) : String :=
  String.ofList (padRight 7 (Text.upper record.method.toList)) ++ " " ++ record.path ++ "  "
    ++ record.summary ++ "  [" ++ record.tag ++ "]"

/-- Lists the endpoints of a router file. -/
def runRoutes (stream : OutputStream) (root : String) (disk : Disk) (isVerbose : Bool)
    (config : Config) (router : Path) : Outcome :=
  match generated root disk config router with
  | (.error failure, events) => failed disk "" (logLines isVerbose events) failure
  | (.ok document, events) =>
      let lines := document.records.map routeLine
      let printed := lines.takeWhile stream.takes
      { exitCode := if printed.length = lines.length then 0 else 1
        output := String.join (printed.map line)
        report := logLines isVerbose events
        disk := disk
        escape := if printed.length = lines.length then none else some .unprintable }

/-- Runs a command with its arguments. -/
def runCommand (stream : OutputStream) (root : String) (disk : Disk) (isVerbose : Bool)
    (command : Command) (arguments : Arguments) : Outcome :=
  if arguments.has .help then helped disk (some command)
  else
    match checkArguments disk arguments with
    | .error (.misuse misuse) => misused disk (some command) misuse
    | .error (.path fault) => { exitCode := 1, disk := disk, escape := some (.path fault) }
    | .ok router =>
        match baseConfig disk arguments with
        | .error fault =>
            match fault.message? with
            | some message => { exitCode := 1, report := errorLine message, disk := disk }
            | none => { exitCode := 1, disk := disk, escape := some (.config fault) }
        | .ok base =>
            let config := override base arguments router
            match config.routerFile with
            | none => misused disk (some command) .noRouter
            | some file =>
                match command with
                | .generate => runGenerate stream root disk isVerbose config file
                | .routes => runRoutes stream root disk isVerbose config file

/-- The outcome of a command that is not known. A name that does not start like a word is first read
once more, together with what follows it, as switches in front of a command. -/
def unknownCommand (disk : Disk) (name : String) (rest : List String) : Outcome :=
  let unknown := misused disk none
    (.unknownCommand name (similarNames name (Command.all.map Command.name)))
  if isMarked name.toList then
    match readArguments commonSwitches false (name :: rest) with
    | .error misuse => misused disk none misuse
    | .ok common => if common.has .help then helped disk none else unknown
  else unknown

/-- Runs the program without a look at what its standard error output takes. -/
def execute (stream : OutputStream) (root : String) (disk : Disk) (arguments : List String) :
    Outcome :=
  if arguments.isEmpty then helpedUnasked disk
  else
    match readArguments commonSwitches false arguments with
    | .error misuse => misused disk none misuse
    | .ok common =>
        if common.has .help then helped disk none
        else
          match common.free with
          | [] => misused disk none .missingCommand
          | name :: rest =>
              match Command.ofName? name with
              | none => unknownCommand disk name rest
              | some command =>
                  match readArguments command.switches true rest with
                  | .error misuse => misused disk (some command) misuse
                  | .ok arguments =>
                      runCommand stream root disk (common.has .verbose) command arguments

/-- Runs the program. `stream` is its standard output, and `root` is the absolute path of the folder that
the disk shows. -/
def run (stream : OutputStream) (root : String) (disk : Disk) (arguments : List String) : Outcome :=
  let outcome := execute stream root disk arguments
  { outcome with report := String.ofList (Text.withoutSurrogates outcome.report.toList) }

end RouteAtlas.CommandLine
