import RouteAtlas.CommandLine.Arguments

/-!
# Help

How the program and its commands are used, and the help that lists their switches and commands in two
columns: a term, and behind the longest one what it is for. Words of the second column are packed into
lines as long as they fit.
-/

set_option autoImplicit false

namespace RouteAtlas.CommandLine

open Text

/-- The name the program is called by. -/
def programName : String := "routedoc"

/-- How the program or a command is used. -/
def usage : Option Command → String
  | none => programName ++ " [OPTIONS] COMMAND [ARGS]..."
  | some command => programName ++ " " ++ command.name ++ " [OPTIONS] [ROUTER_PATH]"

/-- The call that shows help. -/
def helpCall : Option Command → String
  | none => programName ++ " --help"
  | some command => programName ++ " " ++ command.name ++ " --help"

/-- A line of text. -/
def line (text : String) : String := text ++ "\n"

/-- A text with blanks behind it up to a width. -/
def padRight (width : Nat) (text : Text) : Text :=
  text ++ List.replicate (width - text.length) ' '

/-! ## What things are for -/

/-- What the program or a command does. -/
def purpose : Option Command → String
  | none => "routedoc: generate OpenAPI documents from router source files."
  | some .generate => "Scan ROUTER_PATH and write the OpenAPI document."
  | some .routes => "List the endpoints discovered in ROUTER_PATH."

namespace Switch

/-- What kind of value a switch takes. -/
def valueKind : Switch → String
  | .config => "FILE"
  | .schemas => "DIRECTORY"
  | .output => "DIRECTORY"
  | _ => "TEXT"

/-- What a switch is for. -/
def purpose : Switch → String
  | .verbose => "Enable debug logging."
  | .help => "Show this message and exit."
  | .config => "YAML configuration file."
  | .schemas => "Directory of Python schema modules."
  | .output => "Output directory for openapi-docs.yml."
  | .server => "Server URL (repeatable)."
  | .title => "API title."
  | .apiVersion => "API version."
  | .basePath => "Mount prefix to strip from router paths."
  | .deny => "Middleware never used as the operation summary (repeatable)."

/-- A switch with its letter and the kind of its value. -/
def term (switch : Switch) : String :=
  (match switch.letter? with
    | some letter => String.ofList ['-', letter] ++ ", "
    | none => "")
  ++ switch.long ++ (if switch.takesValue then " " ++ switch.valueKind else "")

end Switch

/-! ## Layout -/

/-- The width of help. -/
def helpWidth : Nat := 78

/-- The blanks in front of every line of a section. -/
def helpMargin : Nat := 2

/-- Lines with one more word: on the last one where it fits, or else on a line of its own. The last
line comes first. -/
def packWord (width : Nat) (lines : List Text) (word : Text) : List Text :=
  match lines with
  | [] => [word]
  | last :: before =>
      if last.length + 1 + word.length ≤ width then (last ++ ' ' :: word) :: before
      else word :: lines

/-- The words of a text packed into lines of a width. -/
def packWords (width : Nat) (text : Text) : List Text :=
  ((partsBy ' ' text).foldl (packWord width) []).reverse

/-- The lines of a term and what it is for; `column` is where the second column starts. -/
def helpRow (column : Nat) (term purpose : String) : String :=
  let blanks := List.replicate (helpMargin + column) ' '
  let first := List.replicate helpMargin ' ' ++ padRight column term.toList
  match packWords (helpWidth - column - helpMargin) purpose.toList with
  | [] => line (String.ofList first)
  | text :: more =>
      line (String.ofList (first ++ text))
        ++ String.join (more.map fun text => line (String.ofList (blanks ++ text)))

/-- A section of help. -/
def helpSection (heading : String) (rows : List (String × String)) : String :=
  let column := (rows.map fun (term, _) => term.length).foldl max 0 + 2
  line "" ++ line (heading ++ ":")
    ++ String.join (rows.map fun (term, purpose) => helpRow column term purpose)

/-- The help of the program or a command. -/
def help (command : Option Command) : String :=
  let switches := match command with
    | none => commonSwitches
    | some command => command.switches
  let commands := match command with
    | none => helpSection "Commands"
        (Command.all.map fun command => (command.name, purpose (some command)))
    | some _ => ""
  line ("Usage: " ++ usage command) ++ line "" ++ line ("  " ++ purpose command)
    ++ helpSection "Options" (switches.map fun switch => (switch.term, switch.purpose)) ++ commands

end RouteAtlas.CommandLine
