import RouteAtlas.Text.Likeness
import RouteAtlas.Text.Quoted
import RouteAtlas.Text.Word

/-!
# Command-line arguments

The switches of the commands and the reading of an argument list. A switch has a long name behind two
dashes and may have a letter behind one. A value follows its long name as the next argument or behind
an equals sign, and its letter as the next argument or at once; letters without values may stand
together. Two dashes alone end the switches. For a long name or a command that is not known, those that
are most like it are suggested.
-/

set_option autoImplicit false

namespace RouteAtlas.CommandLine

open Text

/-- The switches of the commands. -/
inductive Switch where
  | verbose
  | help
  | config
  | schemas
  | output
  | server
  | title
  | apiVersion
  | basePath
  | deny
  deriving DecidableEq, Repr, Inhabited

namespace Switch

/-- The long name of a switch with its dashes. -/
def long : Switch → String
  | .verbose => "--verbose"
  | .help => "--help"
  | .config => "--config"
  | .schemas => "--schemas"
  | .output => "--output"
  | .server => "--server"
  | .title => "--title"
  | .apiVersion => "--api-version"
  | .basePath => "--base-path"
  | .deny => "--deny"

/-- The letter of a switch. -/
def letter? : Switch → Option Char
  | .verbose => some 'v'
  | .config => some 'c'
  | .schemas => some 's'
  | .output => some 'o'
  | _ => none

/-- The switch is followed by a value. -/
def takesValue : Switch → Bool
  | .verbose => false
  | .help => false
  | _ => true

end Switch

/-- A command of the program. -/
inductive Command where
  | generate
  | routes
  deriving DecidableEq, Repr, Inhabited

namespace Command

/-- The name of a command. -/
def name : Command → String
  | .generate => "generate"
  | .routes => "routes"

/-- All commands. -/
def all : List Command := [.generate, .routes]

/-- The command with a name. -/
def ofName? (name : String) : Option Command :=
  all.find? fun command => command.name == name

/-- The switches of a command. -/
def switches : Command → List Switch
  | .generate =>
      [.config, .schemas, .output, .server, .title, .apiVersion, .basePath, .deny, .help]
  | .routes => [.config, .schemas, .basePath, .help]

end Command

/-- The switches in front of a command. -/
def commonSwitches : List Switch := [.verbose, .help]

/-- What is wrong with an argument list. -/
inductive Misuse where
  | unknownSwitch (name : String) (similar : List String)
  | missingValue (name : String)
  | needlessValue (name : String)
  | missingCommand
  | unknownCommand (name : String) (similar : List String)
  | extraArguments (arguments : List String)
  | noFile (hint path : String)
  | fileIsFolder (hint path : String)
  | folderIsFile (hint path : String)
  | noRouter
  deriving DecidableEq, Repr, Inhabited

namespace Misuse

/-- A text in quotes. -/
def shown (text : String) : String := String.ofList (quoted text.toList)

/-- The wording of a suggestion, behind a sentence. -/
def suggestion : List String → String
  | [] => ""
  | [name] => " Did you mean " ++ shown name ++ "?"
  | names => " (Did you mean one of: " ++ ", ".intercalate (names.map shown) ++ "?)"

/-- The wording of a misuse. -/
def message : Misuse → String
  | .unknownSwitch name similar => "No such option " ++ shown name ++ "." ++ suggestion similar
  | .missingValue name => "Option " ++ shown name ++ " requires an argument."
  | .needlessValue name => "Option " ++ shown name ++ " does not take a value."
  | .missingCommand => "Missing command."
  | .unknownCommand name similar => "No such command " ++ shown name ++ "." ++ suggestion similar
  | .extraArguments [argument] => "Got unexpected extra argument (" ++ argument ++ ")"
  | .extraArguments arguments =>
      "Got unexpected extra arguments (" ++ " ".intercalate arguments ++ ")"
  | .noFile hint path => "Invalid value for " ++ hint ++ ": File " ++ shown path ++ " does not exist."
  | .fileIsFolder hint path =>
      "Invalid value for " ++ hint ++ ": File " ++ shown path ++ " is a directory."
  | .folderIsFile hint path =>
      "Invalid value for " ++ hint ++ ": Directory " ++ shown path ++ " is a file."
  | .noRouter => "No router file given (argument or router_path in --config)."

/-- The misuse is reported together with how the command is used; one of a switch's value is not. -/
def showsUsage : Misuse → Bool
  | .missingValue _ => false
  | .needlessValue _ => false
  | _ => true

end Misuse

/-- The names most like a name. -/
def similarNames (name : String) (names : List String) : List String :=
  (closeMatches name.toList (names.map String.toList)).map String.ofList

/-- A switch that was given, with its value if it takes one. -/
structure Given where
  switch : Switch
  value : String := ""
  deriving DecidableEq, Repr, Inhabited

/-- What one argument says: switches, and perhaps one, under the name it was given by, whose value is
the next argument. -/
structure Reading where
  given : List Given := []
  pending : Option (Switch × String) := none
  deriving DecidableEq, Repr, Inhabited

/-- Reads letters behind one dash. -/
def readLetters (known : List Switch) : Text → Except Misuse Reading
  | [] => .ok {}
  | c :: rest =>
      let name := String.ofList ['-', c]
      match known.find? fun switch => switch.letter? == some c with
      | none => .error (.unknownSwitch name [])
      | some switch =>
          if switch.takesValue then
            if rest.isEmpty then .ok { pending := some (switch, name) }
            else .ok { given := [⟨switch, String.ofList rest⟩] }
          else do
            let others ← readLetters known rest
            pure { others with given := ⟨switch, ""⟩ :: others.given }

/-- An argument cut at its first equals sign. -/
def splitValue (argument : Text) : Text × Option Text :=
  match cut? ['='] argument with
  | some (name, value) => (name, some value)
  | none => (argument, none)

/-- Reads an argument that starts with a dash. -/
def readSwitch (known : List Switch) (argument : Text) : Except Misuse Reading :=
  let (name, value) := splitValue argument
  let name := String.ofList name
  match known.find? fun switch => switch.long == name with
  | some switch =>
      match switch.takesValue, value with
      | true, some value => .ok { given := [⟨switch, String.ofList value⟩] }
      | true, none => .ok { pending := some (switch, name) }
      | false, some _ => .error (.needlessValue name)
      | false, none => .ok { given := [⟨switch, ""⟩] }
  | none =>
      match argument with
      | '-' :: '-' :: _ =>
          .error (.unknownSwitch name (similarNames name (known.map Switch.long)))
      | _ => readLetters known (argument.drop 1)

/-- An argument list read: the switches given, in order, and the other arguments. -/
structure Arguments where
  given : List Given := []
  free : List String := []
  deriving DecidableEq, Repr, Inhabited

/-- The argument starts with a dash and is no dash alone. -/
def isSwitch (argument : Text) : Bool :=
  match argument with
  | '-' :: _ :: _ => true
  | _ => false

/-- Reads an argument list. Where switches may not be mixed with other arguments, the first of these
ends the switches. -/
def readArguments (known : List Switch) (isMixed : Bool) :
    List String → Except Misuse Arguments
  | [] => .ok {}
  | argument :: rest =>
      if argument = "--" then .ok { free := rest }
      else if isSwitch argument.toList then
        match readSwitch known argument.toList with
        | .error misuse => .error misuse
        | .ok ⟨given, none⟩ => do
            let others ← readArguments known isMixed rest
            pure { others with given := given ++ others.given }
        | .ok ⟨given, some (switch, name)⟩ =>
            match rest with
            | [] => .error (.missingValue name)
            | value :: rest => do
                let others ← readArguments known isMixed rest
                pure { others with given := given ++ ⟨switch, value⟩ :: others.given }
      else if isMixed then do
        let others ← readArguments known isMixed rest
        pure { others with free := argument :: others.free }
      else .ok { free := argument :: rest }

/-- The name does not start like a word, so it may have been meant as a switch. -/
def isMarked (name : Text) : Bool :=
  match name with
  | [] => false
  | c :: _ => !isAlphanumeric c

namespace Arguments

/-- The values of a switch, in order. -/
def values (arguments : Arguments) (switch : Switch) : List String :=
  (arguments.given.filter fun given => given.switch = switch).map Given.value

/-- The last value of a switch. -/
def last? (arguments : Arguments) (switch : Switch) : Option String :=
  (arguments.values switch).getLast?

/-- The switch was given. -/
def has (arguments : Arguments) (switch : Switch) : Bool :=
  arguments.given.any fun given => given.switch = switch

end Arguments

end RouteAtlas.CommandLine
