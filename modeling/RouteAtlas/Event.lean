import RouteAtlas.Path
import RouteAtlas.Route.Token

/-!
# Events of a run

What a run reports beside its result. Each event has a level, the channel it is reported on and a
message; together they make a log line.
-/

set_option autoImplicit false

namespace RouteAtlas

open Source Route

/-- How serious an event is. -/
inductive Level where
  | debug
  | info
  | warning
  deriving DecidableEq, Repr, Inhabited

/-- The name of a level. -/
def Level.name : Level → String
  | .debug => "DEBUG"
  | .info => "INFO"
  | .warning => "WARNING"

/-- The wording of a router that could not be located. -/
def unlocatedMessage (router : Text) (file : Path) : String :=
  "router '" ++ String.ofList router ++ "' not found in " ++ file.toString ++ " or its imports"

/-- Something a run reports. -/
inductive Event where
  /-- The routes of a span were read only up to a fault. -/
  | halted (halt : Halt)
  /-- A mount call with malformed arguments was passed over. -/
  | malformedMount (fault : Fault)
  /-- An imported router was found in another file. -/
  | routerFound (router : Text) (file : Path)
  /-- The main file mounts no router. -/
  | noMounts (file : Path)
  /-- A mounted router could not be located. -/
  | routerSkipped (router : Text) (file : Path)
  /-- The routes of a router are about to be read. -/
  | routerMounted (router mount : Text) (file : Path)
  /-- A malformed endpoint was passed over. -/
  | endpointSkipped (verb : Verb) (router : Text) (fault : Fault)
  /-- A router mounts one of the routers it is reached through. -/
  | cyclicMount (router : Text) (chain : List Text)
  /-- An endpoint takes the place of an earlier one. -/
  | replaced (method path : String)
  /-- A validator was called without arguments. -/
  | bareValidator (callee router : Text)
  /-- A validator names no schema. -/
  | noReference (expression router : Text)
  /-- A schema module was loaded. -/
  | moduleLoaded (file : String)
  /-- A nested schema was registered under another name. -/
  | nestedRenamed (name owner given : String)
  /-- A generated document has an inconsistency. -/
  | inconsistency (location message : String)
  /-- A document was written. -/
  | written (operations : Nat) (file : Path)
  deriving DecidableEq, Repr, Inhabited

namespace Event

/-- The level of an event. -/
def level : Event → Level
  | .halted _ => .warning
  | .malformedMount _ => .debug
  | .routerFound _ _ => .debug
  | .noMounts _ => .warning
  | .routerSkipped _ _ => .warning
  | .routerMounted _ _ _ => .debug
  | .endpointSkipped _ _ _ => .warning
  | .cyclicMount _ _ => .warning
  | .replaced _ _ => .info
  | .bareValidator _ _ => .warning
  | .noReference _ _ => .warning
  | .moduleLoaded _ => .debug
  | .nestedRenamed _ _ _ => .info
  | .inconsistency _ _ => .warning
  | .written _ _ => .info

/-- The channel an event is reported on. -/
def channel : Event → String
  | .halted _ => "routedoc.parser.endpoints"
  | .malformedMount _ => "routedoc.parser.locator"
  | .routerFound _ _ => "routedoc.parser.locator"
  | .noMounts _ => "routedoc.pipeline"
  | .routerSkipped _ _ => "routedoc.pipeline"
  | .routerMounted _ _ _ => "routedoc.pipeline"
  | .endpointSkipped _ _ _ => "routedoc.pipeline"
  | .cyclicMount _ _ => "routedoc.pipeline"
  | .replaced _ _ => "routedoc.generator.document"
  | .bareValidator _ _ => "routedoc.generator.middleware"
  | .noReference _ _ => "routedoc.generator.middleware"
  | .moduleLoaded _ => "routedoc.generator.schemas"
  | .nestedRenamed _ _ _ => "routedoc.generator.writer"
  | .inconsistency _ _ => "routedoc.generator.writer"
  | .written _ _ => "routedoc.generator.writer"

/-- The message of an event. -/
def message : Event → String
  | .halted (.literal fault) =>
      "Unterminated string literal, ignoring rest of router: " ++ fault.message
  | .halted (.call verb fault) =>
      "Unterminated ." ++ verb.name ++ "( call, ignoring rest of router: " ++ fault.message
  | .malformedMount fault => "Skipping malformed use() call: " ++ fault.message
  | .routerFound router file =>
      "Router " ++ String.ofList router ++ " resolved to " ++ file.toString
  | .noMounts file => "No router mounts found in " ++ file.toString
  | .routerSkipped router file => "Skipping router: " ++ unlocatedMessage router file
  | .routerMounted router mount file =>
      "Router " ++ String.ofList router ++ " mounted at /" ++ String.ofList mount
        ++ " (" ++ file.toString ++ ")"
  | .endpointSkipped verb router fault =>
      "Skipping " ++ verb.upperName ++ " endpoint in router " ++ String.ofList router ++ ": "
        ++ fault.message
  | .cyclicMount router chain =>
      "Router " ++ String.ofList router ++ " mounts itself through "
        ++ String.ofList (Text.join " -> ".toList chain) ++ ", skipping"
  | .replaced method path => "Replacing " ++ method ++ " " ++ path
  | .bareValidator callee router =>
      String.ofList callee ++ " without arguments in " ++ String.ofList router
  | .noReference expression router =>
      "No schema reference in " ++ String.ofList (Text.quoted expression)
        ++ " (router " ++ String.ofList router ++ ")"
  | .moduleLoaded file => "Loaded schema module " ++ file
  | .nestedRenamed name owner given =>
      "Nested schema " ++ name ++ " of " ++ owner ++ " registered as " ++ given
  | .inconsistency location message => location ++ ": " ++ message
  | .written operations file =>
      "Wrote " ++ toString operations ++ " operations to " ++ file.toString

/-- The log line of an event. -/
def line (event : Event) : String :=
  event.level.name ++ " " ++ event.channel ++ ": " ++ event.message

end Event

end RouteAtlas
