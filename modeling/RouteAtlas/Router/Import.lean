import RouteAtlas.Source.Lexeme
import RouteAtlas.Text.Word

/-!
# Import statements

An import statement starts on a line of its own and binds names to what a module exports. Its clause
may name the default export, the whole module and, in braces, single exports with optional aliases. A
type-only import binds nothing. The import section of a definition is the run of import statements
directly above it, with nothing but blanks, comments and semicolons between.
-/

set_option autoImplicit false

namespace RouteAtlas.Router

open Text Source

/-- The name under which the default export of a module is imported. -/
def defaultName : Text := "default".toList

/-- The name under which a whole module is imported. -/
def wholeModule : Text := "*".toList

/-- A name bound by an import statement, and where the statement stands. -/
structure Binding where
  localName : Text
  imported : Text
  module : Text
  start : Nat
  stop : Nat
  deriving DecidableEq, Repr, Inhabited

/-- The module named behind a clause, and the text behind the statement. -/
def fromModule? (text : Text) : Option (Text × Text) := do
  let rest ← dropStart? "from".toList text
  let rest ← skipBlanks1? rest
  match rest with
  | [] => none
  | quote :: rest =>
      if quote = '\'' || quote = '"' then
        let module := rest.takeWhile fun c => !(c == '\'' || c == '"')
        match rest.drop module.length with
        | close :: behind =>
            if close = quote && !module.isEmpty then
              match trimLeft behind with
              | ';' :: behind => some (module, behind)
              | behind => some (module, behind)
            else none
        | [] => none
      else none

/-- The shortest clause of at least one character that a module name follows, the module, and the
text behind the statement. `started` tells whether the clause has a character already. -/
def clause? (started : Bool) : Text → Option (Text × Text × Text)
  | [] => none
  | c :: rest =>
      match if started then (skipBlanks1? (c :: rest)).bind fromModule? else none with
      | some (module, behind) => some ([], module, behind)
      | none =>
          if c = ';' || c = '\'' || c = '"' then none
          else (clause? true rest).map fun (clause, found) => (c :: clause, found)

/-- The clause and the module of the import statement at the head of a line, and the text behind it.
Three blanks behind the keyword can stand for an empty clause. -/
def statement? (line : Text) : Option (Text × Text × Text) := do
  let rest ← dropStart? "import".toList (line.dropWhile fun c => c == ' ' || c == '\t')
  let blanks := rest.takeWhile isBlank
  let rest := rest.dropWhile isBlank
  if blanks.isEmpty then none
  else
    match clause? false rest with
    | some found => some found
    | none =>
        if blanks.length ≥ 3 then
          (fromModule? rest).map fun (module, behind) => ([], module, behind)
        else none

/-- The non-blank trimmed parts of a text between commas. -/
def listed (text : Text) : List Text :=
  ((partsBy ',' text).map trim).filter fun part => !part.isEmpty

/-- The clause before its first brace and the text between that brace and the last closing one; a
missing closing brace costs the last character. -/
def splitBraces (clause : Text) : Text × Text :=
  match cut? ['\x7b'] clause with
  | none => (clause, [])
  | some (before, _) =>
      let reversed := clause.reverse
      let behind := reversed.takeWhile (· ≠ '\x7d')
      let stop := if behind.length = clause.length then clause.length - 1
        else clause.length - behind.length - 1
      (before, (clause.take stop).drop (before.length + 1))

/-- The names bound by the part of a clause outside braces, with what they import. -/
def outerNames (clause : Text) : List (Text × Text) :=
  (listed clause).map fun part =>
    if startsWith part ['*'] then
      match cut? "as".toList part with
      | some (_, name) => (trim name, wholeModule)
      | none => (part, wholeModule)
    else (part, defaultName)

/-- The names bound by the part of a clause inside braces, with what they import. -/
def bracedNames (text : Text) : List (Text × Text) :=
  (listed text).map fun part =>
    match cut? " as ".toList part with
    | none => (trim part, trim part)
    | some (before, behind) =>
        let name := trim behind
        (if name.isEmpty then trim before else name, trim before)

/-- The names bound by a clause, with what they import. -/
def clauseNames (clause : Text) : List (Text × Text) :=
  let clause := trim clause
  if startsWith clause "type ".toList then []
  else
    let (outer, braced) := splitBraces clause
    outerNames outer ++ bracedNames braced

/-- A statement with where it stands. -/
structure Statement where
  clause : Text
  module : Text
  start : Nat
  stop : Nat
  deriving DecidableEq, Repr, Inhabited

/-- The import statements of a text from an offset on. `lineStart` tells whether the text begins a
line. -/
def statementsFrom : Nat → Nat → Bool → Text → List Statement
  | _, _, _, [] => []
  | skip + 1, offset, _, c :: rest => statementsFrom skip (offset + 1) (c == '\n') rest
  | 0, offset, lineStart, c :: rest =>
      match if lineStart then statement? (c :: rest) else none with
      | some (clause, module, behind) =>
          let length := rest.length + 1 - behind.length
          { clause := clause, module := module, start := offset, stop := offset + length }
            :: statementsFrom (length - 1) (offset + 1) (c == '\n') rest
      | none => statementsFrom 0 (offset + 1) (c == '\n') rest

/-- The import statements of a text, in order. -/
def statements (code : Text) : List Statement := statementsFrom 0 0 true code

/-- The bindings of a statement. -/
def Statement.bindings (statement : Statement) : List Binding :=
  (clauseNames statement.clause).map fun (localName, imported) =>
    { localName := localName, imported := imported, module := statement.module,
      start := statement.start, stop := statement.stop }

/-- Every name bound by the import statements of a text, in order. -/
def bindings (code : Text) : List Binding :=
  (statements code).flatMap Statement.bindings

/-- Nothing but blanks, comments and semicolons stands between two offsets. -/
def isImportGap (code : Text) (start stop : Nat) : Bool :=
  isBlankText ((withoutComments ((code.take stop).drop start)).filter (· ≠ ';'))

/-- Walks bindings from the last statement up, as long as the gaps are empty; what is taken comes out
in reverse. -/
def sectionFrom (code : Text) (cursor : Nat) : List Binding → List Binding → List Binding
  | taken, [] => taken
  | taken, binding :: rest =>
      if binding.stop > cursor then sectionFrom code cursor (binding :: taken) rest
      else if isImportGap code binding.stop cursor then
        sectionFrom code binding.start (binding :: taken) rest
      else taken

/-- The bindings of the run of import statements directly above an offset. -/
def importsAbove (code : Text) (start : Nat) (bindings : List Binding) : List Binding :=
  let above := bindings.filter fun binding => binding.stop ≤ start
  sectionFrom code start [] (above.mergeSort fun a b => a.start ≥ b.start)

end RouteAtlas.Router
