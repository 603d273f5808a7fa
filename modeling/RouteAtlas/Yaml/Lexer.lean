import RouteAtlas.Yaml.Flow
import RouteAtlas.Yaml.Property

/-!
# Reading tokens

A lexer reads a document from left to right. In block context the indentation of a line opens and
closes collections: `margin` is one more than the column of the innermost open collection, and zero
where none is open. A node that may turn out to be a key without a mark of its own is remembered as a
candidate with the number of its first token; a colon on the same line, at most 1024 characters later,
confirms it, and the key token is entered in front of it. A candidate at the margin of its mapping has
to be confirmed.

A token is handed over as soon as no candidate can put another one in front of it, so that a fault
further on in the text is met only by a reader that gets as far.
-/

set_option autoImplicit false

namespace RouteAtlas.Yaml

/-- A place in a document: the unread text, the characters read, and the line and column reached. -/
structure Cursor where
  rest : Text
  index : Nat := 0
  line : Nat := 0
  column : Nat := 0
  deriving DecidableEq, Repr, Inhabited

/-- The cursor behind one character. -/
def Cursor.pass (cursor : Cursor) (c : Char) (rest : Text) : Cursor :=
  if isBreak c then
    { rest := rest, index := cursor.index + 1, line := cursor.line + 1, column := 0 }
  else
    { cursor with
      rest := rest
      index := cursor.index + 1
      column := if c = byteOrderMark then cursor.column else cursor.column + 1 }

/-- The cursor behind a number of characters. -/
def Cursor.advance (cursor : Cursor) : Nat → Cursor
  | 0 => cursor
  | count + 1 =>
      match cursor.rest with
      | [] => cursor
      | c :: rest => (cursor.pass c rest).advance count

/-- The number of characters that a text has more than another one. -/
def excess : Text → Text → Nat
  | text, [] => text.length
  | [], _ :: _ => 0
  | _ :: text, _ :: other => excess text other

/-- The cursor before a later part of the text. -/
def Cursor.moveTo (cursor : Cursor) (rest : Text) : Cursor :=
  cursor.advance (excess cursor.rest rest)

/-- A node that may be a key. -/
structure Candidate where
  /-- The number of tokens before it. -/
  number : Nat
  isRequired : Bool
  index : Nat
  line : Nat
  column : Nat
  deriving DecidableEq, Repr, Inhabited

/-- The state of a lexer. `pending` holds the tokens read and not handed over, in reverse, and `taken`
counts those handed over. `candidates` holds at most one candidate for every open bracket, the
innermost first, and one for the block around all of them. -/
structure Lexer where
  cursor : Cursor
  margin : Nat := 0
  margins : List Nat := []
  mayStartKey : Bool := true
  candidates : List (Option Candidate) := [none]
  taken : Nat := 0
  pending : List Token := []
  isDone : Bool := false
  deriving Inhabited

namespace Lexer

/-- The lexer stands inside brackets. -/
def inFlow (lexer : Lexer) : Bool := lexer.candidates.length > 1

/-- The lexer with one more token. -/
def emit (lexer : Lexer) (token : Token) : Lexer :=
  { lexer with pending := token :: lexer.pending }

/-- The number of tokens read. -/
def count (lexer : Lexer) : Nat := lexer.taken + lexer.pending.length

/-- The lexer with a token entered behind the first `number` tokens. -/
def insert (lexer : Lexer) (number : Nat) (token : Token) : Lexer :=
  let later := lexer.count - number
  { lexer with pending := lexer.pending.take later ++ token :: lexer.pending.drop later }

/-- Closes the block collections whose margin is above a limit. -/
def closeAbove (limit margin : Nat) : List Nat → List Token → Nat × List Nat × List Token
  | [], tokens => (margin, [], tokens)
  | outer :: margins, tokens =>
      if limit < margin then closeAbove limit outer margins (.blockEnd :: tokens)
      else (margin, outer :: margins, tokens)

/-- Closes block collections down to a limit; inside brackets there are none to close. -/
def unwind (limit : Nat) (lexer : Lexer) : Lexer :=
  if lexer.inFlow then lexer
  else
    let (margin, margins, pending) := closeAbove limit lexer.margin lexer.margins lexer.pending
    { lexer with margin := margin, margins := margins, pending := pending }

/-- Opens a block collection at a column; tells whether it is new. -/
def indentTo (column : Nat) (lexer : Lexer) : Bool × Lexer :=
  if lexer.margin < column + 1 then
    (true, { lexer with margin := column + 1, margins := lexer.margin :: lexer.margins })
  else (false, lexer)

/-- Drops a candidate, which must not be required. -/
def dropCandidate (lexer : Lexer) : Except Fault Lexer :=
  match lexer.candidates with
  | some candidate :: outer =>
      if candidate.isRequired then .error .malformed
      else .ok { lexer with candidates := none :: outer }
  | _ => .ok lexer

/-- A candidate can no longer be confirmed. -/
def isStale (cursor : Cursor) (candidate : Candidate) : Bool :=
  candidate.line ≠ cursor.line || cursor.index - candidate.index > 1024

/-- Drops the candidates that can no longer be confirmed. -/
def dropStale (cursor : Cursor) : List (Option Candidate) → Except Fault (List (Option Candidate))
  | [] => .ok []
  | none :: outer => do
      let outer ← dropStale cursor outer
      pure (none :: outer)
  | some candidate :: outer => do
      need !(isStale cursor candidate && candidate.isRequired)
      let outer ← dropStale cursor outer
      pure ((if isStale cursor candidate then none else some candidate) :: outer)

/-- Remembers the coming token as a candidate where a key may start. -/
def saveCandidate (lexer : Lexer) : Except Fault Lexer :=
  if lexer.mayStartKey then do
    let lexer ← lexer.dropCandidate
    let candidate : Candidate :=
      { number := lexer.count
        isRequired := !lexer.inFlow && lexer.margin = lexer.cursor.column + 1
        index := lexer.cursor.index
        line := lexer.cursor.line
        column := lexer.cursor.column }
    pure { lexer with candidates := some candidate :: lexer.candidates.drop 1 }
  else .ok lexer

/-- The number of blanks, characters of comments and line breaks up to the next token. A key may start
on a new line of a block. -/
def skipBlank (inFlow : Bool) : Bool → Bool → Text → Bool × Nat
  | mayStartKey, _, [] => (mayStartKey, 0)
  | mayStartKey, inComment, c :: rest =>
      let pass := fun (mayStartKey inComment : Bool) =>
        let (mayStartKey, count) := skipBlank inFlow mayStartKey inComment rest
        (mayStartKey, count + 1)
      if isBreak c then pass (mayStartKey || !inFlow) false
      else if inComment || isSpace c then pass mayStartKey inComment
      else if c = '#' then pass mayStartKey true
      else (mayStartKey, 0)

/-- A byte order mark starts the text. -/
def meetsOrderMark (cursor : Cursor) : Bool :=
  cursor.index = 0 && cursor.rest.head? == some byteOrderMark

/-- Moves to the next token. A byte order mark at the start is passed over. -/
def toNext (lexer : Lexer) : Lexer :=
  let start := if meetsOrderMark lexer.cursor then lexer.cursor.advance 1 else lexer.cursor
  let (mayStartKey, count) := skipBlank lexer.inFlow lexer.mayStartKey false start.rest
  { lexer with cursor := start.advance count, mayStartKey := mayStartKey }

/-- Passes over some characters and emits a token. -/
def take (lexer : Lexer) (count : Nat) (token : Token) : Lexer :=
  { lexer with cursor := lexer.cursor.advance count }.emit token

/-- A marker of a document's start or end. -/
def documentMark (token : Token) (lexer : Lexer) : Except Fault Lexer := do
  let lexer ← (lexer.unwind 0).dropCandidate
  pure ({ lexer with mayStartKey := false }.take 3 token)

/-- A directive. -/
def directive (lexer : Lexer) : Except Fault Lexer := do
  let lexer ← (lexer.unwind 0).dropCandidate
  let (value, rest) ← directiveLine (lexer.cursor.rest.drop 1)
  pure ({ lexer with mayStartKey := false, cursor := lexer.cursor.moveTo rest }.emit
    (.directive value))

/-- An opening bracket. -/
def openFlow (token : Token) (lexer : Lexer) : Except Fault Lexer := do
  let lexer ← lexer.saveCandidate
  pure ({ lexer with mayStartKey := true, candidates := none :: lexer.candidates }.take 1 token)

/-- A closing bracket. -/
def closeFlow (token : Token) (lexer : Lexer) : Except Fault Lexer := do
  need lexer.inFlow
  let lexer ← lexer.dropCandidate
  pure ({ lexer with mayStartKey := false, candidates := lexer.candidates.drop 1 }.take 1 token)

/-- A comma between brackets. -/
def flowEntry (lexer : Lexer) : Except Fault Lexer := do
  let lexer ← lexer.dropCandidate
  pure ({ lexer with mayStartKey := true }.take 1 .flowEntry)

/-- Opens a block collection at the cursor where it is new; in block context a key must be able to
start here. -/
def openBlock (opener : Token) (lexer : Lexer) : Except Fault Lexer :=
  if lexer.inFlow then .ok lexer
  else if !lexer.mayStartKey then .error .malformed
  else
    let (isNew, lexer) := lexer.indentTo lexer.cursor.column
    .ok (if isNew then lexer.emit opener else lexer)

/-- A dash in front of an item. -/
def blockEntry (lexer : Lexer) : Except Fault Lexer := do
  let lexer ← lexer.openBlock .blockSequenceStart
  let lexer ← lexer.dropCandidate
  pure ({ lexer with mayStartKey := true }.take 1 .blockEntry)

/-- A question mark in front of a key. -/
def key (lexer : Lexer) : Except Fault Lexer := do
  let lexer ← lexer.openBlock .blockMappingStart
  let lexer ← lexer.dropCandidate
  pure ({ lexer with mayStartKey := !lexer.inFlow }.take 1 .key)

/-- Confirms a candidate: its key token, and the start of its mapping where that is new, are entered
in front of it. -/
def confirm (candidate : Candidate) (lexer : Lexer) : Lexer :=
  let (isNew, lexer) := if lexer.inFlow then (false, lexer) else lexer.indentTo candidate.column
  let lexer := lexer.insert candidate.number .key
  if isNew then lexer.insert candidate.number .blockMappingStart else lexer

/-- A colon in front of a value. -/
def value (lexer : Lexer) : Except Fault Lexer :=
  match lexer.candidates with
  | some candidate :: outer =>
      let lexer := { lexer with candidates := none :: outer, mayStartKey := false }
      .ok ((lexer.confirm candidate).take 1 .value)
  | _ => do
      let lexer ← lexer.openBlock .blockMappingStart
      pure ({ lexer with mayStartKey := !lexer.inFlow }.take 1 .value)

/-- A token that may start a key, given with the rest of the text behind it. -/
def node (lexer : Lexer) (read : Except Fault (Token × Text)) : Except Fault Lexer := do
  let lexer ← lexer.saveCandidate
  let (token, rest) ← read
  pure ({ lexer with mayStartKey := false, cursor := lexer.cursor.moveTo rest }.emit token)

/-- A block scalar. -/
def block (folded : Bool) (lexer : Lexer) : Except Fault Lexer := do
  let lexer ← lexer.dropCandidate
  let (text, rest) ← blockScalar folded (max lexer.margin 1) (lexer.cursor.rest.drop 1)
  pure ({ lexer with mayStartKey := true, cursor := lexer.cursor.moveTo rest }.emit
    (.scalar text false))

/-- A plain scalar. -/
def plain (lexer : Lexer) : Except Fault Lexer := do
  let lexer ← lexer.saveCandidate
  let scalar := plainScalar lexer.inFlow lexer.margin .none [] lexer.cursor.rest
  pure ({ lexer with
    mayStartKey := scalar.isBroken
    cursor := lexer.cursor.moveTo scalar.rest }.emit (.scalar scalar.text true))

/-- Characters that cannot start a plain scalar, whatever follows them. -/
def indicators : Text := ",[]\x7b\x7d#&*!|>'\"%@\x60".toList

/-- A plain scalar can start with a character before a rest. -/
def startsPlain (lexer : Lexer) (c : Char) (rest : Text) : Bool :=
  if c = '-' then !meetsSeparator rest
  else if c = '?' || c = ':' then !lexer.inFlow && !meetsSeparator rest
  else !isSeparator c && !indicators.contains c

/-- The token that starts with a character before a rest. -/
def token (lexer : Lexer) (c : Char) (rest : Text) : Except Fault Lexer :=
  let atStart := lexer.cursor.column = 0
  let text := c :: rest
  if c = '%' && atStart then lexer.directive
  else if atStart && meetsMark '-' text then lexer.documentMark .documentStart
  else if atStart && meetsMark '.' text then lexer.documentMark .documentEnd
  else if c = '[' then lexer.openFlow .flowSequenceStart
  else if c = '\x7b' then lexer.openFlow .flowMappingStart
  else if c = ']' then lexer.closeFlow .flowSequenceEnd
  else if c = '\x7d' then lexer.closeFlow .flowMappingEnd
  else if c = ',' then lexer.flowEntry
  else if c = '-' && meetsSeparator rest then lexer.blockEntry
  else if c = '?' && (lexer.inFlow || meetsSeparator rest) then lexer.key
  else if c = ':' && (lexer.inFlow || meetsSeparator rest) then lexer.value
  else if c = '*' then
    lexer.node ((anchorName rest).map fun (name, rest) => (.reference name, rest))
  else if c = '&' then
    lexer.node ((anchorName rest).map fun (name, rest) => (.anchor name, rest))
  else if c = '!' then lexer.node ((tagText text).map fun (tag, rest) => (.tag tag, rest))
  else if c = '|' && !lexer.inFlow then lexer.block false
  else if c = '>' && !lexer.inFlow then lexer.block true
  else if c = '\'' || c = '"' then
    lexer.node ((quotedScalar (c == '"') (.reading .none) [] rest).map fun (text, rest) =>
      (.scalar text false, rest))
  else if lexer.startsPlain c rest then lexer.plain
  else .error .malformed

/-- The end of the text: every open block collection is closed. -/
def finish (lexer : Lexer) : Except Fault Lexer := do
  let lexer ← (lexer.unwind 0).dropCandidate
  pure { lexer with isDone := true }

/-- Reads on to the next token or to the end of the text. -/
def fetch (lexer : Lexer) : Except Fault Lexer := do
  let lexer := lexer.toNext
  let candidates ← dropStale lexer.cursor lexer.candidates
  let lexer := { lexer with candidates := candidates }.unwind (lexer.cursor.column + 1)
  match lexer.cursor.rest with
  | [] => lexer.finish
  | c :: rest => lexer.token c rest

/-- A candidate stands in front of the first token that is not handed over. -/
def isHeld (lexer : Lexer) : Bool :=
  lexer.candidates.any fun
    | some candidate => candidate.number == lexer.taken
    | none => false

end Lexer

/-- The tokens that a text yields, and the fault behind the last one, if there is one. -/
structure Stream where
  tokens : List Token
  fault : Option Fault := none
  deriving Inhabited

namespace Stream

/-- Reads tokens to the end of the text, where `read` holds those handed over, in reverse. -/
def collect : Nat → List Token → Lexer → Stream
  | 0, read, _ => ⟨read.reverse, some .malformed⟩
  | steps + 1, read, lexer =>
      let fetchNext := fun (lexer : Lexer) =>
        match lexer.fetch with
        | .ok lexer => collect steps read lexer
        | .error fault => ⟨read.reverse, some fault⟩
      match lexer.pending.getLast? with
      | none => if lexer.isDone then ⟨read.reverse, none⟩ else fetchNext lexer
      | some token =>
          let handOver := fun (lexer : Lexer) =>
            collect steps (token :: read)
              { lexer with taken := lexer.taken + 1, pending := lexer.pending.dropLast }
          if lexer.isDone then handOver lexer
          else
            match Lexer.dropStale lexer.cursor lexer.candidates with
            | .error fault => ⟨read.reverse, some fault⟩
            | .ok candidates =>
                let lexer := { lexer with candidates := candidates }
                if lexer.isHeld then fetchNext lexer else handOver lexer

/-- The number of steps that is enough for a text: every reading step takes a character, a character
yields at most a token, its key and the start and end of a collection, and one more step hands a token
over. -/
def stepsFor (text : Text) : Nat := 6 * text.length + 6

/-- The tokens of a text. -/
def ofText (text : Text) : Stream :=
  if text.all isReadable then collect (stepsFor text) [] { cursor := { rest := text } }
  else ⟨[], some .malformed⟩

end Stream

end RouteAtlas.Yaml
