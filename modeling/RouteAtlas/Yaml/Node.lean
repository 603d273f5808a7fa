import RouteAtlas.Table
import RouteAtlas.Yaml.Implicit
import RouteAtlas.Yaml.Lexer

/-!
# Nodes of YAML documents

A node is a scalar, a sequence or a mapping, each of a kind that its tag or, for a plain scalar, its
text decides. A collection holds the numbers of the nodes in it, so that a reference can stand for the
very node that its anchor marks, and a collection may hold itself.

The grammar is read by recursive descent. `fuel` bounds the number of steps one inside the other;
every second one takes a token, so it never runs out below.
-/

set_option autoImplicit false

namespace RouteAtlas.Yaml

/-- What a node is to be read as. -/
inductive Kind where
  | null
  | boolean
  | integer
  | float
  | binary
  | moment
  | text
  | list
  | mapping
  | pairs
  | set
  /-- The key under which other mappings are merged. -/
  | merge
  /-- The key of a mapping's default value. -/
  | default
  | unknown
  deriving DecidableEq, Repr, Inhabited

/-- The number of a node in its document. -/
abbrev NodeId := Nat

/-- A node of a document. -/
inductive Node where
  | scalar (kind : Kind) (text : Text)
  | sequence (kind : Kind) (items : List NodeId)
  | mapping (kind : Kind) (entries : List (NodeId × NodeId))
  deriving Repr, Inhabited

/-- The kind of a node. -/
def Node.kind : Node → Kind
  | .scalar kind _ => kind
  | .sequence kind _ => kind
  | .mapping kind _ => kind

/-- The start of the names of common tags. -/
def commonTag : String := "tag:yaml.org,2002:"

/-- The kinds of common tags. -/
def commonKinds : List (String × Kind) :=
  [("null", .null), ("bool", .boolean), ("int", .integer), ("float", .float), ("binary", .binary),
   ("timestamp", .moment), ("str", .text), ("seq", .list), ("map", .mapping), ("omap", .pairs),
   ("pairs", .pairs), ("set", .set), ("merge", .merge), ("value", .default)]

/-- The kind that the name of a tag stands for. -/
def kindOfTag (name : Text) : Kind :=
  match Text.dropStart? commonTag.toList name with
  | some suffix => ((commonKinds.find? fun entry => entry.1.toList == suffix).map Prod.snd).getD .unknown
  | none => .unknown

/-- The words that a plain scalar cannot be, and that no kind of value is written like. -/
def reservedWords : List String := ["!", "&", "*"]

/-- The kind that a text stands for where no tag says so. A newline at its end does not count. -/
def kindOfText (text : Text) : Kind :=
  let word := match text.getLast? with
    | some '\n' => if text.length = 1 then text else text.dropLast
    | _ => text
  match implicit word with
  | .null => .null
  | .boolean _ => .boolean
  | .integer => .integer
  | .float => .float
  | .timestamp => .moment
  | .merge => .merge
  | .value => .default
  | .text => if isSpelling reservedWords word then .unknown else .text

/-- The kind of a scalar. -/
def scalarKind (tag : Option Text) (text : Text) (isPlain : Bool) : Kind :=
  match tag with
  | none => if isPlain then kindOfText text else .text
  | some name => if name = ['!'] then kindOfText text else kindOfTag name

/-- The kind of a collection. -/
def collectionKind (tag : Option Text) (otherwise : Kind) : Kind :=
  match tag with
  | none => otherwise
  | some name => if name = ['!'] then otherwise else kindOfTag name

/-- An empty scalar without properties. -/
def emptyNode : Node := .scalar .null []

/-! ## Reading nodes -/

/-- What reading nodes works on: the unread tokens with the fault behind them, the nodes read so far,
and those that anchors mark. -/
structure Descent where
  stream : Stream
  nodes : Array Node := #[]
  anchors : Table Text NodeId := []
  deriving Inhabited

/-- A step of reading nodes. -/
abbrev Descend := StateT Descent (Except Fault)

namespace Descend

/-- Fails. -/
def fail {α : Type} : Descend α := throw .malformed

/-- The next token, which stays unread; a fault in its place is met here. -/
def peek : Descend (Option Token) := do
  let stream := (← get).stream
  match stream.tokens, stream.fault with
  | token :: _, _ => pure (some token)
  | [], some fault => throw fault
  | [], none => pure none

/-- Passes over the next token. -/
def skip : Descend Unit :=
  modify fun descent =>
    { descent with stream := { descent.stream with tokens := descent.stream.tokens.drop 1 } }

/-- The next token is one of some tokens. -/
def meets (options : List Token) : Descend Bool := do
  match ← peek with
  | some token => pure (options.contains token)
  | none => pure false

/-- Passes over a token where it comes next; tells whether it did. -/
def accept (token : Token) : Descend Bool := do
  if ← meets [token] then
    skip
    pure true
  else pure false

/-- Passes over a token that must come next. -/
def expect (token : Token) : Descend Unit := do
  if !(← accept token) then fail

/-- Enters a node. -/
def add (node : Node) : Descend NodeId := do
  let id := (← get).nodes.size
  modify fun descent => { descent with nodes := descent.nodes.push node }
  pure id

/-- Replaces a node. -/
def fill (id : NodeId) (node : Node) : Descend Unit :=
  modify fun descent => { descent with nodes := descent.nodes.setIfInBounds id node }

/-- Marks a node by an anchor. -/
def mark (anchor : Option Text) (id : NodeId) : Descend Unit :=
  match anchor with
  | some name => modify fun descent => { descent with anchors := descent.anchors.put name id }
  | none => pure ()

end Descend

open Descend

/-- What the properties of a node say. -/
structure Properties where
  anchor : Option Text := none
  tag : Option TagText := none
  deriving DecidableEq, Repr, Inhabited

/-- Reads an anchor where there is one. -/
def takeAnchor : Descend (Option Text) := do
  match ← peek with
  | some (.anchor name) =>
      skip
      pure (some name)
  | _ => pure none

/-- Reads a tag where there is one. -/
def takeTag : Descend (Option TagText) := do
  match ← peek with
  | some (.tag tag) =>
      skip
      pure (some tag)
  | _ => pure none

/-- Reads an anchor and a tag in any order. -/
def properties : Descend Properties := do
  let anchor ← takeAnchor
  let tag ← takeTag
  match anchor with
  | some name => pure { anchor := some name, tag := tag }
  | none =>
      match tag with
      | some tag => pure { anchor := ← takeAnchor, tag := some tag }
      | none => pure {}

/-- The name of a tag under the handles of a document. -/
def tagMeaning (handles : Table Text Text) (tag : TagText) : Except Fault Text :=
  match tag.handle with
  | none => .ok tag.suffix
  | some handle =>
      match handles.get? handle with
      | some meaning => .ok (meaning ++ tag.suffix)
      | none => .error .malformed

/-- An anchor marks one node only. -/
def needFresh (anchor : Option Text) : Descend Unit := do
  if let some name := anchor then
    if (← get).anchors.has name then fail

/-- Where a node stands. -/
structure Place where
  /-- Block collections may start. -/
  isBlock : Bool
  /-- A list may stand at the indentation of the mapping around it. -/
  isValue : Bool
  /-- The number of collections around it. -/
  depth : Nat
  deriving DecidableEq, Repr, Inhabited

/-- The number of collections that may stand one inside the other. -/
def maxDepth : Nat := 490

/-- Enters a collection in front of its items and marks it. -/
def openCollection (place : Place) (anchor : Option Text) (node : Node) : Descend NodeId := do
  needFresh anchor
  if place.depth ≥ maxDepth then throw .tooDeep
  let id ← add node
  mark anchor id
  pure id

/-- Enters a scalar and marks it. -/
def enterScalar (anchor : Option Text) (node : Node) : Descend NodeId := do
  needFresh anchor
  let id ← add node
  mark anchor id
  pure id

/-- Reads a node without content, which needs a property. -/
def readEmpty (given : Properties) (tag : Option Text) : Descend NodeId :=
  if given.anchor.isNone && given.tag.isNone then fail
  else enterScalar given.anchor (.scalar (scalarKind tag [] true) [])

mutual

/-- Reads a node. -/
def readNode (handles : Table Text Text) : Nat → Place → Descend NodeId
  | 0, _ => fail
  | fuel + 1, place => do
      match ← peek with
      | some (.reference name) =>
          skip
          match (← get).anchors.get? name with
          | some id => pure id
          | none => fail
      | _ =>
          let given ← properties
          let tag ← given.tag.mapM fun tag => liftM (tagMeaning handles tag)
          readContent handles fuel place given tag

/-- Reads a node behind its properties. -/
def readContent (handles : Table Text Text) :
    Nat → Place → Properties → Option Text → Descend NodeId
  | 0, _, _, _ => fail
  | fuel + 1, place, given, tag => do
      let listKind := collectionKind tag .list
      let mappingKind := collectionKind tag .mapping
      let inside := place.depth + 1
      let asList := fun (items : Descend (List NodeId)) => do
        let id ← openCollection place given.anchor (.sequence listKind [])
        fill id (.sequence listKind (← items))
        pure id
      let asMapping := fun (entries : Descend (List (NodeId × NodeId))) => do
        let id ← openCollection place given.anchor (.mapping mappingKind [])
        fill id (.mapping mappingKind (← entries))
        pure id
      match ← peek with
      | some .blockEntry =>
          if place.isValue then asList (readIndentless handles fuel inside)
          else readEmpty given tag
      | some (.scalar text isPlain) =>
          skip
          enterScalar given.anchor (.scalar (scalarKind tag text isPlain) text)
      | some .flowSequenceStart =>
          skip
          asList (readFlowItems handles fuel inside true)
      | some .flowMappingStart =>
          skip
          asMapping (readFlowEntries handles fuel inside true)
      | some .blockSequenceStart =>
          if place.isBlock then
            skip
            asList (readBlockItems handles fuel inside)
          else readEmpty given tag
      | some .blockMappingStart =>
          if place.isBlock then
            skip
            asMapping (readBlockEntries handles fuel inside)
          else readEmpty given tag
      | _ => readEmpty given tag

/-- Reads a node unless one of some tokens comes next, before which it is empty. -/
def readUnless (handles : Table Text Text) : Nat → Place → List Token → Descend NodeId
  | 0, _, _ => fail
  | fuel + 1, place, enders => do
      if ← meets enders then add emptyNode else readNode handles fuel place

/-- Reads the items of a block sequence to its end. -/
def readBlockItems (handles : Table Text Text) : Nat → Nat → Descend (List NodeId)
  | 0, _ => fail
  | fuel + 1, depth => do
      if ← accept .blockEntry then
        let item ← readUnless handles fuel ⟨true, false, depth⟩ [.blockEntry, .blockEnd]
        let items ← readBlockItems handles fuel depth
        pure (item :: items)
      else
        expect .blockEnd
        pure []

/-- Reads the items of a sequence at the indentation of the mapping around it. -/
def readIndentless (handles : Table Text Text) : Nat → Nat → Descend (List NodeId)
  | 0, _ => fail
  | fuel + 1, depth => do
      if ← accept .blockEntry then
        let item ← readUnless handles fuel ⟨true, false, depth⟩
          [.blockEntry, .key, .value, .blockEnd]
        let items ← readIndentless handles fuel depth
        pure (item :: items)
      else pure []

/-- Reads the entries of a block mapping to its end. -/
def readBlockEntries (handles : Table Text Text) : Nat → Nat → Descend (List (NodeId × NodeId))
  | 0, _ => fail
  | fuel + 1, depth => do
      if ← accept .key then
        let key ← readUnless handles fuel ⟨true, true, depth⟩ [.key, .value, .blockEnd]
        let value ←
          if ← accept .value then
            readUnless handles fuel ⟨true, true, depth⟩ [.key, .value, .blockEnd]
          else add emptyNode
        let entries ← readBlockEntries handles fuel depth
        pure ((key, value) :: entries)
      else
        expect .blockEnd
        pure []

/-- Reads the items of a sequence in brackets to its end. -/
def readFlowItems (handles : Table Text Text) : Nat → Nat → Bool → Descend (List NodeId)
  | 0, _, _ => fail
  | fuel + 1, depth, isFirst => do
      if ← accept .flowSequenceEnd then pure []
      else
        if !isFirst then expect .flowEntry
        if ← accept .flowSequenceEnd then pure []
        else
          let item ←
            if ← accept .key then readPair handles fuel depth
            else readNode handles fuel ⟨false, false, depth⟩
          let items ← readFlowItems handles fuel depth false
          pure (item :: items)

/-- Reads a mapping of one entry that stands in a sequence in brackets, behind its mark. -/
def readPair (handles : Table Text Text) : Nat → Nat → Descend NodeId
  | 0, _ => fail
  | fuel + 1, depth => do
      let id ← openCollection ⟨false, false, depth⟩ none (.mapping .mapping [])
      let key ← readUnless handles fuel ⟨false, false, depth + 1⟩
        [.value, .flowEntry, .flowSequenceEnd]
      let value ← readFlowValue handles fuel (depth + 1) [.flowEntry, .flowSequenceEnd]
      fill id (.mapping .mapping [(key, value)])
      pure id

/-- Reads the entries of a mapping in braces to its end. -/
def readFlowEntries (handles : Table Text Text) :
    Nat → Nat → Bool → Descend (List (NodeId × NodeId))
  | 0, _, _ => fail
  | fuel + 1, depth, isFirst => do
      if ← accept .flowMappingEnd then pure []
      else
        if !isFirst then expect .flowEntry
        if ← accept .flowMappingEnd then pure []
        else
          let entry ←
            if ← accept .key then
              let key ← readUnless handles fuel ⟨false, false, depth⟩
                [.value, .flowEntry, .flowMappingEnd]
              let value ← readFlowValue handles fuel depth [.flowEntry, .flowMappingEnd]
              pure (key, value)
            else
              let key ← readNode handles fuel ⟨false, false, depth⟩
              let value ← add emptyNode
              pure (key, value)
          let entries ← readFlowEntries handles fuel depth false
          pure (entry :: entries)

/-- Reads the value of an entry in brackets, which is empty without a colon. -/
def readFlowValue (handles : Table Text Text) : Nat → Nat → List Token → Descend NodeId
  | 0, _, _ => fail
  | fuel + 1, depth, enders => do
      if ← accept .value then readUnless handles fuel ⟨false, false, depth⟩ enders
      else add emptyNode

end

/-! ## Reading a document -/

/-- What tag handles stand for without directives. -/
def standardHandles : Table Text Text :=
  [(['!'], ['!']), (['!', '!'], commonTag.toList)]

/-- Reads directives: at most one version, which must be the first major one, and at most one meaning
for a handle. `fuel` bounds their number. -/
def readDirectives : Nat → Bool → Table Text Text → Descend (Table Text Text)
  | 0, _, _ => fail
  | fuel + 1, hasVersion, handles => do
      match ← peek with
      | some (.directive value) =>
          skip
          match value with
          | .version major =>
              if hasVersion || major ≠ 1 then fail else readDirectives fuel true handles
          | .handle name meaning =>
              if handles.has name then fail
              else readDirectives fuel hasVersion (handles.put name meaning)
          | .other => readDirectives fuel hasVersion handles
      | _ => pure handles

/-- The handles of a document: those declared and, for the others, the standard meanings. -/
def allHandles (declared : Table Text Text) : Table Text Text := declared ++ standardHandles

/-- Passes over markers of a document's end. `fuel` bounds their number. -/
def skipEnds : Nat → Descend Unit
  | 0 => fail
  | fuel + 1 => do if ← accept .documentEnd then skipEnds fuel

/-- Reads the directives and the marker in front of a document. -/
def readStart (fuel : Nat) : Descend (Table Text Text) := do
  let declared ← readDirectives fuel false []
  expect .documentStart
  pure (allHandles declared)

/-- The next token ends a document, starts another one, or is missing. -/
def isAtEnd : Descend Bool := do
  match ← peek with
  | none => pure true
  | some .documentStart => pure true
  | some .documentEnd => pure true
  | some (.directive _) => pure true
  | _ => pure false

/-- Reads the root node of the first document. -/
def readRoot (fuel : Nat) : Descend NodeId := do
  if ← isAtEnd then
    if ← meets [.documentEnd] then fail
    let handles ← readStart fuel
    if ← isAtEnd then add emptyNode else readNode handles fuel ⟨true, false, 0⟩
  else readNode standardHandles fuel ⟨true, false, 0⟩

/-- No second document may follow the first one. -/
def readRest (fuel : Nat) : Descend Unit := do
  skipEnds fuel
  if (← peek).isSome then
    let _ ← readStart fuel
    fail

/-- The nodes of a document and its root. -/
structure Graph where
  nodes : Array Node
  root : NodeId
  deriving Inhabited

/-- Reads a text that holds at most one document. -/
def readDocument (fuel : Nat) : Descend (Option NodeId) := do
  if (← peek).isNone then pure none
  else
    let root ← readRoot fuel
    readRest fuel
    pure (some root)

/-- The number of steps that reading some tokens can take one inside the other. -/
def fuelFor (stream : Stream) : Nat := 4 * stream.tokens.length + 8

/-- The graph of the document that a stream of tokens holds, if it holds one. -/
def Graph.ofStream (stream : Stream) : Except Fault (Option Graph) := do
  let (root, descent) ← (readDocument (fuelFor stream)).run { stream := stream }
  pure (root.map fun root => { nodes := descent.nodes, root := root })

end RouteAtlas.Yaml
