import RouteAtlas.Text.Case
import RouteAtlas.Yaml.Moment
import RouteAtlas.Yaml.Node
import RouteAtlas.Yaml.Numeral

/-!
# Values of YAML documents

A document denotes a value for each of its nodes. A scalar is read by its kind; a mapping that is
tagged as a scalar stands for the scalar under its default key. Mappings that stand under the merge key
of a mapping are entered before its own entries, of several the last one first, so that nearer entries
win; they stay entered for everyone who refers to that mapping. A key must be a scalar. Of the keys of
a mapping only texts can be looked up; whether there are others is kept beside the entries.

Faults are found level by level: a collection is looked through before the collections inside it, and
a node is looked at once, however often it is referred to.
-/

set_option autoImplicit false

namespace RouteAtlas.Yaml

/-- What a collection holds: a node, or a key and a value in a list of pairs. -/
inductive Item where
  | node (id : NodeId)
  | pair (first second : NodeId)
  deriving DecidableEq, Repr, Inhabited

/-- A value that a document denotes. -/
inductive Value where
  | null
  | boolean (value : Bool)
  | number (value : Number)
  | moment (value : Moment)
  | text (value : String)
  | binary (bytes : List UInt8)
  | pair (first second : NodeId)
  | list (items : List Item)
  | set (items : List Item)
  | mapping (entries : List (String × Item)) (hasOtherKeys : Bool)
  deriving Repr, Inhabited

/-- A value counts as nothing: null, false, zero, and empty texts and collections. -/
def Value.isVoid : Value → Bool
  | .null => true
  | .boolean value => !value
  | .number value => value.isZero
  | .moment _ => false
  | .text value => value.isEmpty
  | .binary bytes => bytes.isEmpty
  | .pair _ _ => false
  | .list items => items.isEmpty
  | .set items => items.isEmpty
  | .mapping entries hasOtherKeys => entries.isEmpty && !hasOtherKeys

/-! ## Scalars -/

/-- The truth value a word stands for in any spelling. -/
def booleanValue (text : Text) : Except Fault Bool :=
  let word := Text.lower text
  if isSpelling trueWords word then .ok true
  else if isSpelling falseWords word then .ok false
  else .error .notBoolean

/-- The value of a character of a base-sixty-four text. -/
def sextet? (c : Char) : Option Nat :=
  if c.isUpper then some (c.toNat - 65)
  else if c.isLower then some (c.toNat - 71)
  else if c.isDigit then some (c.toNat + 4)
  else if c = '+' then some 62
  else if c = '/' then some 63
  else none

/-- The bytes of a base-sixty-four text. Characters outside the alphabet do not count; two padding
marks, or one behind three characters, end the text, and a group must not be left open. -/
def base64 : List Nat → Nat → Text → Option (List UInt8)
  | [], _, [] => some []
  | _, _, [] => none
  | group, marks, c :: rest =>
      if c = '=' then
        match group with
        | [_, _] => if marks = 1 then some (closeGroup group) else base64 group (marks + 1) rest
        | [_, _, _] => some (closeGroup group)
        | _ => base64 group marks rest
      else
        match sextet? c with
        | none => base64 group marks rest
        | some value =>
            match group with
            | [third, second, first] => do
                let bytes ← base64 [] 0 rest
                pure (closeGroup [value, third, second, first] ++ bytes)
            | group => base64 (value :: group) 0 rest
where
  /-- The whole bytes of a group of up to four values, the last one first. -/
  closeGroup : List Nat → List UInt8
    | [b, a] => [UInt8.ofNat (a * 4 + b / 16)]
    | [c, b, a] => [UInt8.ofNat (a * 4 + b / 16), UInt8.ofNat (b % 16 * 16 + c / 4)]
    | [d, c, b, a] =>
        [UInt8.ofNat (a * 4 + b / 16), UInt8.ofNat (b % 16 * 16 + c / 4),
          UInt8.ofNat (c % 4 * 64 + d)]
    | _ => []

/-- The bytes of a scalar. -/
def binaryValue (text : Text) : Except Fault (List UInt8) :=
  if text.all fun c => c.toNat < 128 then
    match base64 [] 0 text with
    | some bytes => .ok bytes
    | none => .error .malformed
  else .error .malformed

/-- The value of a scalar of a kind. -/
def scalarValue (kind : Kind) (text : Text) : Except Fault Value :=
  match kind with
  | .null => .ok .null
  | .boolean => (booleanValue text).map .boolean
  | .integer => (integerValue text).map .number
  | .float => (floatValue text).map .number
  | .binary => (binaryValue text).map .binary
  | .moment => (momentValue text).map .moment
  | .text => .ok (.text (String.ofList text))
  | _ => .error .malformed

/-- A kind of collection. -/
def Kind.isCollection : Kind → Bool
  | .list => true
  | .mapping => true
  | .pairs => true
  | .set => true
  | _ => false

/-- The node of a number. -/
def nodeAt (nodes : Array Node) (id : NodeId) : Node := (nodes[id]?).getD emptyNode

/-- The node is the default key of a mapping. -/
def isDefaultKey (nodes : Array Node) (id : NodeId) : Bool := (nodeAt nodes id).kind == .default

/-- The text that a node stands for as a scalar: its own, or that of the node under the default key of
a mapping. `fuel` bounds the mappings passed. -/
def scalarText (nodes : Array Node) : Nat → NodeId → Except Fault Text
  | 0, _ => .error .tooDeep
  | fuel + 1, id =>
      match nodeAt nodes id with
      | .scalar _ text => .ok text
      | .sequence _ _ => .error .malformed
      | .mapping _ entries =>
          match entries.find? fun entry => isDefaultKey nodes entry.1 with
          | some (_, value) => scalarText nodes fuel value
          | none => .error .malformed

/-- The value of a node whose kind is that of a scalar. -/
def readScalar (nodes : Array Node) (id : NodeId) : Except Fault Value :=
  let node := nodeAt nodes id
  match node.kind, node with
  | .merge, _ => .error .malformed
  | .default, _ => .error .malformed
  | .unknown, _ => .error .malformed
  | .moment, .mapping _ _ => do
      let _ ← scalarText nodes (nodes.size + 1) id
      throw .notScalar
  | kind, _ => do
      let text ← scalarText nodes (nodes.size + 1) id
      scalarValue kind text

/-! ## Looking through a document -/

/-- What looking through a document works on: its nodes, those looked at, and the collections still to
be looked through, the next one first. -/
structure Survey where
  nodes : Array Node
  seen : Array Bool
  waiting : List NodeId := []
  deriving Inhabited

/-- A step of looking through a document. -/
abbrev Look := StateT Survey (Except Fault)

namespace Look

/-- The node of a number. -/
def node (id : NodeId) : Look Node := do pure (nodeAt (← get).nodes id)

/-- Replaces the entries of a mapping. -/
def setEntries (id : NodeId) (entries : List (NodeId × NodeId)) : Look Unit := do
  let kind := (← node id).kind
  modify fun survey =>
    { survey with nodes := survey.nodes.setIfInBounds id (.mapping kind entries) }

/-- The entries of a mapping. -/
def entries (id : NodeId) : Look (List (NodeId × NodeId)) := do
  match ← node id with
  | .mapping _ entries => pure entries
  | _ => throw .malformed

/-- Makes a default key a text. -/
def asText (id : NodeId) : Look Unit := do
  match ← node id with
  | .scalar .default text =>
      modify fun survey =>
        { survey with nodes := survey.nodes.setIfInBounds id (.scalar .text text) }
  | .sequence .default items =>
      modify fun survey =>
        { survey with nodes := survey.nodes.setIfInBounds id (.sequence .text items) }
  | .mapping .default entries =>
      modify fun survey =>
        { survey with nodes := survey.nodes.setIfInBounds id (.mapping .text entries) }
  | _ => pure ()

mutual

/-- Enters the mappings under the merge keys of a mapping, from an entry on; `merged` holds the entries
found so far. Every merge key is dropped before it is followed, so mappings that merge each other come
to an end; `fuel` bounds the steps. -/
def mergeFrom : Nat → NodeId → Nat → List (NodeId × NodeId) → Look Unit
  | 0, _, _, _ => throw .tooDeep
  | fuel + 1, id, index, merged => do
      let own ← entries id
      match own[index]? with
      | none => if merged.isEmpty then pure () else setEntries id (merged ++ own)
      | some (key, value) =>
          if (← node key).kind = .merge then
            setEntries id (own.eraseIdx index)
            let found ← match ← node value with
              | .mapping _ _ => mergedEntries fuel value
              | .sequence _ items => mergedLists fuel items
              | .scalar _ _ => throw .malformed
            mergeFrom fuel id index (merged ++ found)
          else
            asText key
            mergeFrom fuel id (index + 1) merged

/-- The entries of a mapping with those merged into it. -/
def mergedEntries : Nat → NodeId → Look (List (NodeId × NodeId))
  | 0, _ => throw .tooDeep
  | fuel + 1, id => do
      mergeFrom fuel id 0 []
      entries id

/-- The entries of a list of mappings, those of the last one first. -/
def mergedLists : Nat → List NodeId → Look (List (NodeId × NodeId))
  | 0, _ => throw .tooDeep
  | _ + 1, [] => pure []
  | fuel + 1, id :: rest => do
      let first ← mergedEntries fuel id
      let others ← mergedLists fuel rest
      pure (others ++ first)

end

/-- Enters the mappings merged into a mapping. -/
def flatten (id : NodeId) : Look Unit := do
  let size := (← get).nodes.foldl (fun total node =>
    match node with
    | .mapping _ entries => total + entries.length + 1
    | _ => total + 1) 1
  mergeFrom (size * size) id 0 []

/-- Looks at a node: a scalar must denote a value, and a collection waits to be looked through. -/
def visit (id : NodeId) : Look Unit := do
  let survey ← get
  if (survey.seen[id]?).getD false then pure ()
  else
    let waiting := (nodeAt survey.nodes id).kind.isCollection
    if !waiting then
      let _ ← liftM (readScalar survey.nodes id)
    set { survey with
      seen := survey.seen.setIfInBounds id true
      waiting := if waiting then survey.waiting ++ [id] else survey.waiting }

/-- Looks at the items of a list. -/
def visitItems : List NodeId → Look Unit
  | [] => pure ()
  | id :: rest => do
      visit id
      visitItems rest

/-- Looks at the entries of a mapping, whose keys must not be collections. -/
def visitEntries : List (NodeId × NodeId) → Look Unit
  | [] => pure ()
  | (key, value) :: rest => do
      visit key
      if (← node key).kind.isCollection then throw .malformed
      visit value
      visitEntries rest

/-- Looks at the items of a list of pairs, each a mapping with one entry. -/
def visitPairs : List NodeId → Look Unit
  | [] => pure ()
  | id :: rest => do
      match ← node id with
      | .mapping _ [(key, value)] =>
          visit key
          visit value
          visitPairs rest
      | _ => throw .malformed

/-- Looks through a collection. -/
def explore (id : NodeId) : Look Unit := do
  let here ← node id
  match here.kind, here with
  | .list, .sequence _ items => visitItems items
  | .pairs, .sequence _ items => visitPairs items
  | .mapping, .mapping _ _ => exploreMapping
  | .set, .mapping _ _ => exploreMapping
  | _, _ => throw .malformed
where
  /-- Looks through a mapping once others are merged into it. -/
  exploreMapping : Look Unit := do
    flatten id
    visitEntries (← entries id)

/-- Looks through the collections that wait, first come first. Every node waits at most once, so `fuel`
is the number of nodes. -/
def exploreAll : Nat → Look Unit
  | 0 => pure ()
  | fuel + 1 => do
      match (← get).waiting with
      | [] => pure ()
      | id :: rest =>
          modify fun survey => { survey with waiting := rest }
          explore id
          exploreAll fuel

end Look

/-! ## Values -/

/-- The text of a key. -/
def keyText? (nodes : Array Node) (id : NodeId) : Option String :=
  match readScalar nodes id with
  | .ok (.text text) => some text
  | _ => none

/-- The items under texts, of several under one text the last one, in the place of the first. -/
def textEntries (nodes : Array Node) (entries : List (NodeId × NodeId)) : List (String × Item) :=
  Table.ofList (entries.filterMap fun (key, value) =>
    (keyText? nodes key).map fun text => (text, .node value))

/-- Two scalar values are equal; a truth value counts as one or zero. -/
def Value.same (first second : Value) : Bool :=
  match asNumber? first, asNumber? second with
  | some a, some b => a.alike b
  | _, _ =>
      match first, second with
      | .null, .null => true
      | .moment a, .moment b => a.same b
      | .text a, .text b => a == b
      | .binary a, .binary b => a == b
      | _, _ => false
where
  /-- The number that a value counts as. -/
  asNumber? : Value → Option Number
    | .boolean value => some (.int (if value then 1 else 0))
    | .number value => some value
    | _ => none

/-- The keys of a set, each once. -/
def setItems (nodes : Array Node) (entries : List (NodeId × NodeId)) : List Item :=
  let keys := entries.filterMap fun (key, _) =>
    match readScalar nodes key with
    | .ok value => some (value, Item.node key)
    | .error _ => none
  let distinct := keys.foldl (fun kept key =>
    if kept.any fun other => other.1.same key.1 then kept else kept ++ [key]) []
  distinct.map Prod.snd

/-- The value of a node that has been looked at. -/
def valueOf (nodes : Array Node) (id : NodeId) : Value :=
  let node := nodeAt nodes id
  match node.kind, node with
  | .list, .sequence _ items => .list (items.map .node)
  | .pairs, .sequence _ items =>
      .list (items.filterMap fun item =>
        match nodeAt nodes item with
        | .mapping _ [(key, value)] => some (.pair key value)
        | _ => none)
  | .mapping, .mapping _ entries =>
      .mapping (textEntries nodes entries)
        (entries.any fun entry => (keyText? nodes entry.1).isNone)
  | .set, .mapping _ entries => .set (setItems nodes entries)
  | _, _ =>
      match readScalar nodes id with
      | .ok value => value
      | .error _ => .null

/-- The values of a document, one for each of its nodes, and the root. -/
structure Document where
  values : Array Value
  root : Value
  deriving Inhabited

/-- The value of an item of a document. -/
def Document.value (document : Document) : Item → Value
  | .node id => (document.values[id]?).getD .null
  | .pair first second => .pair first second

/-- The values of a graph, unless one of its nodes is at fault. -/
def Graph.document (graph : Graph) : Except Fault Document := do
  let look : Look Unit := do
    Look.visit graph.root
    Look.exploreAll graph.nodes.size
  let (_, survey) ← look.run
    { nodes := graph.nodes, seen := Array.replicate graph.nodes.size false }
  let values := (Array.range survey.nodes.size).map (valueOf survey.nodes)
  pure { values := values, root := (values[graph.root]?).getD .null }

/-- Reads the document of a text that holds at most one; an empty text denotes null. -/
def read (text : Text) : Except Fault Document := do
  match ← Graph.ofStream (Stream.ofText text) with
  | none => pure { values := #[], root := .null }
  | some graph => graph.document

end RouteAtlas.Yaml
