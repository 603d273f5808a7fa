import RouteAtlas.Yaml.Token

/-!
# Block scalars

A block scalar has a header, which says whether its last line breaks are kept, and lines that are
indented by a common number of blanks. The number is stated in the header or taken from the first line
that is not blank. In a folded scalar a single break between two lines that do not start with a blank
or a tab reads as a blank, and of several breaks the first is dropped.
-/

set_option autoImplicit false

namespace RouteAtlas.Yaml

/-- What happens to the line breaks at the end of a block scalar. -/
inductive Chomping where
  | strip
  | clip
  | keep
  deriving DecidableEq, Repr, Inhabited

/-- The header of a block scalar. -/
structure BlockHeader where
  chomping : Chomping
  indent : Option Nat
  deriving DecidableEq, Repr, Inhabited

/-- The chomping that a sign stands for. -/
def chomping? (c : Char) : Option Chomping :=
  if c = '+' then some .keep else if c = '-' then some .strip else none

/-- Reads a chomping sign where there is one. -/
def takeChomping (text : Text) : Option Chomping × Text :=
  match text with
  | [] => (none, [])
  | c :: rest =>
      match chomping? c with
      | some chomping => (some chomping, rest)
      | none => (none, text)

/-- Reads a digit where there is one. -/
def takeDigit (text : Text) : Option Nat × Text :=
  match text with
  | [] => (none, [])
  | c :: rest => if c.isDigit then (some (c.toNat - 48), rest) else (none, text)

/-- The rest of a line that holds nothing but blanks and a comment, without its break. -/
def blankLine? (text : Text) : Option Text :=
  let rest := text.dropWhile isSpace
  let rest := match rest with
    | '#' :: comment => comment.dropWhile fun c => !isBreak c
    | rest => rest
  match rest with
  | [] => some []
  | c :: rest => if isBreak c then some rest else none

/-- The header of a block scalar and the text behind its line. -/
def blockHeader (text : Text) : Except Fault (BlockHeader × Text) :=
  let (before, rest) := takeChomping text
  let (indent, rest) := takeDigit rest
  let (behind, rest) := if before.isSome then (none, rest) else
    if indent.isSome then takeChomping rest else (none, rest)
  let chomping := (before <|> behind).getD .clip
  if indent == some 0 || !meetsGap rest then .error .malformed
  else
    match blankLine? rest with
    | some rest => .ok (⟨chomping, indent⟩, rest)
    | none => .error .malformed

/-- The blank lines at the start of a block scalar, without a stated indentation: their breaks, the
greatest column they reach, and the column and text of the first line that is not blank. -/
structure BlockLead where
  breaks : Text
  widest : Nat
  column : Nat
  rest : Text
  deriving DecidableEq, Repr, Inhabited

/-- Blank lines up to the first character that is neither a blank nor a break. -/
def blockLead : Nat → Nat → Text → BlockLead
  | widest, column, [] => ⟨[], widest, column, []⟩
  | widest, column, c :: rest =>
      if isSpace c then blockLead (max widest (column + 1)) (column + 1) rest
      else if isBreak c then
        let lead := blockLead widest 0 rest
        { lead with breaks := breakValue c :: lead.breaks }
      else ⟨[], widest, column, c :: rest⟩

/-- Blank lines under a known indentation: no more than its blanks are dropped from a line. -/
def blockBreaks (indent : Nat) : Nat → Text → BlockLead
  | column, [] => ⟨[], indent, column, []⟩
  | column, c :: rest =>
      if isSpace c && column < indent then blockBreaks indent (column + 1) rest
      else if isBreak c then
        let lead := blockBreaks indent 0 rest
        { lead with breaks := breakValue c :: lead.breaks }
      else ⟨[], indent, column, c :: rest⟩

/-- What a reader of a block scalar stands in. -/
inductive BlockPhase where
  /-- In a line; `leading` tells whether it starts with a blank or a tab. -/
  | line (leading : Bool)
  /-- Between lines, with the break of the last line and those behind it in reverse. -/
  | between (leading : Bool) (first : Char) (later : Text) (column : Nat)
  deriving DecidableEq, Repr, Inhabited

/-- The text between two lines, in reverse. -/
def joinLines (folded leading : Bool) (first : Char) (later : Text) (next : Char) : Text :=
  if folded && first = '\n' && !leading && !isPadding next then
    if later.isEmpty then [' '] else later
  else later ++ [first]

/-- The text of a block scalar with the breaks at its end, all in reverse. -/
def chomp (chomping : Chomping) (before : Text) (first : Option Char) (later : Text) : Text :=
  match chomping with
  | .strip => before
  | .clip => first.toList ++ before
  | .keep => later ++ first.toList ++ before

/-- The lines of a block scalar and the rest of the text. -/
def blockLines (folded : Bool) (chomping : Chomping) (indent : Nat) :
    BlockPhase → Text → Text → Text × Text
  | .line _, before, [] => ((chomp chomping before none []).reverse, [])
  | .between _ first later _, before, [] =>
      ((chomp chomping before (some first) later).reverse, [])
  | .line leading, before, c :: rest =>
      if isBreak c then
        blockLines folded chomping indent (.between leading (breakValue c) [] 0) before rest
      else blockLines folded chomping indent (.line leading) (c :: before) rest
  | .between leading first later column, before, c :: rest =>
      if isSpace c && column < indent then
        blockLines folded chomping indent (.between leading first later (column + 1)) before rest
      else if isBreak c then
        blockLines folded chomping indent (.between leading first (breakValue c :: later) 0)
          before rest
      else if column = indent then
        blockLines folded chomping indent (.line (isPadding c))
          (c :: joinLines folded leading first later c ++ before) rest
      else ((chomp chomping before (some first) later).reverse, c :: rest)

/-- The text of a block scalar behind its indicator, and the rest. Lines are indented by at least
`least` blanks. -/
def blockScalar (folded : Bool) (least : Nat) (text : Text) : Except Fault (Text × Text) :=
  match blockHeader text with
  | .error fault => .error fault
  | .ok (header, rest) =>
      let (indent, lead) := match header.indent with
        | some stated =>
            let indent := least + stated - 1
            (indent, blockBreaks indent 0 rest)
        | none =>
            let lead := blockLead 0 0 rest
            (max least lead.widest, lead)
      match lead.rest with
      | [] => .ok ((chomp header.chomping [] none lead.breaks.reverse).reverse, [])
      | c :: rest =>
          if lead.column = indent then
            .ok (blockLines folded header.chomping indent (.line (isPadding c))
              (c :: lead.breaks.reverse) rest)
          else .ok ((chomp header.chomping [] none lead.breaks.reverse).reverse, c :: rest)

end RouteAtlas.Yaml
