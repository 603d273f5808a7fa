import RouteAtlas.Text.Pattern.Basic
import RouteAtlas.Text.Unicode.Property

/-!
# Reading patterns

How patterns are written. Most characters stand for themselves; a point stands for any character on a
line, brackets enclose classes, a backslash gives a character another meaning, bars separate choices,
and parentheses enclose a part, which may have a name. Behind a part stands how often it occurs. Modes
change how the rest of the part around them is read: they make case indifferent, let anchors hold at
lines, let the point stand for newlines, or let blanks and comments be written.

A pattern that is not written by these rules has no meaning, nor has one that is nested too deep or
weighs too much.
-/

set_option autoImplicit false

namespace RouteAtlas.Text

/-- How the rest of a pattern is read. -/
structure PatternModes where
  anyCase : Bool := false
  lines : Bool := false
  pointTakesNewline : Bool := false
  returnsEndLines : Bool := false
  /-- Classes hold characters of every script, and not only those of ASCII. -/
  unicode : Bool := true
  /-- Blanks and comments do not count. -/
  spaced : Bool := false
  deriving DecidableEq, Repr, Inhabited

namespace PatternModes

/-- The modes with the one that a letter stands for on or off. -/
def set? (modes : PatternModes) (letter : Char) (isOn : Bool) : Option PatternModes :=
  match letter with
  | 'i' => some { modes with anyCase := isOn }
  | 'm' => some { modes with lines := isOn }
  | 's' => some { modes with pointTakesNewline := isOn }
  | 'R' => some { modes with returnsEndLines := isOn }
  | 'u' => some { modes with unicode := isOn }
  | 'x' => some { modes with spaced := isOn }
  | 'U' => some modes
  | _ => none

/-- The letters of words. -/
def letters (modes : PatternModes) : CharacterClass :=
  if modes.unicode then wordClass
  else .listed (codeRanges ["30-39 41-5A 5F 61-7A"])

/-- A class with characters that differ only in case, if case makes no difference. -/
def widen (modes : PatternModes) (characters : CharacterClass) : CharacterClass :=
  if modes.anyCase then .anyCase characters else characters

/-- A class or its complement; the complement must not leave Unicode. -/
def complementIf (modes : PatternModes) (isComplement : Bool) (characters : CharacterClass) :
    Option CharacterClass :=
  if isComplement then if modes.unicode then some (.not characters) else none
  else some characters

end PatternModes

/-- A text without the blanks and comments it starts with. -/
def dropSpacing : Bool → Text → Text
  | _, [] => []
  | true, c :: rest => dropSpacing (c != '\n') rest
  | false, c :: rest =>
      if isSpace c then dropSpacing false rest
      else if c = '#' then dropSpacing true rest
      else c :: rest

/-- A text without the blanks and comments that do not count. -/
def PatternModes.skip (modes : PatternModes) (text : Text) : Text :=
  if modes.spaced then dropSpacing false text else text

/-! ## Single characters and classes -/

/-- What a single mark of a pattern stands for. -/
inductive Mark where
  /-- A character; a byte beyond ASCII was given by its number. -/
  | literal (c : Char) (isByte : Bool)
  | characters (kind : CharacterClass)
  | place (anchor : Anchor)
  deriving Repr, Inhabited

/-- The text up to a closing brace, and what follows it; `isComment` tells whether it starts in a
comment. -/
def upToBrace (modes : PatternModes) : Bool → Text → Option (Text × Text)
  | _, [] => none
  | isComment, c :: rest =>
      if isComment then upToBrace modes (c != '\n') rest
      else if c = '\x7d' then some ([], rest)
      else if modes.spaced && isSpace c then upToBrace modes false rest
      else if modes.spaced && c = '#' then upToBrace modes true rest
      else (upToBrace modes false rest).map fun (inside, behind) => (c :: inside, behind)

/-- The character that hexadecimal digits number. -/
def numberedChar? (digits : Text) : Option Char := do
  if !digits.all fun c => c.toNat < 128 then none
  let code ← naturalIn? 16 digits
  if code.isValidChar then some (Char.ofNat code) else none

/-- A number of characters, between which blanks may stand, and what follows them. -/
def takeSpaced (modes : PatternModes) : Nat → Text → Option (Text × Text)
  | 0, text => some ([], text)
  | _ + 1, [] => none
  | count + 1, c :: rest =>
      (takeSpaced modes count (modes.skip rest)).map fun (taken, rest) => (c :: taken, rest)

/-- A character given by its number, of so many digits or in braces. -/
def readNumbered (modes : PatternModes) (width : Nat) (text : Text) : Option (Mark × Text) :=
  match modes.skip text with
  | '\x7b' :: inside => do
      let (digits, rest) ← upToBrace modes false inside
      let c ← numberedChar? digits
      pure (.literal c false, modes.skip rest)
  | text => do
      let (digits, rest) ← takeSpaced modes width text
      let c ← numberedChar? digits
      pure (.literal c (width == 2 && 0x80 ≤ c.toNat), rest)

/-- The class of a property by its name and a value, if a separator parts the two, and whether the
separator asks for the characters outside it. The first choice is of separators, the second of
properties. -/
def valuedClass? (name separator : Text) (isUnequal : Bool) :
    Option (Option (CharacterClass × Bool)) :=
  (cut? separator name).map fun (property, value) =>
    (propertyValueClass? property value).map fun found => (found, isUnequal)

/-- The class of a property by its name, or by its name and a value. -/
def namedClass? (name : Text) : Option (CharacterClass × Bool) :=
  let valued := valuedClass? name ['!', '='] true <|> valuedClass? name [':'] false
    <|> valuedClass? name ['='] false
  valued.getD ((propertyClass? name).map fun found => (found, false))

/-- The class of a property behind its letter. -/
def readProperty (modes : PatternModes) (isComplement : Bool) (text : Text) : Option (Mark × Text) := do
  let (name, rest) ← match modes.skip text with
    | '\x7b' :: inside => upToBrace modes false inside
    | '\\' :: _ => none
    | c :: rest => some ([c], rest)
    | [] => none
  let (found, isUnequal) ← namedClass? name
  if !modes.unicode then none
  let found ← modes.complementIf (isComplement != isUnequal) (modes.widen found)
  pure (.characters found, rest)

/-- The class that a letter stands for. -/
def letterClass? (modes : PatternModes) (letter : Char) : Option CharacterClass :=
  match letter with
  | 'd' => some (if modes.unicode then digitClass else .range 0x30 0x39)
  | 's' => some (if modes.unicode then spaceClass else .listed (codeRanges ["9-D 20"]))
  | 'w' => some modes.letters
  | _ => none

/-- The control character that a letter stands for. -/
def controlOf? (letter : Char) : Option Char :=
  match letter with
  | 'a' => some '\x07'
  | 'f' => some '\x0c'
  | 't' => some '\t'
  | 'n' => some '\n'
  | 'r' => some '\r'
  | 'v' => some '\x0b'
  | _ => none

/-- The places of words that names stand for. -/
def wordEdgeOf? (name : Text) : Option WordEdge :=
  if name = "start".toList then some .start
  else if name = "end".toList then some .stop
  else if name = "start-half".toList then some .halfStart
  else if name = "end-half".toList then some .halfStop
  else none

/-- The edge of a word, or a place of words by its name in braces. -/
def readWordEdge (modes : PatternModes) (text : Text) : Option (Mark × Text) :=
  let edge := fun (edge : WordEdge) => Mark.place (.word edge modes.letters)
  match text with
  | '\x7b' :: inside =>
      match modes.skip inside with
      | [] => none
      | c :: _ =>
          if c.isAlpha || c = '-' then do
            let (name, rest) ← upToBrace modes false inside
            let found ← wordEdgeOf? name
            pure (edge found, rest)
          else some (edge .boundary, text)
  | text => some (edge .boundary, text)

/-- A mark behind a backslash. Letters and digits without a meaning, and characters beyond ASCII, must
not stand there. -/
def readEscaped (modes : PatternModes) : Text → Option (Mark × Text)
  | [] => none
  | c :: rest =>
      match c with
      | 'x' => readNumbered modes 2 rest
      | 'u' => readNumbered modes 4 rest
      | 'U' => readNumbered modes 8 rest
      | 'p' => readProperty modes false rest
      | 'P' => readProperty modes true rest
      | 'A' => some (.place .textStart, rest)
      | 'z' => some (.place .textEnd, rest)
      | 'b' => readWordEdge modes rest
      | 'B' => some (.place (.word .inside modes.letters), rest)
      | '<' => some (.place (.word .start modes.letters), rest)
      | '>' => some (.place (.word .stop modes.letters), rest)
      | c =>
          match controlOf? c, letterClass? modes c.toLower with
          | some control, _ => some (.literal control false, rest)
          | none, some found =>
              (modes.complementIf c.isUpper found).map fun found => (.characters found, rest)
          | none, none =>
              if c.isAlphanum || 128 ≤ c.toNat then none else some (.literal c false, rest)

/-- The class of a character that stands for itself. -/
def literalClass (modes : PatternModes) (c : Char) (isByte : Bool) : Option CharacterClass :=
  if modes.unicode then some (modes.widen (.single c))
  else if isByte then none
  else if modes.anyCase && c.isAlpha then some (.among [c.toLower, c.toUpper])
  else some (.single c)

/-! ## Classes in brackets -/

/-- The classes of ASCII characters that names stand for. -/
def asciiClasses : List (String × List String) :=
  [("alnum", ["30-39 41-5A 61-7A"]), ("alpha", ["41-5A 61-7A"]), ("ascii", ["0-7F"]),
   ("blank", ["9 20"]), ("cntrl", ["0-1F 7F"]), ("digit", ["30-39"]), ("graph", ["21-7E"]),
   ("lower", ["61-7A"]), ("print", ["20-7E"]), ("punct", ["21-2F 3A-40 5B-60 7B-7E"]),
   ("space", ["9-D 20"]), ("upper", ["41-5A"]), ("word", ["30-39 41-5A 5F 61-7A"]),
   ("xdigit", ["30-39 41-46 61-66"])]

/-- A class of ASCII characters by its name between colons and brackets: whether it is a complement,
its name, and what follows. -/
def asciiClassName? (text : Text) : Option (Bool × List CodeRange × Text) := do
  let inside ← dropStart? ['[', ':'] text
  let (isComplement, inside) := match inside with
    | '^' :: inside => (true, inside)
    | inside => (false, inside)
  let name := inside.takeWhile (· ≠ ':')
  let rest ← dropStart? [':', ']'] (inside.dropWhile (· ≠ ':'))
  let lines ← asciiClasses.lookup (String.ofList name)
  pure (isComplement, codeRanges lines, rest)

/-- The operations between classes. -/
inductive ClassOperation where
  | intersection
  | difference
  | symmetricDifference
  deriving DecidableEq, Repr, Inhabited

/-- The operation that two characters stand for. -/
def ClassOperation.of? : Text → Option (ClassOperation × Text)
  | '&' :: '&' :: rest => some (.intersection, rest)
  | '-' :: '-' :: rest => some (.difference, rest)
  | '~' :: '~' :: rest => some (.symmetricDifference, rest)
  | _ => none

/-- The result of an operation on two classes. -/
def ClassOperation.apply (operation : ClassOperation) (first second : CharacterClass) :
    CharacterClass :=
  match operation with
  | .intersection => .both first second
  | .difference => first.without second
  | .symmetricDifference => first.apart second

/-- What has been read of a class in brackets: the members since the last operation, what stands before
that, and how deep all of it is nested. -/
structure ClassSoFar where
  members : List CharacterClass := []
  before : Option (ClassOperation × CharacterClass) := none
  depth : Nat := 0
  deriving Inhabited

namespace ClassSoFar

/-- The class with a further member. -/
def add (soFar : ClassSoFar) (member : CharacterClass) (depth : Nat) : ClassSoFar :=
  { soFar with members := member :: soFar.members, depth := max soFar.depth depth }

/-- The class as a whole. -/
def close (soFar : ClassSoFar) (modes : PatternModes) : CharacterClass × Nat :=
  let members := CharacterClass.unionAll soFar.members.reverse
  let depth := soFar.depth + if 1 < soFar.members.length then 1 else 0
  match soFar.before with
  | none => (members, depth)
  | some (operation, first) => (operation.apply (modes.widen first) (modes.widen members), depth + 1)

/-- The class before a further operation. -/
def operate (soFar : ClassSoFar) (modes : PatternModes) (operation : ClassOperation) : ClassSoFar :=
  let (found, depth) := soFar.close modes
  { members := [], before := some (operation, found), depth := depth }

end ClassSoFar

/-- A character that is written as a member of a class: it must not be a byte, and in a class of bytes
it must be of ASCII. -/
def isMember (modes : PatternModes) (c : Char) (isByte : Bool) : Bool :=
  modes.unicode || (!isByte && c.toNat < 128)

/-- A character or a class between brackets, and what follows it. -/
def readMember (modes : PatternModes) : Text → Option (Mark × Text)
  | '\\' :: rest => readEscaped modes rest
  | c :: rest => some (.literal c false, rest)
  | [] => none

/-- A character, a range of characters or a class between brackets, and what follows it. -/
def readRange (modes : PatternModes) (text : Text) : Option (CharacterClass × Text) := do
  let (mark, rest) ← readMember modes text
  let rest := modes.skip rest
  let isRange := match rest with
    | '-' :: behind =>
        match modes.skip behind with
        | ']' :: _ => false
        | '-' :: _ => false
        | _ => true
    | _ => false
  match mark, isRange with
  | .literal first isByte, true => do
      let (stop, rest) ← readMember modes (modes.skip (rest.drop 1))
      match stop with
      | .literal last isLastByte =>
          if isMember modes first isByte && isMember modes last isLastByte && first ≤ last then
            pure (.range first.toNat last.toNat, rest)
          else none
      | _ => none
  | .literal c isByte, false => if isMember modes c isByte then pure (.single c, rest) else none
  | .characters found, false => pure (found, rest)
  | _, _ => none

/-- The hyphens at the start of a class, which stand for themselves. -/
def readHyphens (modes : PatternModes) : Nat → ClassSoFar → Text → ClassSoFar × Text
  | 0, soFar, text => (soFar, text)
  | fuel + 1, soFar, text =>
      match text with
      | '-' :: rest => readHyphens modes fuel (soFar.add (.single '-') 0) (modes.skip rest)
      | text => (soFar, text)

mutual

/-- A class behind its opening bracket, how deep it is nested, and what follows it. -/
def readBrackets (modes : PatternModes) : Nat → Text → Option (CharacterClass × Nat × Text)
  | 0, _ => none
  | fuel + 1, text => do
      let text := modes.skip text
      let (isComplement, text) := match text with
        | '^' :: rest => (true, modes.skip rest)
        | text => (false, text)
      let (soFar, text) := readHyphens modes text.length {} text
      let (soFar, text) := match soFar.members, text with
        | [], ']' :: rest => (soFar.add (.single ']') 0, rest)
        | _, text => (soFar, text)
      let (found, depth, rest) ← readMembers modes fuel soFar text
      let found ← modes.complementIf isComplement (modes.widen found)
      pure (found, depth + 1, rest)

/-- The members of a class up to its closing bracket. -/
def readMembers (modes : PatternModes) :
    Nat → ClassSoFar → Text → Option (CharacterClass × Nat × Text)
  | 0, _, _ => none
  | fuel + 1, soFar, text =>
      match modes.skip text with
      | [] => none
      | ']' :: rest =>
          let (found, depth) := soFar.close modes
          some (found, depth, rest)
      | '[' :: rest =>
          match asciiClassName? ('[' :: rest) with
          | some (isComplement, ranges, rest) => do
              let found ← modes.complementIf isComplement (modes.widen (.listed ranges))
              readMembers modes fuel (soFar.add found 0) rest
          | none => do
              let (found, depth, rest) ← readBrackets modes fuel rest
              readMembers modes fuel (soFar.add found depth) rest
      | text =>
          match ClassOperation.of? text with
          | some (operation, rest) => readMembers modes fuel (soFar.operate modes operation) rest
          | none => do
              let (found, rest) ← readRange modes text
              readMembers modes fuel (soFar.add found 0) rest

end

/-! ## Repetitions -/

/-- The greatest number of times that a pattern states. -/
def maxCount : Nat := 4294967295

/-- The number of times that a text in braces states. -/
def count? (text : Text) : Option Nat := do
  let digits := trimWhile isSpace text
  if digits.isEmpty || !digits.all Char.isDigit then none
  let count ← naturalIn? 10 digits
  if count ≤ maxCount then some count else none

/-- The least number of times and how many more, as a text in braces states them. -/
def counts? (text : Text) : Option (Nat × Option Nat) := do
  match partsBy ',' text with
  | [least] =>
      let least ← count? least
      pure (least, some 0)
  | [least, greatest] =>
      let least ← count? least
      if greatest.isEmpty then pure (least, none)
      else
        let greatest ← count? greatest
        if greatest < least then none else pure (least, some (greatest - least))
  | _ => none

/-- How often the part before it occurs, as the start of a text states it, and what follows. A question
mark behind that changes only which part is found. -/
def readCounts? (modes : PatternModes) (text : Text) : Option ((Nat × Option Nat) × Text) :=
  let lazily := fun (text : Text) =>
    match text with
    | '?' :: rest => rest
    | rest => rest
  match text with
  | '*' :: rest => some ((0, none), lazily rest)
  | '+' :: rest => some ((1, none), lazily rest)
  | '?' :: rest => some ((0, some 1), lazily rest)
  | '\x7b' :: inside => do
      let (inside, rest) ← upToBrace modes false inside
      let counts ← counts? inside
      pure (counts, lazily (modes.skip rest))
  | _ => none

/-- A character starts a repetition. -/
def startsCounts (c : Char) : Bool := c = '*' || c = '+' || c = '?' || c = '\x7b'

/-! ## Parts -/

/-- What is left to read of a pattern: the text, the modes, and the names given to parts. -/
structure PatternRest where
  text : Text
  modes : PatternModes := {}
  names : List Text := []
  deriving Inhabited

/-- A part that was read, and how deep it is nested. -/
structure PatternPart where
  pattern : TextPattern
  depth : Nat
  deriving Inhabited

/-- How a part in parentheses starts. -/
inductive Opening where
  /-- Modes for the rest of the part around it. -/
  | modes
  | part
  deriving DecidableEq, Repr, Inhabited

/-- Modes up to a colon or a closing parenthesis, which of them it is, and what follows. A mode occurs
once, as does the sign that the modes behind it are off, which must not come last. -/
def readModes : PatternModes → List Char → Text → Option (PatternModes × Opening × Text)
  | _, _, [] => none
  | modes, seen, c :: rest =>
      if c = ':' then if seen.head? = some '-' then none else some (modes, .part, rest)
      else if c = ')' then
        if seen.isEmpty || seen.head? = some '-' then none else some (modes, .modes, rest)
      else if seen.contains c then none
      else if c = '-' then readModes modes (c :: seen) rest
      else do
        let modes ← modes.set? c !(seen.contains '-')
        readModes modes (c :: seen) rest

/-- A character that the name of a part may start with. -/
def startsName (c : Char) : Bool := c = '_' || alphabetic.has c.toNat

/-- A character that the name of a part may go on with. -/
def continuesName (c : Char) : Bool :=
  startsName c || c = '.' || c = '[' || c = ']' || (inCategories ["nd", "nl", "no"]).has c.toNat

/-- The name of a part, which no other part has. -/
def readName (rest : PatternRest) (text : Text) : Option PatternRest := do
  let name := text.takeWhile (· ≠ '>')
  match name with
  | [] => none
  | c :: others =>
      if startsName c && others.all continuesName && !rest.names.contains name
          && name.length < text.length then
        pure { rest with text := text.drop (name.length + 1), names := name :: rest.names }
      else none

/-- What stands behind an opening parenthesis before the part itself. Parts that only look ahead or
back are not read. -/
def readOpening (rest : PatternRest) : Option (Opening × PatternRest) :=
  match rest.modes.skip rest.text with
  | '?' :: '=' :: _ => none
  | '?' :: '!' :: _ => none
  | '?' :: '<' :: '=' :: _ => none
  | '?' :: '<' :: '!' :: _ => none
  | '?' :: 'P' :: '<' :: text => (readName rest text).map fun rest => (.part, rest)
  | '?' :: '<' :: text => (readName rest text).map fun rest => (.part, rest)
  | '?' :: text => do
      let (modes, opening, text) ← readModes rest.modes [] text
      pure (opening, { rest with text := text, modes := modes })
  | text => some (.part, { rest with text := text })

/-- Parts in a row. -/
def inSequence (parts : List PatternPart) : PatternPart :=
  match parts with
  | [] => ⟨.empty, 0⟩
  | [part] => part
  | first :: rest =>
      ⟨rest.foldl (fun pattern part => .sequence pattern part.pattern) first.pattern,
        rest.foldl (fun depth part => max depth part.depth) first.depth + 1⟩

/-- Parts of which one occurs. -/
def asChoice (parts : List PatternPart) : PatternPart :=
  match parts with
  | [] => ⟨.empty, 0⟩
  | [part] => part
  | first :: rest =>
      ⟨rest.foldl (fun pattern part => .choice pattern part.pattern) first.pattern,
        rest.foldl (fun depth part => max depth part.depth) first.depth + 1⟩

/-- The part that a mark stands for. -/
def markPart (modes : PatternModes) : Mark → Option PatternPart
  | .literal c isByte => (literalClass modes c isByte).map fun found => ⟨.character found, 0⟩
  | .characters found => some ⟨.character found, 0⟩
  | .place anchor => some ⟨.place anchor, 0⟩

/-- The characters that a point stands for. -/
def pointClass (modes : PatternModes) : Option CharacterClass :=
  if !modes.unicode then none
  else if modes.pointTakesNewline then some (.not .nothing)
  else if modes.returnsEndLines then some (.not (.among ['\n', '\r']))
  else some (.not (.single '\n'))

/-- A part of one mark at the start of a text, and what follows it. -/
def readMark (modes : PatternModes) : Text → Option (PatternPart × Text)
  | [] => none
  | c :: rest =>
      match c with
      | '.' => (pointClass modes).map fun found => (⟨.character found, 0⟩, rest)
      | '^' =>
          let anchor := if !modes.lines then Anchor.textStart
            else if modes.returnsEndLines then .returnLineStart else .lineStart
          some (⟨.place anchor, 0⟩, rest)
      | '$' =>
          let anchor := if !modes.lines then Anchor.textEnd
            else if modes.returnsEndLines then .returnLineEnd else .lineEnd
          some (⟨.place anchor, 0⟩, rest)
      | '[' => do
          let (found, depth, rest) ← readBrackets modes (2 * rest.length + 2) rest
          pure (⟨.character found, depth⟩, rest)
      | '\\' => do
          let (mark, rest) ← readEscaped modes rest
          let part ← markPart modes mark
          pure (part, rest)
      | c => (markPart modes (.literal c false)).map fun part => (part, rest)

mutual

/-- Choices up to a closing parenthesis or the end; `before` holds those read, the last one first. -/
def readChoices : Nat → List PatternPart → PatternRest → Option (PatternPart × PatternRest)
  | 0, _, _ => none
  | fuel + 1, before, rest => do
      let (part, rest) ← readParts fuel [] rest
      match rest.text with
      | '|' :: text => readChoices fuel (part :: before) { rest with text := text }
      | _ => pure (asChoice (part :: before).reverse, rest)

/-- Parts in a row up to a bar, a closing parenthesis or the end; `before` holds those read, the last
one first, and nothing in place of modes. -/
def readParts : Nat → List (Option PatternPart) → PatternRest → Option (PatternPart × PatternRest)
  | 0, _, _ => none
  | fuel + 1, before, rest =>
      let rest := { rest with text := rest.modes.skip rest.text }
      match rest.text with
      | [] => some (closed before, rest)
      | '|' :: _ => some (closed before, rest)
      | ')' :: _ => some (closed before, rest)
      | '(' :: text => do
          match ← readOpening { rest with text := text } with
          | (.modes, rest) => readParts fuel (none :: before) rest
          | (.part, inside) =>
              let (part, behind) ← readChoices fuel [] inside
              match behind.text with
              | ')' :: text =>
                  readParts fuel (some { part with depth := part.depth + 1 } :: before)
                    { behind with text := text, modes := rest.modes }
              | _ => none
      | c :: text =>
          if startsCounts c then
            match before with
            | some part :: before => do
                let ((least, more), text) ← readCounts? rest.modes (c :: text)
                let part : PatternPart := ⟨.repetition part.pattern least more, part.depth + 1⟩
                readParts fuel (some part :: before) { rest with text := text }
            | _ => none
          else do
            let (part, text) ← readMark rest.modes (c :: text)
            readParts fuel (some part :: before) { rest with text := text }
where
  /-- Parts in a row, the last one first; modes count as parts of a row. -/
  closed (before : List (Option PatternPart)) : PatternPart :=
    inSequence (before.reverse.map fun part => part.getD ⟨.empty, 0⟩)

end

/-- How deep a pattern may be nested. -/
def maxDepth : Nat := 250

/-- The pattern that a text states. -/
def pattern? (text : Text) : Option TextPattern :=
  match readChoices (4 * text.length + 4) [] { text := text } with
  | some (part, rest) =>
      if rest.text.isEmpty && part.depth ≤ maxDepth && part.pattern.weight ≤ Pattern.maxWeight then
        some part.pattern
      else none
  | none => none

end RouteAtlas.Text
