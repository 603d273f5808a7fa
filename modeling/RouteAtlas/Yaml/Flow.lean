import RouteAtlas.Json.Parser
import RouteAtlas.Text.Surrogate
import RouteAtlas.Yaml.Token

/-!
# Quoted and plain scalars

Both kinds of scalar may run over several lines: blanks around a line break are dropped, a single
break reads as a blank, and of several breaks the first is dropped. A quoted scalar ends at its quote;
in double quotes a backslash starts an escape, and one before a line break drops the break. A plain
scalar ends before a comment, before a colon that a separator follows, at a line that is not indented
enough and, inside brackets, at an indicator.

Each reader is structural in the unread text and keeps what it has read in reverse.
-/

set_option autoImplicit false

namespace RouteAtlas.Yaml

open Text

/-- What a reader stands in: a word, blanks behind a word, or line breaks behind it. Breaks know the
first one, the later ones in reverse, the column of the line reached, and whether the first one is
dropped by an escape. -/
inductive Gap where
  | none
  | blanks (run : Text)
  | breaks (escaped : Bool) (first : Char) (later : Text) (column : Nat)
  deriving DecidableEq, Repr, Inhabited

/-- What a gap adds to the text before it, both in reverse. -/
def Gap.close (gap : Gap) (before : Text) : Text :=
  match gap with
  | .none => before
  | .blanks run => run ++ before
  | .breaks escaped first later _ =>
      if escaped then later ++ before
      else if first ≠ '\n' then later ++ first :: before
      else if later.isEmpty then ' ' :: before
      else later ++ before

/-- A gap with one more blank. -/
def Gap.addBlank (gap : Gap) (c : Char) : Gap :=
  match gap with
  | .none => .blanks [c]
  | .blanks run => .blanks (c :: run)
  | .breaks escaped first later column => .breaks escaped first later (column + 1)

/-- A gap with one more line break. -/
def Gap.addBreak (gap : Gap) (c : Char) : Gap :=
  match gap with
  | .breaks escaped first later _ => .breaks escaped first (breakValue c :: later) 0
  | _ => .breaks false (breakValue c) [] 0

/-- The gap holds a line break. -/
def Gap.isBroken : Gap → Bool
  | .breaks _ _ _ _ => true
  | _ => false

/-! ## Quoted scalars -/

/-- The character of a one-letter escape. -/
def escapeValue? (c : Char) : Option Char :=
  match c with
  | '0' => some '\x00'
  | 'a' => some '\x07'
  | 'b' => some '\x08'
  | 't' => some '\t'
  | '\t' => some '\t'
  | 'n' => some '\n'
  | 'v' => some '\x0B'
  | 'f' => some '\x0C'
  | 'r' => some '\r'
  | 'e' => some '\x1B'
  | ' ' => some ' '
  | '"' => some '"'
  | '\\' => some '\\'
  | '/' => some '/'
  | 'N' => some '\u0085'
  | '_' => some '\u00A0'
  | 'L' => some '\u2028'
  | 'P' => some '\u2029'
  | _ => none

/-- The number of digits of an escape by code point. -/
def escapeWidth? (c : Char) : Option Nat :=
  match c with
  | 'x' => some 2
  | 'u' => some 4
  | 'U' => some 8
  | _ => none

/-- The spelling of a code point. -/
def ofCode (code : Nat) : Except Fault Text :=
  if 0x7FFFFFFF < code then .error .tooLarge
  else if 0x10FFFF < code then .error (.outOfRange "chr() arg not in range(0x110000)")
  else .ok (spelledCode code)

/-- What a reader of a quoted scalar stands in. -/
inductive QuotedPhase where
  | reading (gap : Gap)
  /-- Behind a backslash. -/
  | escape
  /-- In the digits of a code point. -/
  | code (left value : Nat)
  deriving DecidableEq, Repr, Inhabited

/-- The text of a quoted scalar from inside its quotes, and the rest behind the closing quote. -/
def quotedScalar (double : Bool) : QuotedPhase → Text → Text → Except Fault (Text × Text)
  | _, _, [] => .error .malformed
  | .escape, before, c :: rest =>
      match escapeValue? c, escapeWidth? c with
      | some value, _ => quotedScalar double (.reading .none) (value :: before) rest
      | none, some width => quotedScalar double (.code width 0) before rest
      | none, none =>
          if isBreak c && !meetsDocumentMark rest then
            quotedScalar double (.reading (.breaks true '\n' [] 0)) before rest
          else .error .malformed
  | .code left value, before, c :: rest =>
      match Json.hexValue? c with
      | none => .error .malformed
      | some digit =>
          if left ≤ 1 then
            match ofCode (value * 16 + digit) with
            | .ok spelling =>
                quotedScalar double (.reading .none) (spelling.reverse ++ before) rest
            | .error fault => .error fault
          else quotedScalar double (.code (left - 1) (value * 16 + digit)) before rest
  | .reading gap, before, c :: rest =>
      if isPadding c then quotedScalar double (.reading (gap.addBlank c)) before rest
      else if isBreak c then
        if meetsDocumentMark rest then .error .malformed
        else quotedScalar double (.reading (gap.addBreak c)) before rest
      else if double then
        if c = '"' then .ok ((gap.close before).reverse, rest)
        else if c = '\\' then quotedScalar double .escape (gap.close before) rest
        else quotedScalar double (.reading .none) (c :: gap.close before) rest
      else if c = '\'' then
        match rest with
        | '\'' :: rest => quotedScalar double (.reading .none) ('\'' :: gap.close before) rest
        | rest => .ok ((gap.close before).reverse, rest)
      else quotedScalar double (.reading .none) (c :: gap.close before) rest

/-! ## Plain scalars -/

/-- Indicators that end a plain scalar inside brackets. -/
def isFlowIndicator (c : Char) : Bool :=
  c == ',' || c == '?' || c == '[' || c == ']' || c == '\x7b' || c == '\x7d'

/-- A colon ends a plain scalar before this rest. -/
def endsKey (inFlow : Bool) (rest : Text) : Bool :=
  meetsSeparator rest ||
    match rest with
    | [] => true
    | c :: _ => inFlow && isFlowIndicator c && c != '?'

/-- A word of a plain scalar ends before this character. -/
def endsWord (inFlow : Bool) (c : Char) (rest : Text) : Bool :=
  c == '\t' || (c == ':' && endsKey inFlow rest) || (inFlow && isFlowIndicator c)

/-- A plain scalar does not go on behind a gap: a comment follows, or a line that is not indented
enough. -/
def Gap.endsPlain (gap : Gap) (inFlow : Bool) (margin : Nat) (c : Char) : Bool :=
  match gap with
  | .none => false
  | .blanks _ => c == '#'
  | .breaks _ _ _ column => c == '#' || (!inFlow && column < margin)

/-- A plain scalar that was read. -/
structure PlainScalar where
  text : Text
  /-- The scalar ended behind a line break. -/
  isBroken : Bool
  rest : Text
  deriving DecidableEq, Repr, Inhabited

/-- The plain scalar a text starts with; lines go on from the column `margin`. -/
def plainScalar (inFlow : Bool) (margin : Nat) : Gap → Text → Text → PlainScalar
  | gap, before, [] => ⟨before.reverse, gap.isBroken, []⟩
  | gap, before, c :: rest =>
      if isSpace c then plainScalar inFlow margin (gap.addBlank c) before rest
      else if isBreak c then
        if meetsDocumentMark rest then ⟨before.reverse, true, rest⟩
        else plainScalar inFlow margin (gap.addBreak c) before rest
      else if gap.endsPlain inFlow margin c || endsWord inFlow c rest then
        ⟨before.reverse, gap.isBroken, c :: rest⟩
      else plainScalar inFlow margin .none (c :: gap.close before) rest

end RouteAtlas.Yaml
