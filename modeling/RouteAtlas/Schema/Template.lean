import RouteAtlas.Text.Digit
import RouteAtlas.Text.Quoted

/-!
# Reference templates

A reference to a model is written by a template: a text with fields in braces, into which the name of
the model is filled. A field names what it shows, `model`, and may pick one of its characters by an
index in brackets. Behind an exclamation mark it may ask for the name in quotes; behind a colon it may
state a layout: a filling character, an alignment, a width and a greatest length. The layout may
itself have fields. Braces that are meant as such are written twice.

A template is filled from left to right, and the first thing wrong with it is the fault that counts.
-/

set_option autoImplicit false

namespace RouteAtlas.Schema

open Text

/-- Why a template cannot be filled. -/
inductive TemplateFault where
  /-- The template is not well formed. -/
  | malformed (message : String)
  /-- A field shows something other than the model. -/
  | unknownName
  /-- A field shows a thing by its position, or a character beyond the end of the name. -/
  | noSuchPosition
  /-- A field asks for a part of a name. -/
  | noSuchPart
  /-- A field picks a character by something that is no number. -/
  | notPosition
  deriving DecidableEq, Repr, Inhabited

namespace Template

/-- A field as it is written. -/
structure Hole where
  path : Text
  conversion : Option Char := none
  layout : Text := []
  deriving DecidableEq, Repr, Inhabited

/-- What is written in a field before its end, its conversion or its layout, with the character that
ends it and the rest behind that. Brackets hide whatever stands in them. -/
def readPath : Bool → Text → Except TemplateFault (Text × Char × Text)
  | _, [] => .error (.malformed "expected '\x7d' before end of string")
  | true, c :: rest => do
      let (path, mark, rest) ← readPath (c != ']') rest
      pure (c :: path, mark, rest)
  | false, c :: rest =>
      if c = '\x7b' then .error (.malformed "unexpected '\x7b' in field name")
      else if c = '\x7d' || c = ':' || c = '!' then .ok ([], c, rest)
      else do
        let (path, mark, rest) ← readPath (c == '[') rest
        pure (c :: path, mark, rest)

/-- A layout up to the brace that closes its field, and the rest; `depth` counts the fields open in
it. -/
def readLayout : Nat → Text → Except TemplateFault (Text × Text)
  | _, [] => .error (.malformed "unmatched '\x7b' in format spec")
  | depth, c :: rest =>
      if c = '\x7d' && depth = 0 then .ok ([], rest)
      else do
        let inside := if c = '\x7b' then depth + 1 else if c = '\x7d' then depth - 1 else depth
        let (layout, rest) ← readLayout inside rest
        pure (c :: layout, rest)

/-- A field behind its opening brace, and the rest. -/
def readHole (text : Text) : Except TemplateFault (Hole × Text) := do
  match ← readPath false text with
  | (_, '!', []) =>
      throw (.malformed "end of string while looking for conversion specifier")
  | (path, '!', conversion :: behind) =>
      match behind with
      | '\x7d' :: rest => pure (⟨path, some conversion, []⟩, rest)
      | ':' :: rest =>
          let (layout, rest) ← readLayout 0 rest
          pure (⟨path, some conversion, layout⟩, rest)
      | [] => throw (.malformed "unmatched '\x7b' in format spec")
      | _ => throw (.malformed "expected ':' after conversion specifier")
  | (path, ':', rest) =>
      let (layout, rest) ← readLayout 0 rest
      pure (⟨path, none, layout⟩, rest)
  | (path, _, rest) => pure (⟨path, none, []⟩, rest)

/-- The largest number that a template may contain. -/
def maxPosition : Nat := 9223372036854775807

/-- The number that decimal digits of any script denote; there is none where another character
stands. -/
def position? (digits : Text) : Except TemplateFault (Option Nat) :=
  match digits.mapM decimalValue? with
  | some (first :: rest) =>
      let value := ofDigitValues (first :: rest)
      if value ≤ maxPosition then .ok (some value)
      else .error (.malformed "Too many decimal digits in format string")
  | _ => .ok none

/-- What a path picks from a name, part by part. `fuel` bounds the parts. -/
def follow : Nat → Text → Text → Except TemplateFault Text
  | 0, name, _ => .ok name
  | _ + 1, name, [] => .ok name
  | fuel + 1, name, '[' :: rest => do
      let key := rest.takeWhile (· ≠ ']')
      let position ← position? key
      if key.isEmpty then throw (.malformed "Empty attribute in format string")
      match position with
      | none => throw .notPosition
      | some position =>
          match name[position]? with
          | none => throw .noSuchPosition
          | some c => follow fuel [c] (rest.drop (key.length + 1))
  | _ + 1, _, '.' :: rest =>
      match rest with
      | [] => .error (.malformed "Empty attribute in format string")
      | c :: _ =>
          if c = '.' || c = '[' then .error (.malformed "Empty attribute in format string")
          else .error .noSuchPart
  | _ + 1, _, _ =>
      .error (.malformed "Only '.' or '[' may follow ']' in format field specifier")

/-- What a field shows of a name. -/
def shownBy (name path : Text) : Except TemplateFault Text := do
  let first := path.takeWhile fun c => c ≠ '.' && c ≠ '['
  let position ← position? first
  if first.isEmpty || position.isSome then throw .noSuchPosition
  if first ≠ "model".toList then throw .unknownName
  follow path.length name (path.drop first.length)

/-- A name as a conversion wants it. -/
def convert (conversion : Option Char) (name : Text) : Except TemplateFault Text :=
  match conversion with
  | none => .ok name
  | some 's' => .ok name
  | some 'r' => .ok (quoted name)
  | some 'a' => .ok (quoted name)
  | some c =>
      .error (.malformed ("Unknown conversion specifier "
        ++ (if 32 < c.toNat && c.toNat < 127 then c.toString else "\\x" ++ hexadecimal c.toNat)))
where
  /-- A number in hexadecimal digits. -/
  hexadecimal (n : Nat) : String := String.ofList (Nat.toDigits 16 n)

/-- The ways in which a text stands in a wider place. -/
inductive Alignment where
  | left
  | right
  | center
  /-- Between a sign and its digits. -/
  | inside
  deriving DecidableEq, Repr, Inhabited

/-- The alignment that a character stands for. -/
def Alignment.ofChar? (c : Char) : Option Alignment :=
  if c = '<' then some .left
  else if c = '>' then some .right
  else if c = '^' then some .center
  else if c = '=' then some .inside
  else none

/-- How a name is laid out. -/
structure Layout where
  fill : Char := ' '
  alignment : Alignment := .left
  width : Nat := 0
  maxLength : Option Nat := none
  deriving DecidableEq, Repr, Inhabited

/-- The filling character and the alignment at the start of a layout, and the rest; whether a filling
character was given is told too. -/
def readAlignment (text : Text) : Layout × Bool × Text :=
  match text with
  | fill :: mark :: rest =>
      match Alignment.ofChar? mark with
      | some alignment => ({ fill := fill, alignment := alignment }, true, rest)
      | none =>
          match Alignment.ofChar? fill with
          | some alignment => ({ alignment := alignment }, false, mark :: rest)
          | none => ({}, false, text)
  | [mark] =>
      match Alignment.ofChar? mark with
      | some alignment => ({ alignment := alignment }, false, [])
      | none => ({}, false, text)
  | [] => ({}, false, [])

/-- The number at the start of a text and the rest. -/
def readNumber (text : Text) : Except TemplateFault (Option Nat × Text) := do
  let digits := text.takeWhile fun c => (decimalValue? c).isSome
  let value ← position? digits
  pure (value, text.drop digits.length)

/-- A character at the start of a text. -/
def takeMark (isMark : Char → Bool) : Text → Option Char × Text
  | c :: rest => if isMark c then (some c, rest) else (none, c :: rest)
  | [] => (none, [])

/-- The wording for a character that stands where it may not. -/
def shownMark (c : Char) : String :=
  if 32 < c.toNat && c.toNat < 128 then c.toString
  else "\\x" ++ String.ofList (Nat.toDigits 16 c.toNat)

/-- Fails with a message if a condition holds. -/
def refuse (condition : Bool) (message : String) : Except TemplateFault Unit :=
  if condition then .error (.malformed message) else .ok ()

/-- Reads the mark for groups of digits, which has no meaning for names. -/
def readGrouping (text : Text) : Except TemplateFault (Option Char × Text) := do
  let (comma, rest) := takeMark (· == ',') text
  let (underscore, rest) := takeMark (· == '_') rest
  let both := "Cannot specify both ',' and '_'."
  refuse (comma.isSome && underscore.isSome) both
  refuse (underscore.isSome && rest.head? == some ',') both
  pure (comma <|> underscore, rest)

/-- The greatest length that a layout states behind a point. -/
def readMaxLength (text : Text) : Except TemplateFault (Option Nat × Text) := do
  match text with
  | '.' :: rest =>
      let (length, rest) ← readNumber rest
      if length.isNone then throw (.malformed "Format specifier missing precision")
      pure (length, rest)
  | rest => pure (none, rest)

/-- The kinds of numbers whose digits may be grouped by a mark. -/
def groups (grouping kind : Char) : Bool :=
  "defgEG%F".toList.contains kind || (grouping = '_' && "boxX".toList.contains kind)

/-- Reads a layout. Much of what numbers may have is understood and refused. -/
def readFormat (text : Text) : Except TemplateFault Layout := do
  let (layout, isFilled, rest) := readAlignment text
  let (sign, rest) := takeMark (fun c => c == ' ' || c == '+' || c == '-') rest
  let (zero, rest) := takeMark (· == 'z') rest
  let (alternate, rest) := takeMark (· == '#') rest
  let (padding, rest) := takeMark (fun c => c == '0' && !isFilled) rest
  let layout := if padding.isSome then { layout with fill := '0' } else layout
  let (width, rest) ← readNumber rest
  let (grouping, rest) ← readGrouping rest
  let (maxLength, rest) ← readMaxLength rest
  refuse (rest.length > 1) ("Invalid format specifier '" ++ String.ofList text
    ++ "' for object of type 'str'")
  let kind := rest.headD 's'
  if let some mark := grouping then
    refuse (!groups mark kind) ("Cannot specify '" ++ mark.toString ++ "' with '"
      ++ shownMark kind ++ "'.")
  refuse (kind != 's') ("Unknown format code '" ++ shownMark kind ++ "' for object of type 'str'")
  refuse (sign == some ' ') "Space not allowed in string format specifier"
  refuse sign.isSome "Sign not allowed in string format specifier"
  refuse zero.isSome "Negative zero coercion (z) not allowed in string format specifier"
  refuse alternate.isSome "Alternate form (#) not allowed in string format specifier"
  refuse (layout.alignment == .inside) "'=' alignment not allowed in string format specifier"
  pure { layout with width := width.getD 0, maxLength := maxLength }

/-- A name laid out. -/
def Layout.apply (layout : Layout) (name : Text) : Text :=
  let name := match layout.maxLength with
    | some length => name.take length
    | none => name
  let missing := layout.width - name.length
  let before := match layout.alignment with
    | .right => missing
    | .center => missing / 2
    | _ => 0
  List.replicate before layout.fill ++ name ++ List.replicate (missing - before) layout.fill

/-- Fills a name into a template. `depth` tells how deep fields may stand in layouts; `fuel` is more
than the length of the template. -/
def fillWithin (name : Text) : Nat → Nat → Text → Except TemplateFault Text
  | 0, _, _ => .ok []
  | _ + 1, _, [] => .ok []
  | fuel + 1, depth, c :: rest =>
      if c = '\x7b' then
        match rest with
        | [] => .error (.malformed "Single '\x7b' encountered in format string")
        | next :: behind =>
            if next = '\x7b' then ('\x7b' :: ·) <$> fillWithin name fuel depth behind
            else do
              let (hole, rest) ← readHole (next :: behind)
              let shown ← shownBy name hole.path
              let shown ← convert hole.conversion shown
              let layout ←
                if hole.layout.contains '\x7b' then
                  if depth = 0 then throw (.malformed "Max string recursion exceeded")
                  else fillWithin name fuel (depth - 1) hole.layout
                else pure hole.layout
              let layout ← if layout.isEmpty then pure {} else readFormat layout
              (layout.apply shown ++ ·) <$> fillWithin name fuel depth rest
      else if c = '\x7d' then
        match rest with
        | '\x7d' :: rest => ('\x7d' :: ·) <$> fillWithin name fuel depth rest
        | _ => .error (.malformed "Single '\x7d' encountered in format string")
      else (c :: ·) <$> fillWithin name fuel depth rest

end Template

/-- Fills the name of a model into a reference template. -/
def fillTemplate (template name : String) : Except TemplateFault String :=
  (Template.fillWithin name.toList (template.length + 1) 1 template.toList).map String.ofList

end RouteAtlas.Schema
