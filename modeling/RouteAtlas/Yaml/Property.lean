import RouteAtlas.Json.Parser
import RouteAtlas.Yaml.Block
import RouteAtlas.Yaml.Numeral

/-!
# Anchors, tags and directives

The properties that stand in front of a node, and the directives in front of a document. Names of
anchors are ASCII words. A tag is a lone mark, a full name between angle brackets, or a handle with the
rest of the name; in a name any byte may be written as a percent sign and two hexadecimal digits.
-/

set_option autoImplicit false

namespace RouteAtlas.Yaml

/-- Demands a condition. -/
def need (condition : Bool) : Except Fault Unit :=
  if condition then .ok () else .error .malformed

/-- A name and what follows it. -/
def takeName (text : Text) : Except Fault (Text × Text) := do
  let name := text.takeWhile isNameChar
  need !name.isEmpty
  pure (name, text.dropWhile isNameChar)

/-- The name of an anchor or a reference behind its mark. -/
def anchorName (text : Text) : Except Fault (Text × Text) := do
  let (name, rest) ← takeName text
  need (meetsSeparator rest || (rest.take 1).all ("?:,]\x7d%@\x60".toList.contains ·))
  pure (name, rest)

/-- Characters of tag names beside letters and digits. -/
def tagMarks : Text := "-;/?:@&=+$,_.!~*'()[]".toList

/-- The bytes of a tag name, and what follows it. -/
def tagBytes : Text → Except Fault (List UInt8 × Text)
  | '%' :: a :: b :: rest =>
      match Json.hexValue? a, Json.hexValue? b with
      | some high, some low => do
          let (bytes, rest) ← tagBytes rest
          pure (UInt8.ofNat (high * 16 + low) :: bytes, rest)
      | _, _ => .error .malformed
  | c :: rest =>
      if c = '%' then .error .malformed
      else if c.isAlphanum || tagMarks.contains c then do
        let (bytes, rest) ← tagBytes rest
        pure (UInt8.ofNat c.toNat :: bytes, rest)
      else .ok ([], c :: rest)
  | [] => .ok ([], [])

/-- A tag name, which must not be empty, and what follows it. -/
def tagName (text : Text) : Except Fault (Text × Text) := do
  let (bytes, rest) ← tagBytes text
  need !bytes.isEmpty
  match String.fromUTF8? ⟨bytes.toArray⟩ with
  | some name => pure (name.toList, rest)
  | none => .error .malformed

/-- A tag handle from its first mark to its second one, or a lone mark before a blank. -/
def tagHandle (text : Text) : Except Fault (Text × Text) :=
  match text with
  | '!' :: ' ' :: rest => .ok (['!'], ' ' :: rest)
  | '!' :: rest =>
      match rest.dropWhile isNameChar with
      | '!' :: behind => .ok ('!' :: rest.takeWhile isNameChar ++ ['!'], behind)
      | _ => .error .malformed
  | _ => .error .malformed

/-- A tag from its mark on. -/
def tagText (text : Text) : Except Fault (TagText × Text) := do
  let (tag, rest) ← match text.drop 1 with
    | '<' :: name => do
        let (suffix, rest) ← tagName name
        match rest with
        | '>' :: rest => pure (⟨none, suffix⟩, rest)
        | _ => .error .malformed
    | behind =>
        if meetsSeparator behind then pure (⟨none, ['!']⟩, behind)
        else if (behind.takeWhile fun c => !(isSpace c || isBreak c)).contains '!' then do
          let (handle, rest) ← tagHandle text
          let (suffix, rest) ← tagName rest
          pure (⟨some handle, suffix⟩, rest)
        else do
          let (suffix, rest) ← tagName behind
          pure (⟨some ['!'], suffix⟩, rest)
  need (meetsGap rest)
  pure (tag, rest)

/-- The number that a text starts with and what follows it. -/
def takeNumber (text : Text) : Except Fault (Int × Text) := do
  let digits := text.takeWhile Char.isDigit
  need !digits.isEmpty
  let number ← inDecimal digits
  pure (number, text.dropWhile Char.isDigit)

/-- The value of a version directive. -/
def versionValue (text : Text) : Except Fault (Directive × Text) := do
  let (major, rest) ← takeNumber (text.dropWhile isSpace)
  need (rest.head? == some '.')
  let (_, rest) ← takeNumber (rest.drop 1)
  need (meetsGap rest)
  pure (.version major.toNat, rest)

/-- The value of a tag directive. -/
def handleValue (text : Text) : Except Fault (Directive × Text) := do
  let (handle, rest) ← tagHandle (text.dropWhile isSpace)
  need (rest.head? == some ' ')
  let (meaning, rest) ← tagName (rest.dropWhile isSpace)
  need (meetsGap rest)
  pure (.handle handle meaning, rest)

/-- A directive behind its mark, with its whole line. -/
def directiveLine (text : Text) : Except Fault (Directive × Text) := do
  let (name, rest) ← takeName text
  need (meetsGap rest)
  let (directive, rest) ←
    if name = "YAML".toList then versionValue rest
    else if name = "TAG".toList then handleValue rest
    else pure (.other, rest.dropWhile fun c => !isBreak c)
  match blankLine? rest with
  | some rest => pure (directive, rest)
  | none => .error .malformed

end RouteAtlas.Yaml
