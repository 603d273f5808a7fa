import RouteAtlas.Text.Blank
import RouteAtlas.Text.Word

/-!
# Path templates

A route path names its parameters as `:name`, with an optional pattern in parentheses and an optional
mark behind it. A path is read into parts, plain characters and parameters, and written as a template
in which a parameter stands in braces. The placeholders of a template are read back by a pattern of
their own. Paths are joined to the mount of their router, and a mount loses its surrounding slashes
and the base path of the application.
-/

set_option autoImplicit false

namespace RouteAtlas.Route

open Text

/-- One part of a route path. -/
inductive PathPart where
  | plain (c : Char)
  | parameter (name : Text)
  deriving DecidableEq, Repr, Inhabited

/-- Drops a parenthesised pattern at the head of a text. -/
def dropPattern (text : Text) : Text :=
  match text with
  | '(' :: rest =>
      match rest.dropWhile (· ≠ ')') with
      | _ :: behind => behind
      | [] => text
  | _ => text

/-- Drops an optionality or repetition mark at the head of a text. -/
def dropMark : Text → Text
  | [] => []
  | c :: rest => if c = '?' || c = '*' || c = '+' then rest else c :: rest

/-- Dropping a pattern does not lengthen a text. -/
theorem length_dropPattern (text : Text) : (dropPattern text).length ≤ text.length := by
  simp only [dropPattern]
  split
  · rename_i rest
    split
    · rename_i c behind h
      have := (List.dropWhile_suffix (l := rest) (fun c => decide (c ≠ ')'))).length_le
      rw [h] at this
      simp only [List.length_cons] at this ⊢
      omega
    · simp
  · simp

/-- Dropping a mark does not lengthen a text. -/
theorem length_dropMark (text : Text) : (dropMark text).length ≤ text.length := by
  cases text with
  | nil => simp [dropMark]
  | cons c rest =>
      simp only [dropMark]
      split <;> simp

/-- The parts of a route path. -/
def pathParts : Text → List PathPart
  | [] => []
  | c :: rest =>
      if c = ':' then
        match _hname : identifier? rest with
        | some (name, behind) => .parameter name :: pathParts (dropMark (dropPattern behind))
        | none => .plain c :: pathParts rest
      else .plain c :: pathParts rest
termination_by text => text.length
decreasing_by
  · have happend := congrArg List.length (identifier?_append _hname)
    have hmark := length_dropMark (dropPattern behind)
    have hpattern := length_dropPattern behind
    simp only [List.length_append, List.length_cons] at happend ⊢
    omega
  · simp
  · simp

/-- A part as it stands in a template. -/
def PathPart.text : PathPart → Text
  | .plain c => [c]
  | .parameter name => '\x7b' :: (name ++ ['\x7d'])

/-- The template of a route path. -/
def template (path : Text) : Text :=
  (pathParts path).flatMap PathPart.text

/-- The parameter names of a route path, in order. -/
def parameterNames (path : Text) : List Text :=
  (pathParts path).filterMap fun
    | .plain _ => none
    | .parameter name => some name

/-- A placeholder name cannot hold a closing brace or a slash. -/
def isPlaceholderPart (c : Char) : Bool :=
  !(c == '\x7d' || c == '/')

/-- The names in braces of a template, in order. -/
def placeholders : Text → List Text
  | [] => []
  | c :: rest =>
      if c = '\x7b' then
        match rest.takeWhile isPlaceholderPart, _hrest : rest.dropWhile isPlaceholderPart with
        | first :: name, '\x7d' :: behind => (first :: name) :: placeholders behind
        | _, _ => placeholders rest
      else placeholders rest
termination_by text => text.length
decreasing_by
  · have := (List.dropWhile_suffix (l := rest) isPlaceholderPart).length_le
    rw [_hrest] at this
    simp only [List.length_cons] at this ⊢
    omega
  · simp
  · simp

/-- Drops the slashes around a text. -/
def trimSlashes (text : Text) : Text :=
  trimWhile (· == '/') text

/-- A local path behind the mount of its router; a lone slash stands for the mount itself. -/
def pathUnder (mount localPath : Text) : Text :=
  let inner := trimSlashes mount
  let start := if inner.isEmpty then [] else '/' :: inner
  match trim localPath with
  | [] => if start.isEmpty then ['/'] else start
  | ['/'] => if start.isEmpty then ['/'] else start
  | '/' :: rest => start ++ '/' :: rest
  | rest => start ++ '/' :: rest

/-- A mount path without surrounding slashes and without the base path. -/
def mountWithin (path basePath : Text) : Text :=
  let mount := trimSlashes (trim path)
  let base := trimSlashes (trim basePath)
  if base.isEmpty then mount
  else if mount = base then []
  else
    match dropStart? (base ++ ['/']) mount with
    | some behind => behind.dropWhile (· == '/')
    | none => mount

end RouteAtlas.Route
