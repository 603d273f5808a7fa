import RouteAtlas.Text.Quoted

/-!
# File paths

A path is a number of leading slashes and a list of segments. Reading a path drops empty segments and
single dots and keeps double dots; exactly two leading slashes are kept apart from one, and three or
more count as one. `normalize` also resolves double dots without looking at a disk.
-/

set_option autoImplicit false

namespace RouteAtlas

open Text

/-- A file path: leading slashes and segments. -/
structure Path where
  slashes : Nat
  segments : List Text
  deriving DecidableEq, Repr, Inhabited

namespace Path

/-- The leading slashes that count: none, one or two. -/
def leadingSlashes (text : Text) : Nat :=
  match (text.takeWhile (· == '/')).length with
  | 0 => 0
  | 2 => 2
  | _ => 1

/-- The segments of a text: what stands between slashes, without empty ones and single dots. -/
def segmentsOf (text : Text) : List Text :=
  (partsBy '/' text).filter fun segment => !(segment.isEmpty || segment == ['.'])

/-- The path a text denotes. -/
def ofText (text : Text) : Path :=
  { slashes := leadingSlashes text, segments := segmentsOf text }

/-- The path a string denotes. -/
def ofString (text : String) : Path := ofText text.toList

/-- The text of a path; an empty path is a single dot. -/
def text (path : Path) : Text :=
  if path.slashes = 0 && path.segments.isEmpty then ['.']
  else List.replicate path.slashes '/' ++ join ['/'] path.segments

/-- The text of a path as a string. -/
def toString (path : Path) : String := String.ofList path.text

/-- The path starts at the root of the file system. -/
def isAbsolute (path : Path) : Bool := path.slashes ≠ 0

/-- A path below another one; an absolute path stands for itself. -/
def append (base path : Path) : Path :=
  if path.isAbsolute then path
  else { base with segments := base.segments ++ path.segments }

instance : HDiv Path Path Path := ⟨append⟩

/-- The path without its last segment. -/
def parent (path : Path) : Path :=
  { path with segments := path.segments.dropLast }

/-- The last segment, or nothing. -/
def name (path : Path) : Text := path.segments.getLast?.getD []

/-- Splits a file name before its last dot, unless the dot is its first or last character. -/
def splitSuffix (name : Text) : Text × Text :=
  let ending := (name.reverse.takeWhile (· ≠ '.')).reverse
  let stem := name.take (name.length - ending.length - 1)
  if ending.isEmpty || stem.isEmpty || !name.contains '.' then (name, [])
  else (stem, '.' :: ending)

/-- The suffix of the last segment, with its dot. -/
def suffix (path : Path) : Text := (splitSuffix path.name).2

/-- Replaces the last segment, which must exist. -/
def withName? (path : Path) (name : Text) : Option Path :=
  if path.segments.isEmpty then none
  else some { path with segments := path.segments.dropLast ++ [name] }

/-- Replaces or adds the suffix of the last segment, which must exist. -/
def withSuffix? (path : Path) (suffix : Text) : Option Path :=
  path.withName? ((splitSuffix path.name).1 ++ suffix)

/-- Adds one segment to a list of resolved ones, last segment first. -/
def resolveSegment (rooted : Bool) (resolved : List Text) (segment : Text) : List Text :=
  if segment = ['.', '.'] then
    match resolved with
    | [] => if rooted then [] else [segment]
    | last :: before => if last = ['.', '.'] then segment :: resolved else before
  else segment :: resolved

/-- Resolves double dots as far as the text of the path allows. -/
def normalize (path : Path) : Path :=
  { path with segments := (path.segments.foldl (resolveSegment path.isAbsolute) []).reverse }

/-- The text before the last dot of a file name, where dots at the start of the name do not count. -/
def dropExtension (text : Text) : Text :=
  let ending := (text.reverse.takeWhile fun c => c ≠ '.' && c ≠ '/').reverse
  let before := text.take (text.length - ending.length)
  match before.reverse with
  | '.' :: stem =>
      if (stem.takeWhile (· ≠ '/')).all (· == '.') then text else stem.reverse
  | _ => text

end Path

end RouteAtlas
