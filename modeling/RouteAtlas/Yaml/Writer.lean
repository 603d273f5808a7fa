import RouteAtlas.Yaml.Scalar
import RouteAtlas.Yaml.Tree

/-!
# Writing block documents

A tree is written in block style with an indentation of two. A list that is the value of a simple key
stands at the indentation of the mapping; elsewhere it is indented. A key that is not simple is marked
by a question mark and its value by a colon on a line of its own. Empty collections are written in
flow style. A collection with a number has an anchor in front of it and starts on a line of its own.
-/

set_option autoImplicit false

namespace RouteAtlas.Yaml

/-- What a value follows on its line. -/
inductive Behind where
  /-- A simple key and its colon. -/
  | key
  /-- A dash, or the colon of a complex key: a collection starts on the same line. -/
  | mark
  deriving DecidableEq, Repr, Inhabited

/-- The text before an entry of a collection: nothing for the first one on a line already begun. -/
def entryStart (inline : Bool) (indent : Nat) : Text :=
  if inline then [] else newline indent

/-- The name of an anchor: its number with three digits at least. -/
def anchorLabel (number : Nat) : Text :=
  let digits := (toString number).toList
  "id".toList ++ List.replicate (3 - digits.length) '0' ++ digits

/-- The anchor in front of a collection with a number. -/
def anchorText : Option Nat → Text
  | some number => " &".toList ++ anchorLabel number
  | none => []

mutual

/-- A value behind a key or a mark. `indent` is that of the collection around it and `column` that of
the line so far. -/
def writeValue (behind : Behind) (indent column : Nat) : Tree → Text
  | .null => " null".toList
  | .bool value => if value then " true".toList else " false".toList
  | .num value => ' ' :: writeNumber value
  | .str value => ' ' :: writeString true (indent + 2) (column + 1) value.toList
  | .again number => " *".toList ++ anchorLabel number
  | .list number [] => anchorText number ++ " []".toList
  | .mapping number [] => anchorText number ++ " \x7b\x7d".toList
  | .list number (item :: rest) =>
      anchorText number ++
        match behind, number with
        | .key, _ => writeItems false indent (item :: rest)
        | .mark, none => ' ' :: writeItems true (indent + 2) (item :: rest)
        | .mark, some _ => writeItems false (indent + 2) (item :: rest)
  | .mapping number (entry :: rest) =>
      anchorText number ++
        match behind, number with
        | .mark, none => ' ' :: writeEntries true (indent + 2) (entry :: rest)
        | _, _ => writeEntries false (indent + 2) (entry :: rest)

/-- The items of a list, each behind a dash. -/
def writeItems (inline : Bool) (indent : Nat) : List Tree → Text
  | [] => []
  | item :: rest =>
      entryStart inline indent ++ '-' :: writeValue .mark indent (indent + 1) item
        ++ writeItems false indent rest

/-- The entries of a mapping. -/
def writeEntries (inline : Bool) (indent : Nat) : List (String × Tree) → Text
  | [] => []
  | (key, value) :: rest =>
      entryStart inline indent
        ++ (if isSimpleKey key.toList then
            let written := writeString false indent indent key.toList
            written ++ ':' :: writeValue .key indent (indent + written.length + 1) value
          else
            '?' :: ' ' :: writeString true (indent + 2) (indent + 2) key.toList
              ++ newline indent ++ ':' :: writeValue .mark indent (indent + 1) value)
        ++ writeEntries false indent rest

end

/-- The block document of a tree. -/
def blockDocument (tree : Tree) : String :=
  String.ofList (match tree with
    | .mapping none (entry :: rest) => writeEntries true 0 (entry :: rest) ++ ['\n']
    | .list none (item :: rest) => writeItems true 0 (item :: rest) ++ ['\n']
    | tree => (writeValue .mark 0 0 tree).drop 1 ++ ['\n'])

end RouteAtlas.Yaml
