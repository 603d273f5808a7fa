import RouteAtlas.Source.Arguments
import RouteAtlas.Table

/-!
# Literals

The body of a quoted token, and the entries of an object literal as raw text. A token counts as
quoted when its trimmed text has at least two characters and begins and ends with the same quote. An
object literal maps each key to the text behind its first colon; an entry without a colon stands for
its own key.
-/

set_option autoImplicit false

namespace RouteAtlas.Source

open Text

/-- The body of a quoted token. -/
def unquote? (token : Text) : Option Text :=
  match trim token with
  | first :: second :: rest =>
      if isQuote first && (second :: rest).getLast? == some first then
        some (second :: rest).dropLast
      else none
  | _ => none

/-- The body of a quoted token unless it is empty, and the given text otherwise. -/
def unquoteOr (token fallback : Text) : Text :=
  match unquote? token with
  | some (c :: body) => c :: body
  | _ => fallback

/-- The key and the value of one entry. -/
def objectEntry (part : Text) : Text × Text :=
  match cut? [':'] part with
  | some (before, behind) => (unquoteOr before (trim before), trim behind)
  | none =>
      let key := unquoteOr part (trim part)
      (key, key)

/-- The entries of an object literal, in order of first mention. -/
def objectLiteral (text : Text) : Except Fault (Table Text Text) :=
  let text := trim text
  if startsWith text ['\x7b'] && endsWith text ['\x7d'] then
    (arguments (text.drop 1).dropLast).map fun parts => Table.ofList (parts.map objectEntry)
  else .error (.notObject text)

end RouteAtlas.Source
