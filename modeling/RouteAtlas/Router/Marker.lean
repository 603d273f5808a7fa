import RouteAtlas.Text.Blank
import RouteAtlas.Text.Word

/-!
# Router definitions

A router is defined by a marker: a variable, optionally exported and annotated, that is set to a new
router. Markers are found from left to right without overlap. The span of a definition runs from its
marker to the next one or to the end of the text.
-/

set_option autoImplicit false

namespace RouteAtlas.Router

open Text

/-- A router definition: the variable, and where its marker stands. -/
structure Marker where
  name : Text
  start : Nat
  stop : Nat
  deriving DecidableEq, Repr, Inhabited

/-- Drops the export keyword and the blanks behind it, when both are there. -/
def dropExport (text : Text) : Text :=
  ((dropStart? "export".toList text).bind skipBlanks1?).getD text

/-- Drops a router annotation at the head of a text. -/
def dropTypeMark (text : Text) : Text :=
  match text with
  | ':' :: rest => ((dropStart? "Router".toList (trimLeft rest)).map trimLeft).getD text
  | _ => text

/-- The variable defined by the marker at the head of a text, and the text behind the marker. -/
def marker? (text : Text) : Option (Text × Text) := do
  let rest ← ["const".toList, "let".toList, "var".toList].findSome? fun keyword =>
    dropStart? keyword (dropExport text)
  let rest ← skipBlanks1? rest
  let (name, rest) ← identifier? rest
  let rest ← dropStart? ['='] (dropTypeMark (trimLeft rest))
  let rest ← dropStart? "new".toList (trimLeft rest)
  let rest ← skipBlanks1? rest
  let rest ← dropStart? "Router".toList rest
  let rest ← dropStart? ['('] (trimLeft rest)
  pure (name, rest)

/-- The markers of a text from an offset on, passing over the first `skip` characters. -/
def markersFrom : Nat → Nat → Text → List Marker
  | _, _, [] => []
  | skip + 1, offset, _ :: rest => markersFrom skip (offset + 1) rest
  | 0, offset, c :: rest =>
      match marker? (c :: rest) with
      | some (name, behind) =>
          let length := rest.length + 1 - behind.length
          { name := name, start := offset, stop := offset + length }
            :: markersFrom (length - 1) (offset + 1) rest
      | none => markersFrom 0 (offset + 1) rest

/-- The markers of a text, in order. -/
def markers (code : Text) : List Marker := markersFrom 0 0 code

/-- The first definition of a router. -/
def definition? (code name : Text) : Option Marker :=
  (markers code).find? fun marker => marker.name == name

/-- The span of a definition: up to the next marker behind it, or to the end. -/
def spanOf (code : Text) (marker : Marker) : Text :=
  match markersFrom 0 marker.stop (code.drop marker.stop) with
  | following :: _ => (code.take following.start).drop marker.start
  | [] => code.drop marker.start

/-- The variable of the first default export. -/
def exportedName? : Text → Option Text
  | [] => none
  | c :: rest =>
      let here := do
        let rest ← dropStart? "export".toList (c :: rest)
        let rest ← skipBlanks1? rest
        let rest ← dropStart? "default".toList rest
        let rest ← skipBlanks1? rest
        let (name, _) ← identifier? rest
        pure name
      match here with
      | some name => some name
      | none => exportedName? rest

end RouteAtlas.Router
