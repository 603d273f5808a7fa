import RouteAtlas.Schema.Building
import RouteAtlas.Text.Word

/-!
# Composed schemas

Two schemas are merged by the union of their fields, in which the later schema wins a shared field
while the field keeps its place; a schema merged with itself stays as it is. A schema can also be made
from a list of names, as required text fields with an example. A composed schema is a model of its
own, told apart by a serial number, and has to be one that can be built.
-/

set_option autoImplicit false

namespace RouteAtlas.Schema

open Text

/-- The union of two schemas under a new identity, or the schema itself when both are the same. -/
def Model.merge (serial : Nat) (first second : Model) : Except BuildFault Model :=
  if second.identity = first.identity then .ok first
  else
    let name := if first.name = second.name then first.name else first.name ++ second.name
    (Model.record (.built serial) name none .ignore
      (putFields (putFields [] first.fields) second.fields)).checked

/-- The example shown for fields made from names. -/
def sampleText : String := "string"

/-- The member name made from a field name: word characters, starting with a letter. -/
def memberOf (name : String) : String :=
  let member := (pointChars name.toList).map fun c => if isWord c then c else '_'
  match member with
  | c :: _ => if isLetter c then String.ofList member else "f_" ++ String.ofList member
  | [] => "f_"

/-- A required text field made from a name. -/
def namedField (name : String) : Field :=
  .mk (memberOf name) .text { publicName := some name, shownExample := some sampleText }

/-- A schema of required text fields. -/
def synthesize (serial : Nat) (name : String) (fieldNames : List String) :
    Except BuildFault Model :=
  (Model.record (.built serial) name none .ignore (putFields [] (fieldNames.map namedField))).checked

end RouteAtlas.Schema
