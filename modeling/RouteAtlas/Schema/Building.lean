import RouteAtlas.Schema.Normal
import RouteAtlas.Text.Pattern.Reading
import RouteAtlas.Text.Quoted

/-!
# Which models can be built

A description can ask for a model that cannot exist. Some member names belong to models themselves: the
one of their settings, those of the operations on data, and all names that start with an underscore. The
name of a model must not contain a null character. The constraints of a field have to be usable on its
type: integers are bounded by integers, lengths are natural numbers of 64 bits, and the pattern of a
text has to be one. Where bounds stand on a field whose values have no order, all its constraints are
left to the values.

The first fault in this order counts.
-/

set_option autoImplicit false

namespace RouteAtlas.Schema

open Text

/-- Why a model cannot be built. -/
inductive BuildFault where
  /-- A member takes the name of the settings. -/
  | settingsMember
  /-- The name of a member starts with an underscore. -/
  | hiddenMember (member : String)
  /-- The name of the model contains a null character. -/
  | nullCharacter
  /-- A member takes the name of an operation on data. -/
  | operationMember (member : String)
  /-- A field has a constraint that cannot be used on its type, or a name that cannot be looked up. -/
  | unusableField
  deriving DecidableEq, Repr, Inhabited

/-! ## Names -/

/-- The member name of the settings of a model. -/
def settingsMember : String := "model_config"

/-- The member name of what is done with data once it is read. -/
def completionMember : String := "model_post_init"

/-- The operations that read data, and the name they share. -/
def readingOperations : String × List String :=
  ("model_validate", ["model_validate", "model_validate_json", "model_validate_strings"])

/-- The operations that write data, and the name they share. -/
def writingOperations : String × List String := ("model_dump", ["model_dump", "model_dump_json"])

/-- A member name is that of an operation on data. -/
def isOperation (member : String) : Bool :=
  readingOperations.2.contains member || writingOperations.2.contains member

/-- A member name starts with an underscore. -/
def isHidden (member : String) : Bool := startsWith member.toList ['_']

/-- The operation behind a name, as messages show it, and the name that it shares with others. -/
def shownOperation (member : String) : String × String :=
  if readingOperations.2.contains member then
    ("<bound method BaseModel." ++ member ++ " of <class 'pydantic.main.BaseModel'>>",
      readingOperations.1)
  else ("<function BaseModel." ++ member ++ ">", writingOperations.1)

/-- The wording of a fault. -/
def BuildFault.message : BuildFault → String
  | .settingsMember => "'FieldInfo' object is not iterable"
  | .hiddenMember member =>
      "Fields must not use names with leading underscores; e.g., use "
        ++ String.ofList (quoted (member.toList.dropWhile (· == '_'))) ++ " instead of "
        ++ String.ofList (quoted member.toList) ++ "."
  | .nullCharacter => "type name must not contain null characters"
  | .operationMember member =>
      let (operation, shared) := shownOperation member
      "Field " ++ String.ofList (quoted member.toList) ++ " conflicts with member " ++ operation
        ++ " of protected namespace '" ++ shared ++ "'."
  | .unusableField => "Error building \"model\" validator"

/-! ## Constraints -/

/-- The bounds of a field. -/
def Constraints.boundList (constraints : Constraints) : List Number :=
  constraints.minimum.toList ++ constraints.exclusiveMinimum.toList ++ constraints.maximum.toList
    ++ constraints.exclusiveMaximum.toList

/-- The lengths that a field demands. -/
def Constraints.lengthList (constraints : Constraints) : List Number :=
  constraints.minLength.toList ++ constraints.maxLength.toList

/-- A number is an integer, and not a floating-point number that equals one. -/
def isInteger : Number → Bool
  | .int _ => true
  | .float _ => false

/-- Integers from this one on are beyond all floating-point numbers. -/
def floatRange : Nat := twoTo 1024 - twoTo 970

/-- A number is within the range of floating-point numbers. -/
def isInFloatRange : Number → Bool
  | .int value => value.natAbs < floatRange
  | .float _ => true

/-- A number is a length: natural, and of 64 bits. -/
def isLength : Number → Bool
  | .int value => 0 ≤ value && value.natAbs < twoTo 64
  | .float _ => false

/-- The lengths of a field can be used. -/
def Constraints.hasUsableLengths (constraints : Constraints) : Bool :=
  constraints.hasBound || constraints.lengthList.all isLength

/-- The pattern of a field can be used. -/
def Constraints.hasUsablePattern (constraints : Constraints) : Bool :=
  constraints.hasBound || constraints.pattern.all fun pattern => (pattern? pattern.toList).isSome

/-- The constraints of a field can be used on its type, which is in normal form. -/
def Constraints.areUsable (constraints : Constraints) : FieldType → Bool
  | .integer => constraints.boundList.all isInteger
  | .number => constraints.boundList.all isInFloatRange
  | .text => constraints.hasUsableLengths && constraints.hasUsablePattern
  | .bytes => constraints.hasUsableLengths
  | .list _ => constraints.hasUsableLengths
  | .mapping _ => constraints.hasUsableLengths
  | _ => true

/-- A field can be built. Its public name has to be a text that keys can be compared with. -/
def Field.isUsable (field : Field) : Bool :=
  field.settings.constraints.areUsable field.type.normal.withoutNull
    && field.settings.publicName.all fun name => !hasSurrogate name.toList

/-! ## Models -/

/-- What keeps a model from being built. A given schema is taken as it is. -/
def Model.buildFault? : Model → Option BuildFault
  | .given _ _ _ => none
  | .record identity name doc extra fields =>
      let members := (Model.record identity name doc extra fields).members
      (if members.contains settingsMember then some .settingsMember else none)
        <|> (members.find? isHidden).map .hiddenMember
        <|> (if name.contains '\x00' then some .nullCharacter else none)
        <|> (members.find? isOperation).map .operationMember
        <|> (if fields.all Field.isUsable then none else some .unusableField)

/-- A model, if it can be built. -/
def Model.checked (model : Model) : Except BuildFault Model :=
  match model.buildFault? with
  | some fault => .error fault
  | none => .ok model

end RouteAtlas.Schema
