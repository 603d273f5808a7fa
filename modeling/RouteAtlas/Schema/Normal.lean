import RouteAtlas.Schema.Model

/-!
# Normal forms of field types

Types that are written differently can mean the same. In the normal form of a type unions and optional
types are opened, so that no member of a union is a union; a member that occurs again is dropped, and a
union of one member is that member. The values of a choice occur once. Two types in normal form are the
same up to the order of members and values; models are told apart by their identity.
-/

set_option autoImplicit false

namespace RouteAtlas.Schema

/-- The schema type of a value, where it has one. -/
def literalType? : Json → Option String
  | .null => some "null"
  | .str _ => some "string"
  | .bool _ => some "boolean"
  | .num (.int _) => some "integer"
  | .num (.float _) => some "number"
  | .arr _ => some "array"
  | _ => none

/-- Two values are equal and of one kind. -/
def sameValue (a b : Json) : Bool := literalType? a == literalType? b && a.alike b

/-- The values without those that were there before. Where one of them is a list or an object, all
stay. -/
def distinctValues (values : List Json) : List Json :=
  if values.any isCollection then values
  else
    values.foldl (fun kept value => if kept.any (sameValue value) then kept else kept ++ [value]) []
where
  /-- A list or an object. -/
  isCollection : Json → Bool
    | .arr _ => true
    | .obj _ => true
    | _ => false

mutual

/-- Two types in normal form mean the same. -/
def FieldType.same : FieldType → FieldType → Bool
  | .text, .text => true
  | .integer, .integer => true
  | .number, .number => true
  | .boolean, .boolean => true
  | .bytes, .bytes => true
  | .anything, .anything => true
  | .nothing, .nothing => true
  | .list a, .list b => a.same b
  | .mapping a, .mapping b => a.same b
  | .optional a, .optional b => a.same b
  | .union a, .union b => a.length == b.length && allAmong a b
  | .literal a, .literal b =>
      a.length == b.length && a.all fun value => b.any (sameValue value)
  | .model a, .model b => a.identity = b.identity
  | _, _ => false

/-- Every type of the first list occurs in the second. -/
def allAmong : List FieldType → List FieldType → Bool
  | [], _ => true
  | type :: rest, others => (others.any fun other => type.same other) && allAmong rest others

end

/-- The members of a union, and any other type by itself. -/
def FieldType.members : FieldType → List FieldType
  | .union options => options
  | type => [type]

/-- The union of types in normal form. -/
def unionOf (types : List FieldType) : FieldType :=
  let distinct := types.foldl (fun kept type =>
    if kept.any type.same then kept else kept ++ [type]) []
  match distinct with
  | [type] => type
  | types => .union types

mutual

/-- The normal form of a type. -/
def FieldType.normal : FieldType → FieldType
  | .list item => .list item.normal
  | .mapping value => .mapping value.normal
  | .optional inner => unionOf (inner.normal.members ++ [.nothing])
  | .union options => unionOf (normalMembers options)
  | .literal values => .literal (distinctValues values)
  | type => type

/-- The members of the normal forms of types. -/
def normalMembers : List FieldType → List FieldType
  | [] => []
  | option :: rest => option.normal.members ++ normalMembers rest

end

/-- The type of null alone. -/
def FieldType.isNothing : FieldType → Bool
  | .nothing => true
  | _ => false

/-- A type in normal form that is a union with null. -/
def FieldType.isNullable : FieldType → Bool
  | .union options => options.any FieldType.isNothing
  | _ => false

/-- A type in normal form without null. -/
def FieldType.withoutNull : FieldType → FieldType
  | .union options =>
      match options.filter fun option => !option.isNothing with
      | [option] => option
      | options => .union options
  | type => type

end RouteAtlas.Schema
