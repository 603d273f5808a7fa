import RouteAtlas.Schema.Building

/-!
# Validating data against a model

An object is read by a model of text and integer fields. Every field is looked up under its public
name; a missing field takes its default or is reported, and a value of the wrong kind or outside the
constraints of its field is reported. Numeric text is read as an integer, also with zeros behind a
point. Keys that the model does not declare are ignored, kept or reported, as the model says.
-/

set_option autoImplicit false

namespace RouteAtlas.Schema

open Text

/-- What can be wrong with a value. -/
inductive Issue where
  | missing
  | notText
  | tooShort
  | tooLong
  | mismatch
  | notInteger
  | notNumeric
  | fractional
  | notFinite
  | oversized
  | notBelowOrAt
  | notBelow
  | notAboveOrAt
  | notAbove
  | notObject
  | undeclared
  deriving DecidableEq, Repr, Inhabited

/-- An issue and the key it was found under, if any. -/
structure Finding where
  key : Option String
  issue : Issue
  deriving DecidableEq, Repr, Inhabited

/-! ## Integers -/

/-- A text behind its first zero without the zeros that lead, and the underscores among them: from the
first other digit or the sign on, from the character before a point on, or else its last character. -/
def dropLeadingZeros? : Char → Text → Option Text
  | last, [] => some [last]
  | last, c :: rest =>
      if c = '.' then some (last :: c :: rest)
      else if c = '0' || c = '_' then dropLeadingZeros? c rest
      else if c.isDigit || c = '-' then some (c :: rest)
      else none

/-- A text without the zeros that lead it. A sign keeps the zeros behind it. -/
def withoutLeadingZeros? : Text → Option Text
  | [] => none
  | c :: rest =>
      if c = '0' then dropLeadingZeros? c rest
      else if c.isDigit || c = '-' then some (c :: rest)
      else none

/-- A text without a plus sign at its start, behind which no other sign may stand. -/
def dropPlus? : Text → Option Text
  | '+' :: '-' :: _ => none
  | '+' :: rest => some rest
  | text => some text

/-- A text without a point and the zeros behind it, of which there is one at least. -/
def dropZeroFraction (text : Text) : Text :=
  match cut? ['.'] text with
  | some (before, behind) =>
      if !behind.isEmpty && behind.all (· == '0') then before else text
  | none => text

/-- ASCII digits without the single underscores that stand in front of them; `mayJoin` tells whether an
underscore may come next. -/
def plainDigits? : Bool → Text → Option Text
  | mayJoin, [] => if mayJoin then some [] else none
  | mayJoin, c :: rest =>
      if c = '_' then
        if mayJoin then plainDigits? false rest else none
      else if c.isDigit then (plainDigits? true rest).map (c :: ·)
      else none

/-- Whether an integer is negative, and its digits, of which there is one at least. Underscores stand
behind a digit or the sign. -/
def signedDigits? (text : Text) : Option (Bool × Text) := do
  let (isNegative, written) := match text with
    | '-' :: rest => (true, rest)
    | rest => (false, rest)
  let digits ← plainDigits? isNegative written
  if digits.isEmpty then none else some (isNegative, digits)

/-- The integer that a text is read as. -/
def integerOfText (text : Text) : Except Issue Int :=
  let read := do
    let text ← withoutLeadingZeros? (← dropPlus? (trimWhile isSpace text))
    signedDigits? (dropZeroFraction text)
  match read with
  | none => .error .notNumeric
  | some (isNegative, digits) =>
      let significant := digits.dropWhile (· == '0')
      if significant.length > maxIntegerDigits then .error .oversized
      else
        let value := ofDigitValues (significant.filterMap decimalValue?)
        .ok (if isNegative then -(value : Int) else value)

/-- The bound that floating-point numbers read as integers stay below. -/
def integerBound : Nat := twoTo 63

/-- The integer that a floating-point number is read as. -/
def integerOfFloat : Binary64 → Except Issue Int
  | .finite negative significand exponent =>
      let signed := Binary64.signed negative significand
      let scale := Int.ofNat (twoTo exponent.natAbs)
      if exponent < 0 && signed % scale ≠ 0 then .error .fractional
      else
        let value := if exponent < 0 then signed / scale else signed * scale
        if value.natAbs < integerBound then .ok value else .error .oversized
  | _ => .error .notFinite

/-- The integer that a value is read as. -/
def integerValue : Json → Except Issue Int
  | .num (.int value) => .ok value
  | .bool value => .ok (if value then 1 else 0)
  | .num (.float value) => integerOfFloat value
  | .str text => integerOfText text.toList
  | _ => .error .notInteger

/-! ## Constraints -/

/-- One number is less than another. An undefined number is neither less nor greater. -/
def isLess : Number → Number → Bool
  | .int a, .int b => a < b
  | .int a, .float (.finite s m e) => isLessScaled a 0 (Binary64.signed s m) e
  | .float (.finite s m e), .int b => isLessScaled (Binary64.signed s m) e b 0
  | .float (.finite s m e), .float (.finite t n f) =>
      isLessScaled (Binary64.signed s m) e (Binary64.signed t n) f
  | .float .undefined, _ => false
  | _, .float .undefined => false
  | .float (.infinite negative), .float (.infinite other) => negative && !other
  | .float (.infinite negative), _ => negative
  | _, .float (.infinite negative) => !negative
where
  /-- `a · 2 ^ p` is less than `b · 2 ^ q`. -/
  isLessScaled (a p b q : Int) : Bool :=
    let least := min p q
    a * Int.ofNat (twoTo (p - least).natAbs) < b * Int.ofNat (twoTo (q - least).natAbs)

/-- Fails with an issue unless a condition on a set bound holds. -/
def demandBound {α : Type} (bound : Option α) (issue : Issue) (holds : α → Bool) :
    Except Issue Unit :=
  match bound with
  | some bound => if holds bound then .ok () else .error issue
  | none => .ok ()

/-- An integer is within the bounds of its field. -/
def Constraints.checkInteger (constraints : Constraints) (value : Int) : Except Issue Unit := do
  let value : Number := .int value
  demandBound constraints.maximum .notBelowOrAt fun bound => !isLess bound value
  demandBound constraints.exclusiveMaximum .notBelow fun bound => isLess value bound
  demandBound constraints.minimum .notAboveOrAt fun bound => !isLess value bound
  demandBound constraints.exclusiveMinimum .notAbove fun bound => isLess bound value

/-- A text has the length and the form that its field demands. -/
def Constraints.checkText (constraints : Constraints) (text : Text) : Except Issue Unit := do
  let length : Number := .int text.length
  demandBound constraints.minLength .tooShort fun bound => !isLess length bound
  demandBound constraints.maxLength .tooLong fun bound => !isLess bound length
  demandBound (constraints.pattern.bind fun pattern => pattern? pattern.toList) .mismatch
    fun pattern => pattern.occursIn text

/-! ## Models -/

/-- Why data is refused. -/
inductive Rejection where
  | findings (findings : List Finding)
  /-- A constraint does not apply to the values of its field: texts have no bounds, and integers have
  neither length nor form. Nor can a value be what is done with the data once it is read. -/
  | unfit
  /-- A given schema reads no data. -/
  | notRecord
  deriving DecidableEq, Repr, Inhabited

/-- The text that a text field reads. -/
def Constraints.readText (constraints : Constraints) (text : String) :
    Except Rejection (Except Issue Json) :=
  if constraints.hasBound then .error .unfit
  else .ok ((constraints.checkText text.toList).map fun _ => .str text)

/-- The integer that an integer field reads. -/
def Constraints.readInteger (constraints : Constraints) (value : Json) :
    Except Rejection (Except Issue Json) :=
  match integerValue value with
  | .error issue => .ok (.error issue)
  | .ok number =>
      match constraints.checkInteger number with
      | .error issue => .ok (.error issue)
      | .ok _ =>
          if constraints.hasLength || constraints.pattern.isSome then .error .unfit
          else .ok (.ok (.ofInt number))

/-- The value that a field reads. -/
def Field.value (field : Field) (value : Json) : Except Rejection (Except Issue Json) :=
  let type := field.type.normal
  if type.isNullable && isNull value then .ok (.ok .null)
  else
    match type.withoutNull, value with
    | .text, .str text => field.settings.constraints.readText text
    | .text, _ => .ok (.error .notText)
    | .integer, value => field.settings.constraints.readInteger value
    | _, value => .ok (.ok value)
where
  /-- The value is null. -/
  isNull : Json → Bool
    | .null => true
    | _ => false

/-- What a field makes of the data: an entry or a finding. -/
def Field.read (field : Field) (data : Table String Json) :
    Except Rejection (Except Finding (String × Json)) :=
  match data.get? field.key with
  | some value => do
      match ← field.value value with
      | .ok value => pure (.ok (field.member, value))
      | .error issue => pure (.error { key := some field.key, issue := issue })
  | none =>
      match field.settings.fallback with
      | some value => .ok (.ok (field.member, value))
      | none => .ok (.error { key := some field.key, issue := .missing })

/-- What a model does with keys that it does not declare. -/
def Model.extra : Model → Extra
  | .record _ _ _ extra _ => extra
  | .given _ _ _ => .ignore

/-- The entries under keys that a model does not declare. -/
def Model.undeclared (model : Model) (data : Table String Json) : Table String Json :=
  data.filter fun entry => !model.fields.any fun field => field.key == entry.1

/-- The findings about keys that a model does not declare. -/
def Model.refused (model : Model) (data : Table String Json) : List Finding :=
  match model.extra with
  | .forbid => (model.undeclared data).map fun (key, _) => { key := some key, issue := .undeclared }
  | _ => []

/-- The entries that a model keeps without declaring them. -/
def Model.kept (model : Model) (data : Table String Json) : Table String Json :=
  match model.extra with
  | .allow => model.undeclared data
  | _ => []

/-- The data of an object by member name, or every finding in field order. -/
def Model.readObject (model : Model) (data : Table String Json) :
    Except Rejection (Table String Json) := do
  let outcomes ← model.fields.mapM fun field => field.read data
  let findings := outcomes.filterMap fun
    | .error finding => some finding
    | .ok _ => none
  match findings ++ model.refused data with
  | [] =>
      if model.members.contains completionMember then throw .unfit
      pure (Table.putAll (outcomes.filterMap fun
        | .ok entry => some entry
        | .error _ => none) (model.kept data))
  | findings => throw (.findings findings)

/-- The data of a model by member name. -/
def Model.validate (model : Model) (data : Json) : Except Rejection (Table String Json) :=
  match model, data with
  | .given _ _ _, _ => .error .notRecord
  | model, .obj entries => model.readObject entries
  | _, _ => .error (.findings [{ key := none, issue := .notObject }])

end RouteAtlas.Schema
