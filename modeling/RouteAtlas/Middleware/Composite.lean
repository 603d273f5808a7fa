import RouteAtlas.Middleware.Vocabulary
import RouteAtlas.Source.Literal

/-!
# Composite validators

A composite validator bundles several middlewares in one object literal. It is replaced by the single
expressions it stands for, in the order of its entries; any other expression stays.
-/

set_option autoImplicit false

namespace RouteAtlas.Middleware

open Source

/-- The name of the composite validator. -/
def bundleName : Text := "validator".toList

/-- The validator that a key of the composite stands for. -/
def bundledValidators : Table Text Text :=
  [("body".toList, "validateBody".toList),
   ("param".toList, "validateParam".toList),
   ("query".toList, "validateQuery".toList),
   ("header".toList, "validateHeader".toList),
   ("path".toList, "validatePath".toList),
   ("response".toList, "validateResponse".toList)]

/-- A call of a name with one argument. -/
def callOf (callee argument : Text) : Text := callee ++ '(' :: (argument ++ [')'])

/-- The handler of a composite is to be wrapped. -/
def wrapsHandler (entries : Table Text Text) : Bool :=
  match entries.get? "useWrappedUsecase".toList with
  | some value => Text.trim value == "true".toList
  | none => false

/-- The expression an entry of a composite stands for, if any. -/
def entryExpression? (entries : Table Text Text) (key value : Text) : Option Text :=
  match bundledValidators.get? key with
  | some callee => some (callOf callee value)
  | none =>
      if key = "usecase".toList then
        some (if wrapsHandler entries then callOf "usecaseWrapper".toList value else value)
      else none

/-- The object literal given to the composite validator in an expression. -/
def compositeArgument? (expression : Text) : Except Fault (Option Text) := do
  if mentions expression bundleName then
    match ← argumentsOfCall expression bundleName with
    | some (first :: _) => pure (if Text.startsWith first ['\x7b'] then some first else none)
    | _ => pure none
  else pure none

/-- The single expressions an expression stands for. -/
def expandOne (expression : Text) : Except Fault (List Text) := do
  match ← compositeArgument? expression with
  | none => pure [expression]
  | some literal => do
      let entries ← objectLiteral literal
      pure (entries.filterMap fun (key, value) => entryExpression? entries key value)

/-- The texts of a chain with every composite validator written out. -/
def expandTexts : List Text → Except Fault (List Text)
  | [] => pure []
  | expression :: rest => do
      let first ← expandOne expression
      let others ← expandTexts rest
      pure (first ++ others)

/-- A middleware chain with every composite validator written out, numbered anew. The positions given
are not read. -/
def expand (chain : List Expression) : Except Fault (List Expression) :=
  (expandTexts (chain.map Expression.text)).map chainOf

end RouteAtlas.Middleware
