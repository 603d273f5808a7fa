import RouteAtlas.Middleware.Composite
import RouteAtlas.Middleware.Responses
import RouteAtlas.Router.Locator

/-!
# From a middleware chain to an endpoint record

A chain is expanded and every expression is given a kind. The first expression that is no validator
and no custom middleware, or that mentions a handler wrapper, and that is not denied, is the operation
handler. Then the chain is walked once: validators and custom middlewares fill the request slots,
response validators and a wrapping handler declare responses, and the handler gives the summary.
-/

set_option autoImplicit false

namespace RouteAtlas.Middleware

open Text Source Api Schema Router

/-- What the builder of records is told about middlewares. -/
structure Setup where
  customs : List Custom := []
  denied : List String := []
  deriving DecidableEq, Repr, Inhabited

/-- An expression mentions a denied name. -/
def Setup.denies (setup : Setup) (expression : Text) : Bool :=
  setup.denied.any fun name => mentions expression name.toList

/-- Gives every expression its kind; `found` tells whether the handler has been chosen already. -/
def classifyFrom (setup : Setup) : Bool → List Expression → List Expression
  | _, [] => []
  | found, expression :: rest =>
      match kindOf setup.customs expression.text with
      | .handler | .unclassified =>
          if found || setup.denies expression.text then
            { expression with kind := .unclassified } :: classifyFrom setup found rest
          else { expression with kind := .handler } :: classifyFrom setup true rest
      | kind => { expression with kind := kind } :: classifyFrom setup found rest

/-- The expanded chain with its kinds. -/
def classify (setup : Setup) (chain : List Expression) : Except Fault (List Expression) :=
  (expand chain).map (classifyFrom setup false)

/-- The schema reference an expression names, seen from a router. -/
def referenceOf? (declaration : Declaration) (expression : Text) : Option Reference :=
  let segments := dottedName expression
  match segments.reverse with
  | [] => none
  | [name] =>
      (declaration.imports.get? name).map fun file =>
        { module := String.ofList (file.name.takeWhile (· ≠ '.'))
          exportName := String.ofList name
          file := some file }
  | exported :: module :: before =>
      let file := match declaration.imports.get? module with
        | some file => some file
        | none => if before.isEmpty then declaration.schemaFile else none
      some { module := String.ofList module, exportName := String.ofList exported, file := file }

/-- The words of a name, each with a capital letter, joined. -/
def camelCase (name : Text) : Text :=
  let word := fun (text : Text) =>
    match text with
    | [] => []
    | c :: rest => c.toUpper :: rest
  (partsBy ' ' (name.map fun c => if c.isAlphanum then c else ' ')).flatMap word

/-- The schema of the fields a custom middleware demands in a slot, made once for its name. -/
def synthesizedFor (custom : Custom) (slot : Slot) : Run Model := do
  match (← get).synthesized.get? (custom.name, slot) with
  | some model => pure model
  | none => do
      let serial ← Run.freshSerial
      let name := String.ofList (camelCase custom.name.toList) ++ slot.capitalName
      let model ← Run.ofBuilding (synthesize serial name (custom.fields slot))
      modify fun session =>
        { session with synthesized := session.synthesized.put (custom.name, slot) model }
      pure model

/-- What a chain has contributed so far. -/
structure Draft where
  request : Request := {}
  responses : Table String Response := []
  security : List String := []
  summary : String := ""
  deriving Inhabited

/-- Puts a schema in a slot of the request. -/
def Draft.assign (draft : Draft) (slot : Slot) (model : Model) : Run Draft := do
  let serial ← Run.freshSerial
  let request ← Run.ofBuilding (draft.request.assign serial slot model)
  pure { draft with request := request }

/-- Applies the validator of a slot. -/
def fillFromValidator (provider : Provider) (declaration : Declaration) (slot : Slot)
    (expression : Text) (draft : Draft) : Run Draft := do
  let callee := ((validatorNames slot).find? (mentions expression)).getD []
  match ← Run.ofSource (argumentsOfCall expression callee) with
  | some (first :: rest) =>
      match referenceOf? declaration first with
      | none => do
          Run.report (.noReference expression declaration.name)
          pure draft
      | some reference => do
          let model ← Run.resolve provider reference
          let draft ← draft.assign slot model
          match slot, rest.head?.bind unquote? with
          | .body, some (c :: body) =>
              pure { draft with request :=
                { draft.request with contentType := String.ofList (c :: body) } }
          | _, _ => pure draft
  | _ => do
      Run.report (.bareValidator callee declaration.name)
      pure draft

/-- Assigns the schemas synthesized from the fields a custom middleware demands. -/
def fillFromFields (custom : Custom) : List Slot → Draft → Run Draft
  | [], draft => pure draft
  | slot :: rest, draft => do
      if (custom.fields slot).isEmpty then fillFromFields custom rest draft
      else
        let model ← synthesizedFor custom slot
        let draft ← draft.assign slot model
        fillFromFields custom rest draft

/-- Assigns the schema passed to a custom middleware. -/
def fillFromArgument (provider : Provider) (declaration : Declaration) (custom : Custom)
    (expression : Text) (draft : Draft) : Run Draft := do
  match custom.schemaSlot with
  | none => pure draft
  | some slotName =>
      if slotName.isEmpty then pure draft
      else do
        let given ← Run.ofSource (argumentsOfCall expression custom.name.toList)
        match (given.getD []).head?.bind (referenceOf? declaration) with
        | none => pure draft
        | some reference => do
            let model ← Run.resolve provider reference
            match Slot.ofName? slotName with
            | none => throw (.unknownSlot slotName)
            | some slot => draft.assign slot model

/-- Adds a required security scheme, once. -/
def Draft.require (draft : Draft) (security : Option String) : Draft :=
  match security with
  | none => draft
  | some name =>
      if name.isEmpty || draft.security.contains name then draft
      else { draft with security := draft.security ++ [name] }

/-- Requiring a security scheme leaves the request alone. -/
theorem Draft.request_require (draft : Draft) (security : Option String) :
    (draft.require security).request = draft.request := by
  cases security with
  | none => rfl
  | some name =>
      rw [require]
      split
      · rfl
      · rfl

/-- Requiring a security scheme leaves the responses alone. -/
theorem Draft.responses_require (draft : Draft) (security : Option String) :
    (draft.require security).responses = draft.responses := by
  cases security with
  | none => rfl
  | some name =>
      rw [require]
      split
      · rfl
      · rfl

/-- Applies every custom middleware that an expression mentions. -/
def fillFromCustoms (provider : Provider) (declaration : Declaration) (expression : Text) :
    List Custom → Draft → Run Draft
  | [], draft => pure draft
  | custom :: rest, draft => do
      if mentions expression custom.name.toList then
        let draft ← fillFromFields custom Slot.all draft
        let draft ← fillFromArgument provider declaration custom expression draft
        fillFromCustoms provider declaration expression rest (draft.require custom.security)
      else fillFromCustoms provider declaration expression rest draft

/-- Enters declared responses; a status declared again takes the last declaration. -/
def declareResponses (provider : Provider) (declaration : Declaration) :
    List ResponseEntry → Draft → Run Draft
  | [], draft => pure draft
  | entry :: rest, draft => do
      let description := match entry.description with
        | some (c :: text) => String.ofList (c :: text)
        | _ => phraseFor entry.status entry.schema
      let body ← match referenceOf? declaration entry.schema with
        | some reference => do
            let model ← Run.resolve provider reference
            pure (some model)
        | none => pure none
      let response : Response := { description := description, body := body }
      declareResponses provider declaration rest
        { draft with responses := draft.responses.put (String.ofList entry.status) response }

/-- The name of the operation a handler expression stands for. -/
def operationName (expression : Text) : List Text → Except Fault Text
  | [] => .ok (trim expression)
  | wrapper :: rest => do
      if mentions expression wrapper then
        let given ← argumentsOfCall expression wrapper
        match ((given.getD []).head?.map dottedName).bind List.getLast? with
        | some name => pure name
        | none => operationName expression rest
      else operationName expression rest

/-- Applies one expression of a chain. -/
def absorb (setup : Setup) (provider : Provider) (declaration : Declaration)
    (expression : Expression) (draft : Draft) : Run Draft := do
  match expression.kind with
  | .validator slot => fillFromValidator provider declaration slot expression.text draft
  | .custom => fillFromCustoms provider declaration expression.text setup.customs draft
  | .response => do
      let entries ← Run.ofSource (declaredResponses expression.text)
      declareResponses provider declaration entries draft
  | .handler => do
      let draft ←
        if mentionsWrapper expression.text then do
          let entries ← Run.ofSource (declaredResponses expression.text)
          declareResponses provider declaration entries draft
        else pure draft
      let name ← Run.ofSource (operationName expression.text wrapperNames)
      pure { draft with summary := String.ofList name }
  | .unclassified => pure draft

/-- Applies a whole chain. -/
def absorbAll (setup : Setup) (provider : Provider) (declaration : Declaration) :
    List Expression → Draft → Run Draft
  | [], draft => pure draft
  | expression :: rest, draft => do
      let draft ← absorb setup provider declaration expression draft
      absorbAll setup provider declaration rest draft

/-- The endpoint to be documented. -/
structure Subject where
  method : String
  path : String
  tag : String
  note : Option String
  deriving DecidableEq, Repr, Inhabited

/-- The record of an endpoint and its middleware chain. -/
def build (setup : Setup) (provider : Provider) (declaration : Declaration) (subject : Subject)
    (chain : List Expression) : Run Record := do
  let classified ← Run.ofSource (classify setup chain)
  let draft ← absorbAll setup provider declaration classified {}
  pure
    { method := subject.method
      path := subject.path
      summary := match subject.note with
        | some note => if note.isEmpty then draft.summary else note
        | none => draft.summary
      description := subject.note
      tag := subject.tag
      request := draft.request
      responses := draft.responses
      security := draft.security }

end RouteAtlas.Middleware
