import RouteAtlas.Schema.Render
import RouteAtlas.Schema.Template

/-!
# References by a template

The references of a schema can be written by a template. The template is first filled with the full
names of the models, each with a number that tells models of one name apart. Models are entered after
the models that they are made of, and where the template writes one reference for several models, the
reference leads to the one that was entered last. In the schema itself a reference is written with the
short name of the model that it leads to. The models that references lead to are the definitions, and
where the model of the schema is among them, the schema refers to it like any other.
-/

set_option autoImplicit false

namespace RouteAtlas.Schema

/-! ## The models of a schema -/

mutual

/-- The models of a field type, each behind those that it is made of. -/
def FieldType.entered : FieldType → List Model
  | .list item => item.entered
  | .mapping value => value.entered
  | .optional inner => inner.entered
  | .union options => enteredOptions options
  | .model model => model.entered
  | _ => []

/-- The models of the options of a union, each behind those that it is made of. -/
def enteredOptions : List FieldType → List Model
  | [] => []
  | option :: rest => option.entered ++ enteredOptions rest

/-- A model behind the models that it is made of. -/
def Model.entered : Model → List Model
  | .record identity name doc extra fields =>
      enteredFields fields ++ [.record identity name doc extra fields]
  | .given identity name schema => [.given identity name schema]

/-- The models of fields, each behind those that it is made of. -/
def enteredFields : List Field → List Model
  | [] => []
  | .mk _ type _ :: rest => type.entered ++ enteredFields rest

end

mutual

/-- The models that a field type names itself. -/
def FieldType.named : FieldType → List Model
  | .list item => item.named
  | .mapping value => value.named
  | .optional inner => inner.named
  | .union options => namedOptions options
  | .model model => [model]
  | _ => []

/-- The models that the options of a union name themselves. -/
def namedOptions : List FieldType → List Model
  | [] => []
  | option :: rest => option.named ++ namedOptions rest

end

/-- The models that the properties of a model name. -/
def Model.named (model : Model) : List Model :=
  (shownFields model.fields).flatMap fun field => field.type.named

/-- The models without those that were there before. -/
def distinctModels (models : List Model) : List Model :=
  models.foldl (fun kept model =>
    if kept.any fun other => other.identity = model.identity then kept else kept ++ [model]) []

/-! ## Full names -/

/-- Where a model comes from. -/
def Identity.home : Identity → String
  | .declared home _ => home
  | .built _ => "routedoc.generator.schemas"

/-- The full names of models. Of models with one name the number tells which it is. -/
def fullNames (models : List Model) : List String :=
  (models.foldl (fun (names, marked) model =>
    let name := fullName model.identity.home model.name
    let number := names.count name + 1
    (names ++ [name], marked ++ [name ++ "-Input__" ++ toString number])) ([], [])).2

/-! ## Links -/

/-- The models of a schema, in the order in which they are entered, and the reference of each. -/
abbrev Links := List (Model × String)

namespace Links

/-- The links of a schema whose references are written by a template. -/
def of (template : String) (model : Model) : Except TemplateFault Links :=
  let models := distinctModels model.entered
  (models.zip (fullNames models)).mapM fun (model, name) =>
    (fillTemplate template name).map fun reference => (model, reference)

/-- The model that the reference of a model leads to. -/
def target? (links : Links) (model : Model) : Option Model := do
  let (_, reference) ← links.find? fun link => link.1.identity = model.identity
  let (target, _) ← links.reverse.find? fun link => link.2 == reference
  pure target

/-- The models that references lead to, from those in a list of models on. Every model is followed
once, so twice the number of places where models are named is enough `fuel`. -/
def follow (links : Links) : Nat → List Model → List Model → List Model
  | 0, reached, _ => reached
  | _ + 1, reached, [] => reached
  | fuel + 1, reached, model :: pending =>
      if reached.any fun other => other.identity = model.identity then
        links.follow fuel reached pending
      else
        links.follow fuel (reached ++ [model]) (pending ++ model.named.filterMap links.target?)

/-- The models that the references of a schema lead to. -/
def reached (links : Links) (model : Model) : List Model :=
  links.follow (2 * model.entered.length) [] (model.named.filterMap links.target?)

end Links

/-! ## Schemas -/

/-- Why a model has no schema with references written by a template. -/
inductive LinkFault where
  | template (fault : TemplateFault)
  | reference (fault : ReferenceFault)
  deriving DecidableEq, Repr, Inhabited

/-- The JSON schema of a model with references written by a template. -/
def Model.schemaBy (template : String) (model : Model) : Except LinkFault Json := do
  match model with
  | .given _ _ schema => pure schema
  | .record .. =>
      let links ← (Links.of template model).mapError .template
      model.checkReferences.mapError .reference
      let reached := links.reached model
      let references ← reached.mapM fun target => do
        let reference ← (fillTemplate template (definitionName target.name)).mapError .template
        pure (target.identity, reference)
      let refTo := fun name =>
        let linked := links.find? fun link => definitionName link.1.name == name
        ((linked.bind fun link => links.target? link.1).bind fun target =>
          references.lookup target.identity).getD name
      let definitions := Table.ofList (reached.map fun target =>
        (definitionName target.name, Json.obj (target.body refTo)))
      let defining := if definitions.isEmpty then [] else [("$defs", Json.obj definitions)]
      match references.lookup model.identity with
      | some reference => pure (arrange false (.obj ((referenceKey, .str reference) :: defining)))
      | none => pure (arrange false (.obj (model.body refTo ++ defining)))

end RouteAtlas.Schema
