import RouteAtlas.Proofs.Step
import RouteAtlas.Proofs.Text.Names
import RouteAtlas.Generator

/-!
# Routes with nothing but a handler

A handler given by a name of its own, outside the middleware vocabulary, is no validator, wraps
nothing and stands for itself. A route whose chain is such a handler has a record that depends on
nothing but the route: the path, the name of the handler and the tag.
-/

set_option autoImplicit false

namespace RouteAtlas.Middleware

open Text Source Api Schema Router Step

/-- The names of the validators and of the handler wrappers. -/
def vocabulary : List Text :=
  validatedSlots.flatMap validatorNames ++ responseValidator :: wrapperNames

/-- A name outside the middleware vocabulary. -/
structure IsHandler (handler : Text) : Prop where
  name : IsName handler
  foreign : handler ∉ vocabulary

instance (handler : Text) : Decidable (IsHandler handler) :=
  decidable_of_iff (IsName handler ∧ handler ∉ vocabulary)
    ⟨fun h => ⟨h.1, h.2⟩, fun h => ⟨h.name, h.foreign⟩⟩

section

variable {handler : Text} (h : IsHandler handler)

include h

theorem IsHandler.not_mentions {word : Text} (hword : word ∈ vocabulary) :
    mentions handler word = false := by
  have hne : word ≠ [] := by
    rintro rfl
    exact absurd hword (by decide)
  refine mentions_name h.name hne ?_
  rintro rfl
  exact h.foreign hword

theorem IsHandler.mentionsWrapper_eq : mentionsWrapper handler = false := by
  rw [mentionsWrapper, List.any_eq_false]
  intro wrapper hwrapper
  have hword : wrapper ∈ vocabulary :=
    List.mem_append_right _ (List.mem_cons_of_mem _ hwrapper)
  rw [h.not_mentions hword]
  decide

theorem IsHandler.kindOf_eq : kindOf [] handler = .unclassified := by
  have hslots : (validatedSlots.find? fun slot => (validatorNames slot).any (mentions handler)) =
      none := by
    rw [List.find?_eq_none]
    intro slot hslot
    have hnone : (validatorNames slot).any (mentions handler) = false := by
      rw [List.any_eq_false]
      intro validator hvalidator
      have hword : validator ∈ vocabulary :=
        List.mem_append_left _ (List.mem_flatMap_of_mem hslot hvalidator)
      rw [h.not_mentions hword]
      decide
    simp [hnone]
  have hresponse : mentions handler responseValidator = false :=
    h.not_mentions (List.mem_append_right _ List.mem_cons_self)
  simp [kindOf, h.mentionsWrapper_eq, hslots, hresponse]

/-- A name is no call, so it is not the composite validator either. -/
theorem IsHandler.expand_eq : expand (chainOf [handler]) = .ok (chainOf [handler]) := by
  have hcall : argumentsOfCall handler bundleName = .ok none :=
    argumentsOfCall_eq_none (h.name.not_mem (by decide))
  have hcomposite : compositeArgument? handler = .ok none := by
    rw [compositeArgument?, hcall]
    split
    · rfl
    · rfl
  have htexts : expandTexts [handler] = .ok [handler] := by
    rw [expandTexts, expandOne, hcomposite]
    rfl
  rw [expand]
  exact congrArg (Except.map chainOf) htexts

theorem IsHandler.classify_eq :
    classify {} (chainOf [handler]) = .ok [{ position := 0, text := handler, kind := .handler }] := by
  have hdenied : Setup.denies {} handler = false := rfl
  rw [classify, h.expand_eq]
  simp [Except.map, chainOf, classifyFrom, h.kindOf_eq, hdenied]

theorem IsHandler.operationName_eq {wrappers : List Text} (hwrappers : wrappers ⊆ vocabulary) :
    operationName handler wrappers = .ok handler := by
  induction wrappers with
  | nil => rw [operationName, h.name.trim_eq]
  | cons wrapper rest ih =>
      have hword : wrapper ∈ vocabulary := hwrappers List.mem_cons_self
      rw [operationName, h.not_mentions hword]
      exact ih fun word hmem => hwrappers (List.mem_cons_of_mem _ hmem)

theorem IsHandler.absorbAll_eq (provider : Provider) (declaration : Declaration) :
    absorbAll {} provider declaration [{ position := 0, text := handler, kind := .handler }] {} =
      pure { summary := String.ofList handler } := by
  have hname : operationName handler wrapperNames = .ok handler :=
    h.operationName_eq fun word hword => List.mem_append_right _ (List.mem_cons_of_mem _ hword)
  simp only [absorbAll, absorb, h.mentionsWrapper_eq, hname]
  rfl

/-- **The record of a route whose chain is a plain handler** and that has no note. -/
theorem IsHandler.build_eq (provider : Provider) (declaration : Declaration)
    (method path tag : String) :
    build {} provider declaration { method := method, path := path, tag := tag, note := none }
      (chainOf [handler]) =
    pure { method := method, path := path, summary := String.ofList handler, tag := tag } := by
  have hclassified : Run.ofSource (classify {} (chainOf [handler])) =
      pure [{ position := 0, text := handler, kind := .handler }] := by
    rw [h.classify_eq]
    rfl
  rw [build, hclassified, pure_bind, h.absorbAll_eq, pure_bind]

/-- The record of a route call that has no note and whose chain is a plain handler, where no
middleware is declared or denied. -/
theorem IsHandler.recordOf_eq {context : Generator.Context} (hsetup : context.setup = {})
    (declaration : Declaration) (tag : Text) {mount path : Text} {token : Route.Token}
    (hendpoint : Route.endpoint token.verb.name.toList token.arguments mount =
      .ok { path := path, chain := chainOf [handler] })
    (hnote : token.note = none) :
    Generator.recordOf context declaration tag mount token =
      pure
        { method := token.verb.name
          path := String.ofList path
          summary := String.ofList handler
          tag := String.ofList tag } := by
  rw [Generator.recordOf, hendpoint, hsetup, hnote]
  exact h.build_eq context.provider declaration _ _ _

end

end RouteAtlas.Middleware
