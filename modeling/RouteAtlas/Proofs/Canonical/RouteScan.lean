import RouteAtlas.Proofs.Canonical.MountScan
import RouteAtlas.Proofs.Route.Calls
import RouteAtlas.Route.Endpoint

/-!
# The routes of canonical files

The scan for route calls goes over the lexemes of the span of a router. Every line of the span ends
with a semicolon and a newline, so the identifier before the dot of a route call is the router, and it
is not itself a member of something. The calls found are those the lines were written with, without
notes, and each has a quoted path and a handler.
-/

set_option autoImplicit false

namespace RouteAtlas.Canonical

open Text Source Route Router

/-! ## Lines -/

/-- The text before a line, in reverse: the line before it ends with a semicolon. -/
def AtLineStart (seen : Text) : Prop := ∃ before, seen = '\n' :: ';' :: before

theorem countsFor_name {name seen : Text} (h : IsName name) (hseen : AtLineStart seen)
    (gap : Option Text) : countsFor (some name) (name.reverse ++ seen) gap = true := by
  obtain ⟨before, rfl⟩ := hseen
  have hlast : lastIdentifier? (name.reverse ++ '\n' :: ';' :: before) =
      some (name, '\n' :: ';' :: before) := by
    apply lastIdentifier?_name h
    intro c hc
    cases hc
    decide
  have hends : endsWithReceiver name (name.reverse ++ '\n' :: ';' :: before) = true := by
    rw [endsWithReceiver, hlast]
    simp only [beq_self_eq_true, Bool.true_and]
    rfl
  rw [countsFor, hends, Bool.or_true]

/-- The route call of a line. -/
def routeToken (verb : Verb) (path handler : Text) : Token :=
  { verb := verb, arguments := quote path ++ ", ".toList ++ handler, note := none }

/-- A route line is one route call. -/
theorem tokensFrom_routeLine {name : Text} (h : IsName name) (verb : Verb) (path : PathText)
    (handler : Handler) {seen : Text} (hseen : AtLineStart seen) (gap : Option Text) (rest : Text) :
    ∃ seen' gap', AtLineStart seen' ∧
      tokensFrom (some name) seen gap
          (lex (routeLine name verb path.text handler.text ++ rest)) =
        (tokensFrom (some name) seen' gap' (lex rest)).cons
          (routeToken verb path.text handler.text) := by
  have hverb : verb.name.toList.all isPlain = true := by cases verb <;> rfl
  have hname : '.' ∉ name := h.not_mem (by decide)
  have hhandler := handler.isHandler.name
  have hsplit : routeLine name verb path.text handler.text ++ rest =
      name ++ (['.'] ++ (verb.name.toList ++ (['('] ++ (quote path.text ++ ", ".toList ++ handler.text ++
        ");\n".toList ++ rest)))) := by
    unfold routeLine
    simp
  have hlex : lex (routeLine name verb path.text handler.text ++ rest) =
      codes name ++ .code '.' :: (codes verb.name.toList ++ .code '(' ::
        (pairLexemes path.text handler.text ++ .code ')' :: (codes ";\n".toList ++ lex rest))) := by
    rw [hsplit, lex_append_plain (all_isPlain_of_isName h), lex_append_plain rfl,
      lex_append_plain hverb, lex_append_plain rfl,
      lex_pair path.isBody (all_isPlain_of_isName hhandler)]
    rfl
  have hcall := tokensFrom_call (verbAt?_name verb _) (countsFor_name h hseen (gap.map (name.reverse ++ ·)))
    (closes_route path hhandler (codes ";\n".toList ++ lex rest))
  have hnote : note? (codes ";\n".toList ++ lex rest) = none := rfl
  have hsemicolon : '.' ∉ ";\n".toList := by decide
  -- the call is closed within its line, so the next line starts behind a newline again
  rw [hlex, tokensFrom_codes hname, hcall, raw_pairLexemes, hnote, tokensFrom_codes hsemicolon]
  exact ⟨_, _, ⟨_, rfl⟩, rfl⟩

/-- A mount has no route calls. -/
theorem tokensFrom_useLine {name inner : Text} (h : IsName name) (hinner : IsName inner)
    (path : PathText) (seen : Text) (gap : Option Text) (rest : Text) :
    ∃ seen' gap', AtLineStart seen' ∧
      tokensFrom (some name) seen gap (lex (useLine name path.text inner ++ rest)) =
        tokensFrom (some name) seen' gap' (lex rest) := by
  have hname : '.' ∉ name := h.not_mem (by decide)
  have hother : '.' ∉ ", ".toList ++ inner := by
    have hfree : '.' ∉ inner := hinner.not_mem (by decide)
    simp [hfree]
  have hfront : '.' ∉ "use(".toList := by decide
  have hend : '.' ∉ "routes());\n".toList := by decide
  have hcomma : (", ".toList ++ inner).all isPlain = true := by
    rw [List.all_append, all_isPlain_of_isName hinner]
    rfl
  have hsplit : useLine name path.text inner ++ rest =
      name ++ (['.'] ++ ("use(".toList ++ (quote ('/' :: path.text) ++
        ((", ".toList ++ inner) ++ (['.'] ++ ("routes());\n".toList ++ rest)))))) := by
    unfold useLine
    simp
  have hlex : lex (useLine name path.text inner ++ rest) =
      codes name ++ .code '.' :: (codes "use(".toList ++ .literal (quote ('/' :: path.text)) ::
        (codes (", ".toList ++ inner) ++ .code '.' :: (codes "routes());\n".toList ++ lex rest))) := by
    rw [hsplit, lex_append_plain (all_isPlain_of_isName h), lex_append_plain rfl,
      lex_append_plain rfl, lex_append_quote (isBody_slash path), lex_append_plain hcomma,
      lex_append_plain rfl, lex_append_plain rfl]
    rfl
  have huse : ∀ lexemes, verbAt? (codes "use(".toList ++ lexemes) = none := fun _ => rfl
  have hroutes : ∀ lexemes, verbAt? (codes "routes());\n".toList ++ lexemes) = none := fun _ => rfl
  rw [hlex, tokensFrom_codes hname, tokensFrom_dot (huse _), tokensFrom_codes hfront, tokensFrom,
    tokensFrom_codes hother, tokensFrom_dot (hroutes _), tokensFrom_codes hend]
  exact ⟨_, _, ⟨_, rfl⟩, rfl⟩

/-! ## Spans -/

section

variable {n : Nat} (project : Project n)

/-- The route calls in the lines of a router. -/
def RouterFile.tokens (router : RouterFile n) : List Token :=
  router.lines.filterMap fun
    | .route verb path handler => some (routeToken verb path.text handler.text)
    | .mount _ _ => none

theorem Project.tokensFrom_bodyText {name : Text} (h : IsName name) (lines : List (Line n)) {seen : Text}
    (hseen : AtLineStart seen) (gap : Option Text) :
    (tokensFrom (some name) seen gap (lex (project.bodyText name lines))).tokens =
      lines.filterMap fun
        | .route verb path handler => some (routeToken verb path.text handler.text)
        | .mount _ _ => none := by
  induction lines generalizing seen gap with
  | nil =>
      have hnone : lex (project.bodyText name []) = [] := by
        rw [Project.bodyText, List.flatMap_nil, lex]
      rw [hnone, tokensFrom]
      rfl
  | cons line lines ih =>
      have hcons : project.bodyText name (line :: lines) =
          project.lineText name line ++ project.bodyText name lines := List.flatMap_cons
      rw [hcons]
      cases line with
      | route verb path handler =>
          obtain ⟨seen', gap', hnext, hline⟩ := tokensFrom_routeLine h verb path handler hseen gap
            (project.bodyText name lines)
          rw [Project.lineText, hline]
          exact congrArg (routeToken verb path.text handler.text :: ·) (ih hnext gap')
      | mount path router =>
          obtain ⟨seen', gap', hnext, hline⟩ := tokensFrom_useLine h (project.isName router) path seen gap
            (project.bodyText name lines)
          rw [Project.lineText, hline]
          exact ih hnext gap'

/-- **The route calls of a router.** -/
theorem Project.tokens_span (router : Fin n) :
    (Route.tokens (headLine (project.nameOf router) ++
        project.bodyText (project.nameOf router) (project.routers router).lines)
      (some (project.nameOf router))).tokens = (project.routers router).tokens := by
  have hname := project.isName router
  have hplain : (headLine (project.nameOf router)).all isPlain = true := by
    unfold headLine
    rw [List.all_append, List.all_append, all_isPlain_of_isName hname]
    rfl
  have hstart : AtLineStart ((headLine (project.nameOf router)).reverse ++ []) := by
    unfold headLine
    exact ⟨_, by simp; rfl⟩
  rw [Route.tokens, lex_append_plain hplain, tokensFrom_codes (dot_not_mem_headLine hname)]
  exact project.tokensFrom_bodyText hname _ hstart _

end

/-! ## Endpoints -/

/-- The endpoint of a route call that is read back. -/
theorem endpoint_routeToken (verb : Verb) (path : PathText) (handler : Handler) (mount : Text) :
    endpoint verb.name.toList (routeToken verb path.text handler.text).arguments mount =
      .ok { path := template (pathUnder mount path.text), chain := Middleware.chainOf [handler.text] } := by
  rw [endpoint, routeToken, arguments_route path handler.isHandler.name]
  simp only [bind, Except.bind, unquote?_quote]
  rfl

end RouteAtlas.Canonical
