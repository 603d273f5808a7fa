import RouteAtlas.Proofs.Route.Calls

/-!
# Truncated spans

A span that is cut off anywhere loses route calls at its end and nothing else: the calls found in the
part are the first ones of those found in the whole, with the same arguments (`tokens_truncated`). Only
the last lexeme of the part can differ from the whole, and it is then a piece of a literal, of a comment
or the slash of a comment mark, none of which takes part in a call. A call that is cut off is either not
recognised or not closed.
-/

set_option autoImplicit false

namespace RouteAtlas.Route

open Text Source

/-- The verbs and arguments of the calls found. -/
def Extraction.calls (extraction : Extraction) : List (Verb × Text) :=
  extraction.tokens.map fun token => (token.verb, token.arguments)

theorem calls_cons (token : Token) (extraction : Extraction) :
    (extraction.cons token).calls = (token.verb, token.arguments) :: extraction.calls := rfl

/-- What stands at the end of a part in place of the lexemes of the whole: nothing, or one lexeme that
may change when the text goes on. -/
def IsCut (tail : List Lexeme) : Prop := tail = [] ∨ ∃ last, tail = [last] ∧ last.isLoose = true

theorem IsCut.code_not_mem {tail : List Lexeme} (h : IsCut tail) {c : Char} (hc : c ≠ '/') :
    .code c ∉ tail := by
  rcases h with rfl | ⟨last, rfl, hloose⟩
  · exact List.not_mem_nil
  · intro hmem
    rw [List.mem_singleton] at hmem
    subst hmem
    exact hc (by simpa [Lexeme.isLoose] using hloose)

theorem IsCut.bars {tail : List Lexeme} (h : IsCut tail) : Bars tail := by
  rintro text inner - rfl
  exact h.code_not_mem (by decide) (List.mem_append_right _ List.mem_cons_self)

/-- No call is found in what a cut leaves of a lexeme. -/
theorem IsCut.calls_eq {tail : List Lexeme} (h : IsCut tail) (receiver : Option Text) (seen : Text)
    (gap : Option Text) : (tokensFrom receiver seen gap tail).calls = [] := by
  rcases h with rfl | ⟨last, rfl, hloose⟩
  · rw [tokensFrom]
    rfl
  · cases last with
    | code c =>
        obtain rfl : c = '/' := by simpa [Lexeme.isLoose] using hloose
        rw [tokensFrom_code (by decide), tokensFrom]
        rfl
    | literal text => cases hloose
    | comment text =>
        rw [tokensFrom, tokensFrom]
        rfl
    | broken text =>
        rw [tokensFrom]
        rfl

/-- A cut closes no call: a closer found in front of it is found without it. -/
theorem IsCut.splitAtCloser_eq_ok {tail inner inside behind : List Lexeme} (h : IsCut tail)
    (hcloses : Closes 0 (inner ++ tail) inside behind) (start : Int) (offset : Nat) :
    ∃ before, splitAtCloser .round start offset 0 inner = .ok (inside, before) := by
  have hclose := hcloses start offset
  have hsplit : inside ++ .code ')' :: behind = inner ++ tail := append_of_splitAtCloser hclose
  have hinner : ∃ before, inner = inside ++ .code ')' :: before := by
    rcases List.append_eq_append_iff.1 hsplit with ⟨middle, hfront, hrest⟩ | ⟨middle, hfront, hrest⟩
    · cases middle with
      | nil => exact absurd (hrest ▸ List.mem_cons_self) (h.code_not_mem (by decide))
      | cons first before =>
          obtain ⟨rfl, -⟩ := List.cons.inj hrest
          exact ⟨before, hfront⟩
    · -- the closer would stand in the cut
      exact absurd (hrest ▸ List.mem_append_right _ List.mem_cons_self) (h.code_not_mem (by decide))
  obtain ⟨before, rfl⟩ := hinner
  exact ⟨before, closes_of_splitAtCloser hclose before start offset⟩

/-- **Lexemes that end in a cut give the first of the calls** that they give when they go on. -/
theorem tokensFrom_truncated {receiver : Option Text} {seen : Text} {gap : Option Text}
    {lexemes tail : List Lexeme} (htail : IsCut tail) (more : List Lexeme) :
    (tokensFrom receiver seen gap (lexemes ++ tail)).calls <+:
      (tokensFrom receiver seen gap (lexemes ++ more)).calls := by
  fun_induction tokensFrom receiver seen gap lexemes with
  | case1 seen gap =>
      rw [List.nil_append, htail.calls_eq]
      exact List.nil_prefix
  | case2 seen gap text rest =>
      rw [List.cons_append, tokensFrom]
      exact List.nil_prefix
  | case3 seen gap text rest ih =>
      rw [List.cons_append, List.cons_append, tokensFrom, tokensFrom]
      simpa using ih
  | case4 seen gap text rest ih =>
      rw [List.cons_append, List.cons_append, tokensFrom, tokensFrom]
      simpa using ih
  | case5 seen gap c rest hnone ih =>
      rw [List.cons_append, List.cons_append, tokensFrom_pass (htail.bars.callAt?_eq_none hnone)]
      cases hcall : callAt? receiver seen gap c (rest ++ more) with
      | none =>
          rw [tokensFrom_pass hcall]
          exact ih
      | some call =>
          -- the whole completes a call whose head the part ends in, and the part has no dot behind it
          obtain ⟨rfl, hverb, hcounts⟩ := callAt?_eq_some_iff.1 hcall
          rcases verbAt?_completed hverb with ⟨before, hbefore, -⟩ | ⟨text, other, hparts, rfl, -⟩
          · cases hnone.symm.trans (callAt?_eq_some_iff.2 ⟨rfl, hbefore, hcounts⟩)
          · have hdot : '.' ∉ text := by
              intro hmem
              exact absurd (hparts _ (List.mem_append_left _ hmem)) (by decide)
            rw [tokensFrom_codes hdot, htail.calls_eq]
            exact List.nil_prefix
  | case6 seen gap c rest verb inner hcall start fault hclose =>
      obtain ⟨rfl, hverb, hcounts⟩ := callAt?_eq_some_iff.1 hcall
      rw [List.cons_append, Extraction.calls,
        tokensFrom_unclosed (verbAt?_append hverb tail) hcounts]
      · exact List.nil_prefix
      · intro inside behind hcloses
        obtain ⟨before, hfound⟩ := htail.splitAtCloser_eq_ok hcloses start start
        cases hclose.symm.trans hfound
  | case7 seen gap c rest verb inner hcall start inside behind hclose call ih =>
      obtain ⟨rfl, hverb, hcounts⟩ := callAt?_eq_some_iff.1 hcall
      rw [List.cons_append, List.cons_append, tokensFrom_call_append hverb hcounts hclose,
        tokensFrom_call_append hverb hcounts hclose, calls_cons, calls_cons, List.prefix_cons_inj]
      exact ih

/-- **A part of a span gives the first of the route calls of the span.** -/
theorem tokens_truncated (receiver : Option Text) {part span : Text} (h : part <+: span) :
    (tokens part receiver).calls <+: (tokens span receiver).calls := by
  obtain ⟨more, rfl⟩ := h
  obtain ⟨common, tail, rest, hpart, hspan, htail⟩ := lex_append part more
  rw [tokens, tokens, hpart, hspan]
  exact tokensFrom_truncated htail rest

/-- A span of two routes that is cut off inside the path of the second one keeps the first. -/
theorem users_truncated :
    (tokens "users.get('/', list); users.post('/ne".toList (some "users".toList)).calls =
        [(.get, "'/', list".toList)] ∧
      "users.get('/', list); users.post('/ne".toList <+:
        "users.get('/', list); users.post('/new', add);".toList ∧
      (tokens "users.get('/', list); users.post('/ne".toList (some "users".toList)).calls <+:
        (tokens "users.get('/', list); users.post('/new', add);".toList (some "users".toList)).calls := by
  have hpart : "users.get('/', list); users.post('/ne".toList <+:
      "users.get('/', list); users.post('/new', add);".toList := by
    decide
  refine ⟨?_, hpart, tokens_truncated _ hpart⟩
  decide +kernel

end RouteAtlas.Route
