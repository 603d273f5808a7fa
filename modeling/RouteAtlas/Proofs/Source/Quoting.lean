import RouteAtlas.Proofs.Source.Joining
import RouteAtlas.Route.Endpoint
import RouteAtlas.Router.Mount
import RouteAtlas.Source.Standing

/-!
# Quotes and literals

A text is one string literal when a quote opens it and the literal that starts there takes it whole. Its
body is then a run of characters and escapes in which the quote does not stand by itself (`LiteralBody`).
The body of a quoted token is read off its first and its last character alone. So every literal is read,
and what is read is a literal exactly where the text between the two quotes is such a body
(`readsLiterals_iff`): two literals with code between them are read as one text, and so is a text whose
last quote is escaped.
-/

set_option autoImplicit false

namespace RouteAtlas.Source

open Text

/-- A text is one string literal: it starts with a quote, and what is skipped there is all of it. -/
def IsLiteral (text : Text) : Prop :=
  (∃ mark ∈ text.head?, isQuote mark = true) ∧ standingAt text 0 = .skipped text.length

/-- What can stand between two quotes of a kind: a backslash takes the next character along, and the
quote does not stand by itself. -/
inductive LiteralBody (mark : Char) : Text → Prop where
  | nil : LiteralBody mark []
  | char {c : Char} {rest : Text} : c ≠ mark → c ≠ '\\' → LiteralBody mark rest → LiteralBody mark (c :: rest)
  | escape {c : Char} {rest : Text} : LiteralBody mark rest → LiteralBody mark ('\\' :: c :: rest)

/-- At a token, what is read as quoted is one literal, and its body is read. -/
def ReadsLiterals (token : Text) : Prop :=
  ∀ body, unquote? token = some body ↔ IsLiteral (trim token) ∧ body = (trim token).tail.dropLast

/-! ## Bodies -/

theorem ne_backslash_of_isQuote {mark : Char} (h : isQuote mark = true) : mark ≠ '\\' := by
  rintro rfl
  exact absurd h (by decide)

theorem LiteralBody.closeLiteral_eq {mark : Char} (hmark : mark ≠ '\\') {body : Text}
    (h : LiteralBody mark body) (behind : Text) :
    closeLiteral mark (body ++ mark :: behind) = some (body ++ [mark], behind) := by
  induction h with
  | nil =>
      rw [List.nil_append, closeLiteral_cons hmark, if_pos rfl]
      rfl
  | char hquote hescape _ ih =>
      rw [List.cons_append, closeLiteral_cons hescape, if_neg hquote, ih]
      rfl
  | escape _ ih =>
      rw [List.cons_append, List.cons_append, closeLiteral, ih]
      rfl

/-- **A literal is closed behind a body.** -/
theorem closeLiteral_eq_some_iff {mark : Char} (hmark : mark ≠ '\\') {text taken behind : Text} :
    closeLiteral mark text = some (taken, behind) ↔
      ∃ body, LiteralBody mark body ∧ taken = body ++ [mark] ∧ text = body ++ mark :: behind := by
  constructor
  · intro h
    fun_induction closeLiteral mark text generalizing taken with
    | case1 => cases h
    | case2 => cases h
    | case3 c rest ih =>
        obtain ⟨⟨inner, found⟩, hclose, heq⟩ := Option.map_eq_some_iff.1 h
        cases heq
        obtain ⟨body, hbody, rfl, rfl⟩ := ih hclose
        exact ⟨_, hbody.escape, rfl, rfl⟩
    | case4 rest =>
        cases h
        exact ⟨[], .nil, rfl, rfl⟩
    | case5 c rest hsingle hescape hc ih =>
        obtain ⟨⟨inner, found⟩, hclose, heq⟩ := Option.map_eq_some_iff.1 h
        cases heq
        obtain ⟨body, hbody, rfl, rfl⟩ := ih hclose
        exact ⟨_, hbody.char hc (ne_backslash hsingle hescape), rfl, rfl⟩
  · rintro ⟨body, hbody, rfl, rfl⟩
    exact hbody.closeLiteral_eq hmark behind

theorem standingAt_quote {mark : Char} (hmark : isQuote mark = true) (rest : Text) :
    standingAt (mark :: rest) 0 =
      match closeLiteral mark rest with
      | some (taken, _) => .skipped (taken.length + 1)
      | none => .broken (.unterminated 0) := by
  have hstart : standingAt (mark :: rest) 0 = standingFromStart (mark :: rest) 0 := rfl
  rw [hstart, standingFromStart, List.drop_zero]
  cases hclose : closeLiteral mark rest with
  | none => simp [(Reads.broken hmark hclose).next_eq]
  | some pair => simp [(Reads.literal hmark hclose).next_eq]

/-- **A text is one literal exactly if it is a body between two quotes.** -/
theorem isLiteral_iff {text : Text} :
    IsLiteral text ↔ ∃ mark body, isQuote mark = true ∧ LiteralBody mark body ∧ text = quoteWith mark body := by
  constructor
  · rintro ⟨⟨mark, hhead, hmark⟩, hstanding⟩
    obtain ⟨rest, rfl⟩ := List.head?_eq_some_iff.1 hhead
    rw [standingAt_quote hmark] at hstanding
    cases hclose : closeLiteral mark rest with
    | none => simp [hclose] at hstanding
    | some pair =>
        obtain ⟨taken, behind⟩ := pair
        obtain ⟨body, hbody, rfl, rfl⟩ := (closeLiteral_eq_some_iff (ne_backslash_of_isQuote hmark)).1 hclose
        -- the literal takes the whole text, so nothing is left behind its closing quote
        have hbehind : behind = [] := by
          rw [hclose] at hstanding
          simp only [List.length_append, List.length_cons, List.length_nil, Standing.skipped.injEq] at hstanding
          exact List.eq_nil_of_length_eq_zero (by omega)
        exact ⟨mark, body, hmark, hbody, by rw [hbehind, quoteWith]⟩
  · rintro ⟨mark, body, hmark, hbody, rfl⟩
    have hclose := hbody.closeLiteral_eq (ne_backslash_of_isQuote hmark) []
    refine ⟨⟨mark, rfl, hmark⟩, ?_⟩
    rw [quoteWith, standingAt_quote hmark, hclose]
    simp

/-! ## Quoted tokens -/

/-- A token is read as quoted where a quote of one kind stands at both ends. -/
theorem unquote?_eq_some_iff {token body : Text} :
    unquote? token = some body ↔ ∃ mark, isQuote mark = true ∧ trim token = quoteWith mark body := by
  constructor
  · intro h
    rw [unquote?] at h
    split at h
    · rename_i first second rest htrim
      split at h
      · rename_i hends
        cases h
        rw [Bool.and_eq_true, beq_iff_eq] at hends
        refine ⟨first, hends.1, ?_⟩
        rw [htrim, quoteWith, List.dropLast_append_getLast? first hends.2]
      · cases h
    · cases h
  · rintro ⟨mark, hmark, htrim⟩
    have hquoted := unquote?_quoteWith hmark body
    rwa [unquote?, trim_quoteWith hmark, ← htrim] at hquoted

theorem quoteWith_injective {mark other : Char} {body inner : Text}
    (h : quoteWith mark body = quoteWith other inner) : mark = other ∧ body = inner := by
  obtain ⟨rfl, htail⟩ := List.cons.inj h
  exact ⟨rfl, List.append_cancel_right htail⟩

/-- **When the quotes of a token are those of one literal.** The body of a literal is always read. What
is read of a token is a literal exactly if the text between its quotes is the body of one. -/
theorem readsLiterals_iff (token : Text) :
    (IsLiteral (trim token) → unquote? token = some (trim token).tail.dropLast) ∧
    (ReadsLiterals token ↔ ∀ mark body, isQuote mark = true → trim token = quoteWith mark body →
      LiteralBody mark body) := by
  have hinside : ∀ mark body, (quoteWith mark body).tail.dropLast = body := by
    intro mark body
    rw [quoteWith, List.tail_cons, List.dropLast_concat]
  have hread : IsLiteral (trim token) → unquote? token = some (trim token).tail.dropLast := by
    intro hliteral
    obtain ⟨mark, body, hmark, -, htrim⟩ := isLiteral_iff.1 hliteral
    rw [htrim, hinside]
    exact unquote?_eq_some_iff.2 ⟨mark, hmark, htrim⟩
  refine ⟨hread, fun hreads mark body hmark htrim => ?_, fun hbodies body => ⟨fun hbody => ?_, ?_⟩⟩
  · obtain ⟨hliteral, -⟩ := (hreads body).1 (unquote?_eq_some_iff.2 ⟨mark, hmark, htrim⟩)
    obtain ⟨other, inner, -, hinner, hsame⟩ := isLiteral_iff.1 hliteral
    obtain ⟨rfl, rfl⟩ := quoteWith_injective (htrim.symm.trans hsame)
    exact hinner
  · obtain ⟨mark, hmark, htrim⟩ := unquote?_eq_some_iff.1 hbody
    refine ⟨isLiteral_iff.2 ⟨mark, body, hmark, hbodies mark body hmark htrim, htrim⟩, ?_⟩
    rw [htrim, hinside]
  · rintro ⟨hliteral, rfl⟩
    exact hread hliteral

/-- Two literals that are put together. -/
def joinedLiterals : Text := "'/a' + '/b'".toList

/-- A text whose last quote is escaped. -/
def escapedQuote : Text := "'/a\\'".toList

/-- Two literals put together are read as one, and become the path of a route and of a mount; so is a
text whose last quote is escaped. -/
theorem quotes_at_ends_suffice :
    (unquote? joinedLiterals = some "/a' + '/b".toList ∧ ¬ IsLiteral (trim joinedLiterals) ∧
      ¬ ReadsLiterals joinedLiterals) ∧
    (unquote? escapedQuote = some "/a\\".toList ∧ ¬ IsLiteral (trim escapedQuote) ∧
      ¬ ReadsLiterals escapedQuote) ∧
    Route.endpoint "get".toList (joinedLiterals ++ ", list".toList) "users".toList =
      .ok { path := "/users/a' + '/b".toList, chain := Middleware.chainOf ["list".toList] } ∧
    Router.mountOf? [] [joinedLiterals, "users.routes()".toList] =
      some { router := "users".toList, path := "a' + '/b".toList } := by
  have hjoined : ¬ IsLiteral (trim joinedLiterals) := fun h => absurd h.2 (by decide +kernel)
  have hescaped : ¬ IsLiteral (trim escapedQuote) := fun h => absurd h.2 (by decide +kernel)
  have hreadJoined : unquote? joinedLiterals = some "/a' + '/b".toList := by decide +kernel
  have hreadEscaped : unquote? escapedQuote = some "/a\\".toList := by decide +kernel
  refine ⟨⟨hreadJoined, hjoined, fun h => hjoined ((h _).1 hreadJoined).1⟩,
    ⟨hreadEscaped, hescaped, fun h => hescaped ((h _).1 hreadEscaped).1⟩, ?_, ?_⟩
  · decide +kernel
  · decide +kernel

end RouteAtlas.Source
