import Mathlib.Data.List.TakeWhile
import RouteAtlas.Proofs.Route.Calls

/-!
# Spans put together

A semicolon on a line of its own separates statements: the route calls of two texts with a separator
between them are those of the first text and then those of the second (`tokens_joined`), provided that
the scan reaches the end of the first text and that this end is in no open block comment. Three things
could reach over a separator. The scan carries the text since the last call into the second text, but
the separator keeps that text from being blank. It looks back from a dot for the receiver, but it meets
the separator before anything of the first text. It looks behind a call for a note, but not past the
end of the line. A comment has no calls, so a statement that is commented out takes its own calls away
and no others.
-/

set_option autoImplicit false

namespace RouteAtlas.Route

open Text Source

/-- A semicolon on a line of its own. -/
def separator : Text := ['\n', ';', '\n']

/-- The scan of a text reaches its end, and the end is in no open block comment. -/
def IsWhole (receiver : Option Text) (text : Text) : Prop :=
  (tokens text receiver).halt = none ∧ endsInBlock text = false

/-- A text that is one comment: a line comment without its newline, or a closed block comment. -/
def IsComment (text : Text) : Prop :=
  (∃ line, '\n' ∉ line ∧ text = '/' :: '/' :: line) ∨
    ∃ body, ¬ ['*', '/'] <:+: body ∧ text = '/' :: '*' :: (body ++ ['*', '/'])

/-! ## The end of a whole text -/

/-- A call that is found ends with its closer, and the scan goes on behind it. -/
theorem exists_call_append {rest inner inside behind : List Lexeme} {verb : Verb} {start : Int}
    {offset : Nat} (hverb : verbAt? rest = some (verb, inner))
    (hclose : splitAtCloser .round start offset 0 inner = .ok (inside, behind)) :
    ∃ call, rest = call ++ .code ')' :: behind ∧
      rest.take (rest.length - behind.length) = call ++ [.code ')'] := by
  obtain ⟨head, -, rfl⟩ := verbAt?_eq_some_iff.1 hverb
  have hinner : inside ++ .code ')' :: behind = inner := append_of_splitAtCloser hclose
  have hrest : codes head ++ .code '(' :: inner =
      (codes head ++ .code '(' :: inside) ++ .code ')' :: behind := by
    rw [← hinner]
    simp
  refine ⟨codes head ++ .code '(' :: inside, hrest, ?_⟩
  rw [hrest, List.append_cons, List.length_append, Nat.add_sub_cancel, List.take_left]

/-- A scan that reaches the end of the lexemes has met no open literal there. -/
theorem getLast?_ne_broken {receiver : Option Text} {seen : Text} {gap : Option Text}
    {lexemes : List Lexeme} (h : (tokensFrom receiver seen gap lexemes).halt = none) (text : Text) :
    lexemes.getLast? ≠ some (.broken text) := by
  -- the last lexeme is that of what the scan goes on with, or one that is not broken
  have behind_cons : ∀ {lexeme : Lexeme} {rest : List Lexeme},
      rest.getLast? ≠ some (.broken text) → lexeme ≠ .broken text →
      (lexeme :: rest).getLast? ≠ some (.broken text) := by
    intro lexeme rest hrest hlexeme
    rw [List.getLast?_cons]
    cases hlast : rest.getLast? with
    | none => simpa using hlexeme
    | some last =>
        rw [hlast] at hrest
        exact hrest
  fun_induction tokensFrom receiver seen gap lexemes with
  | case1 => simp
  | case2 => cases h
  | case3 seen gap literal rest ih => exact behind_cons (ih (by simpa using h)) (by simp)
  | case4 seen gap comment rest ih => exact behind_cons (ih (by simpa using h)) (by simp)
  | case5 seen gap c rest hnone ih => exact behind_cons (ih h) (by simp)
  | case6 => cases h
  | case7 seen gap c rest verb inner hcall start inside behind hclose call ih =>
      obtain ⟨rfl, hverb, -⟩ := callAt?_eq_some_iff.1 hcall
      obtain ⟨front, rfl, -⟩ := exists_call_append hverb hclose
      rw [← List.cons_append, List.getLast?_append_cons]
      exact behind_cons (ih h) (by simp)

theorem IsWhole.isSealed {receiver : Option Text} {text : Text} (h : IsWhole receiver text) :
    IsSealed text := by
  obtain ⟨hhalt, hblock⟩ := h
  intro last hlast
  rw [Option.mem_def] at hlast
  cases last with
  | code c =>
      rintro rfl d hd
      cases hd
      decide
  | literal raw => trivial
  | comment raw =>
      rw [endsInBlock, hlast] at hblock
      refine ⟨hblock, ?_⟩
      intro d hd
      cases hd
      rfl
  | broken raw => exact absurd hlast (getLast?_ne_broken hhalt raw)

theorem isSealed_raw_of_suffix {text : Text} (h : IsSealed text) {last : List Lexeme}
    (hlast : last <:+ lex text) : IsSealed (raw last) := by
  intro lexeme hlexeme
  rw [lex_raw_of_suffix hlast] at hlexeme
  obtain ⟨front, hfront⟩ := hlast
  refine h lexeme ?_
  rw [Option.mem_def] at hlexeme
  rw [Option.mem_def, ← hfront, List.getLast?_append, hlexeme]
  rfl

/-! ## The text in front of a separator -/

theorem lex_separator {text : Text} (h : IsSealed text) (rest : Text) :
    lex (text ++ separator ++ rest) = lex text ++ (codes separator ++ lex rest) := by
  rw [List.append_assoc, ← lex_append_plain (by decide)]
  exact lex_append_newline h _

/-- The semicolon of a separator is no part of the head of a call. -/
theorem bars_separator (rest : List Lexeme) : Bars (codes separator ++ rest) := by
  intro text inner hparts heq
  match text with
  | [] => simp [codes, separator] at heq
  | [c] => simp [codes, separator] at heq
  | c :: d :: text =>
      obtain rfl : ';' = d := by
        simp only [codes, separator, List.map_cons, List.cons_append, List.cons.injEq,
          Lexeme.code.injEq] at heq
        exact heq.2.1
      exact absurd (hparts ';' (by simp)) (by decide)

theorem skipFiller_append (count : Nat) (behind rest : List Lexeme) :
    skipFiller count (behind ++ .code '\n' :: rest) =
      skipFiller count behind ++ .code '\n' :: rest := by
  fun_induction skipFiller count behind with
  | case1 count c behind hfiller ih => rw [List.cons_append, skipFiller, if_pos hfiller, ih]
  | case2 count c behind hfiller => rw [List.cons_append, skipFiller, if_neg hfiller]
  | case3 count behind hstop =>
      cases count with
      | zero => rfl
      | succ count =>
          cases behind with
          | nil => rfl
          | cons lexeme behind =>
              cases lexeme with
              | code c => exact absurd rfl (hstop count c behind rfl)
              | literal raw => rfl
              | comment raw => rfl
              | broken raw => rfl

/-- A note stands in the line of its call. -/
theorem note?_separator (behind rest : List Lexeme) :
    note? (behind ++ (codes separator ++ rest)) = note? behind := by
  have hskip : skipFiller 4 (behind ++ (codes separator ++ rest)) =
      skipFiller 4 behind ++ (codes separator ++ rest) := skipFiller_append 4 behind _
  rw [note?, note?, hskip]
  cases skipFiller 4 behind with
  | nil => rfl
  | cons lexeme others =>
      cases lexeme with
      | _ => rfl

/-- The gap behind some lexemes: the one from before them, if they have no call, or else one that
starts at some of them. -/
def GapBehind (gap : Option Text) (lexemes : List Lexeme) (gap' : Option Text) : Prop :=
  gap' = gap.map ((raw lexemes).reverse ++ ·) ∨
    ∃ last, last <:+ lexemes ∧ gap' = some (raw last).reverse

theorem GapBehind.cons {gap gap' : Option Text} {lexeme : Lexeme} {lexemes : List Lexeme}
    (h : GapBehind (gap.map (lexeme.raw.reverse ++ ·)) lexemes gap') :
    GapBehind gap (lexeme :: lexemes) gap' := by
  rcases h with rfl | ⟨last, hlast, rfl⟩
  · left
    rw [Option.map_map]
    simp [raw, Function.comp_def]
  · exact .inr ⟨last, hlast.trans (List.suffix_cons _ _), rfl⟩

/-- Behind a call the gap starts anew. -/
theorem GapBehind.call {gap gap' : Option Text} {behind lexemes : List Lexeme}
    (h : GapBehind (some []) behind gap') (hsuffix : behind <:+ lexemes) :
    GapBehind gap lexemes gap' := by
  rcases h with rfl | ⟨last, hlast, rfl⟩
  · exact .inr ⟨behind, hsuffix, by simp⟩
  · exact .inr ⟨last, hlast.trans hsuffix, rfl⟩

/-- **The scan of lexemes in front of a separator** gives the calls that it gives without it, and then
those found from the separator on. -/
theorem tokensFrom_separator {receiver : Option Text} {seen : Text} {gap : Option Text}
    {lexemes : List Lexeme} (h : (tokensFrom receiver seen gap lexemes).halt = none)
    (rest : List Lexeme) :
    ∃ gap', GapBehind gap lexemes gap' ∧
      (tokensFrom receiver seen gap (lexemes ++ (codes separator ++ rest))).tokens =
        (tokensFrom receiver seen gap lexemes).tokens ++
          (tokensFrom receiver ((raw lexemes).reverse ++ seen) gap' (codes separator ++ rest)).tokens := by
  -- along the scan: no call starts before the separator and is closed behind it
  fun_induction tokensFrom receiver seen gap lexemes with
  | case1 seen gap =>
      refine ⟨gap, .inl ?_, ?_⟩
      · simp [raw]
      · simp [raw]
  | case2 => cases h
  | case3 seen gap literal others ih =>
      obtain ⟨gap', hgap, hfound⟩ := ih (by simpa using h)
      refine ⟨gap', GapBehind.cons (by simpa [Lexeme.raw] using hgap), ?_⟩
      rw [List.cons_append, tokensFrom]
      simpa [raw, Lexeme.raw] using hfound
  | case4 seen gap comment others ih =>
      obtain ⟨gap', hgap, hfound⟩ := ih (by simpa using h)
      refine ⟨gap', GapBehind.cons (by simpa [Lexeme.raw] using hgap), ?_⟩
      rw [List.cons_append, tokensFrom]
      simpa [raw, Lexeme.raw] using hfound
  | case5 seen gap c others hnone ih =>
      obtain ⟨gap', hgap, hfound⟩ := ih h
      refine ⟨gap', GapBehind.cons hgap, ?_⟩
      rw [List.cons_append, tokensFrom_pass ((bars_separator rest).callAt?_eq_none hnone)]
      simpa [raw, Lexeme.raw] using hfound
  | case6 => cases h
  | case7 seen gap c others verb inner hcall start inside behind hclose call ih =>
      obtain ⟨rfl, hverb, hcounts⟩ := callAt?_eq_some_iff.1 hcall
      obtain ⟨gap', hgap, hfound⟩ := ih h
      obtain ⟨front, hfront, htake⟩ := exists_call_append hverb hclose
      have hbehind : behind <:+ .code '.' :: others := by
        rw [hfront]
        exact ⟨.code '.' :: (front ++ [.code ')']), by simp⟩
      -- the text passed is the call and what is behind it, so the scan stands where it stood before
      have hseen : (raw behind).reverse ++ ((raw call).reverse ++ '.' :: seen) =
          (raw (.code '.' :: others)).reverse ++ seen := by
        show (raw behind).reverse ++ ((raw (others.take (others.length - behind.length))).reverse ++
          '.' :: seen) = _
        rw [htake, hfront]
        simp [raw, Lexeme.raw]
      refine ⟨gap', hgap.call hbehind, ?_⟩
      rw [List.cons_append, tokensFrom_call_append hverb hcounts hclose, note?_separator]
      rw [hseen] at hfound
      show _ :: _ = _ :: _
      rw [hfound]
      rfl

/-! ## The text behind a separator -/

/-- What is left of a separator, in front of the text before it, when blanks are dropped. -/
def Stops (tail : Text) : Prop := ∃ before, tail = ';' :: before ∨ tail = '\n' :: ';' :: before

theorem stops_separator (before : Text) : Stops (separator ++ before) :=
  ⟨'\n' :: before, .inr rfl⟩

/-- A class of characters without the newline and the semicolon does not reach past a stop. -/
theorem Stops.run {tail : Text} (h : Stops tail) (part : Char → Bool) (hline : part '\n' = false)
    (hend : part ';' = false) (text : Text) :
    (text ++ tail).takeWhile part = text.takeWhile part ∧
      (text ++ tail).dropWhile part = text.dropWhile part ++ tail := by
  induction text with
  | nil =>
      obtain ⟨before, rfl | rfl⟩ := h
      · simp [hend]
      · simp [hline]
  | cons c text ih =>
      by_cases hc : part c = true
      · simp [hc, ih.1, ih.2]
      · simp [hc]

/-- Dropping blanks leaves a stop behind the text. -/
theorem Stops.dropBlanks {tail : Text} (h : Stops tail) (text : Text) :
    ∃ tail', Stops tail' ∧ (text ++ tail).dropWhile isBlank = text.dropWhile isBlank ++ tail' := by
  induction text with
  | nil =>
      obtain ⟨before, rfl | rfl⟩ := h
      · exact ⟨';' :: before, ⟨before, .inl rfl⟩, rfl⟩
      · exact ⟨';' :: before, ⟨before, .inl rfl⟩, rfl⟩
  | cons c text ih =>
      by_cases hc : isBlank c = true
      · obtain ⟨tail', hstops, hdrop⟩ := ih
        exact ⟨tail', hstops, by simp [hc, hdrop]⟩
      · exact ⟨tail, h, by simp [hc]⟩

/-- A dot that is found over blanks stands in front of the stop. -/
theorem Stops.head?_dropBlanks {tail : Text} (h : Stops tail) (text : Text) :
    (((text ++ tail).dropWhile isBlank).head? != some '.') =
      ((text.dropWhile isBlank).head? != some '.') := by
  obtain ⟨tail', hstops, hdrop⟩ := h.dropBlanks text
  rw [hdrop]
  cases text.dropWhile isBlank with
  | nil =>
      obtain ⟨before, rfl | rfl⟩ := hstops
      · rfl
      · rfl
  | cons c rest => rfl

/-- **The receiver of a call is looked for up to the stop.** -/
theorem Stops.endsWithReceiver_eq {tail : Text} (h : Stops tail) (receiver seen : Text) :
    endsWithReceiver receiver (seen ++ tail) = endsWithReceiver receiver seen := by
  obtain ⟨tail', hstops, hdrop⟩ := h.dropBlanks seen
  obtain ⟨htake, hbehind⟩ :=
    hstops.run isIdentifierPart (by decide) (by decide) (seen.dropWhile isBlank)
  simp only [endsWithReceiver, lastIdentifier?, hdrop, htake, hbehind]
  cases hname : ((seen.dropWhile isBlank).takeWhile isIdentifierPart).reverse.dropWhile
      (!isIdentifierStart ·) with
  | nil => rfl
  | cons c name =>
      simp only
      rw [← List.append_assoc, hstops.head?_dropBlanks]

/-- The gaps carried in a text by itself and in the same text behind a separator: the same one, or none
and one that reaches over the separator. -/
def GapsAgree (seen : Text) (gap wide : Option Text) : Prop :=
  wide = gap ∨
    gap = none ∧ ∃ last, IsSealed last ∧ wide = some (seen ++ separator ++ last.reverse)

theorem GapsAgree.append {seen : Text} {gap wide : Option Text} (h : GapsAgree seen gap wide)
    (text : Text) :
    GapsAgree (text ++ seen) (gap.map (text ++ ·)) (wide.map (text ++ ·)) := by
  rcases h with rfl | ⟨rfl, last, hlast, rfl⟩
  · exact .inl rfl
  · exact .inr ⟨rfl, last, hlast, by simp⟩

/-- A gap over a separator is not blank. -/
theorem not_isChainGap {last : Text} (h : IsSealed last) (seen : Text) :
    isChainGap (seen ++ separator ++ last.reverse) = false := by
  have hreverse : (seen ++ separator ++ last.reverse).reverse =
      last ++ '\n' :: ';' :: '\n' :: seen.reverse := by
    simp [separator]
  rw [isChainGap, hreverse]
  exact not_blank_of_semicolon h _

/-- **A call counts behind a separator exactly when it counts in the text by itself.** -/
theorem GapsAgree.countsFor_eq {seen : Text} {gap wide : Option Text} (h : GapsAgree seen gap wide)
    (receiver : Option Text) (before : Text) :
    countsFor receiver (seen ++ separator ++ before) wide = countsFor receiver seen gap := by
  cases receiver with
  | none => rfl
  | some receiver =>
      have hchain : (wide.map isChainGap).getD false = (gap.map isChainGap).getD false := by
        rcases h with rfl | ⟨rfl, last, hlast, rfl⟩
        · rfl
        · simpa using not_isChainGap hlast seen
      rw [countsFor, countsFor, hchain, List.append_assoc,
        (stops_separator before).endsWithReceiver_eq]

/-- **The scan of lexemes behind a separator** gives the calls that it gives without anything before
them. -/
theorem tokensFrom_behind (receiver : Option Text) (before seen : Text) (gap : Option Text)
    (lexemes : List Lexeme) : ∀ wide, GapsAgree seen gap wide →
      (tokensFrom receiver (seen ++ separator ++ before) wide lexemes).tokens =
        (tokensFrom receiver seen gap lexemes).tokens := by
  fun_induction tokensFrom receiver seen gap lexemes with
  | case1 seen gap =>
      intro wide _
      rw [tokensFrom]
  | case2 seen gap text rest =>
      intro wide _
      rw [tokensFrom]
  | case3 seen gap text rest ih =>
      intro wide h
      rw [tokensFrom]
      simpa using ih _ (by simpa using h.append text.reverse)
  | case4 seen gap text rest ih =>
      intro wide h
      rw [tokensFrom]
      simpa using ih _ (by simpa using h.append text.reverse)
  | case5 seen gap c rest hnone ih =>
      intro wide h
      have hpass : callAt? receiver (seen ++ separator ++ before) wide c rest = none := by
        rw [callAt?, h.countsFor_eq]
        exact hnone
      rw [tokensFrom_pass hpass]
      exact ih _ (h.append [c])
  | case6 seen gap c rest verb inner hcall start fault hclose =>
      intro wide h
      obtain ⟨rfl, hverb, hcounts⟩ := callAt?_eq_some_iff.1 hcall
      rw [tokensFrom_unclosed hverb ((h.countsFor_eq receiver before).trans hcounts)]
      intro inside behind hcloses
      cases hclose.symm.trans (hcloses start start)
  | case7 seen gap c rest verb inner hcall start inside behind hclose call ih =>
      intro wide h
      obtain ⟨rfl, hverb, hcounts⟩ := callAt?_eq_some_iff.1 hcall
      have hcloses : Closes 0 inner inside behind := by
        have hinner := append_of_splitAtCloser hclose
        rw [← hinner]
        exact closes_of_splitAtCloser hclose behind
      rw [tokensFrom_call hverb ((h.countsFor_eq receiver before).trans hcounts) hcloses]
      show _ :: _ = _ :: _
      -- behind a call the gap is the same in both scans
      rw [← ih (some []) (.inl rfl)]
      simp [call]

/-! ## Comments -/

theorem cut?_append_self {body : Text} (h : ¬ ['*', '/'] <:+: body) (rest : Text) :
    cut? ['*', '/'] (body ++ ['*', '/'] ++ rest) = some (body, rest) := by
  induction body with
  | nil => rfl
  | cons c body ih =>
      have hbody : ¬ ['*', '/'] <:+: body := fun hin => h (List.infix_cons hin)
      -- the mark does not start here: two characters of the body are no mark, nor are its last one
      -- and the star behind it
      have hstart : dropStart? ['*', '/'] (c :: (body ++ ['*', '/'] ++ rest)) = none := by
        by_cases hc : '*' = c
        · subst hc
          cases body with
          | nil => rfl
          | cons d body =>
              have hd : '/' ≠ d := by
                rintro rfl
                exact h ⟨[], body, rfl⟩
              simp [dropStart?, hd]
        · simp [dropStart?, hc]
      rw [List.cons_append, List.cons_append, cut?, hstart, ih hbody]
      rfl

/-- A comment is one lexeme, and it is no open block comment. -/
theorem IsComment.lex_eq {text : Text} (h : IsComment text) :
    lex text = [.comment text] ∧ (Lexeme.comment text).isOpenBlock = false := by
  rcases h with ⟨line, hline, rfl⟩ | ⟨body, hbody, rfl⟩
  · have hall : ∀ c ∈ line, (decide (c ≠ '\n')) = true := by
      intro c hc
      rw [decide_eq_true_iff]
      rintro rfl
      exact hline hc
    have htake : line.takeWhile (· ≠ '\n') = line := List.takeWhile_eq_self_iff.2 hall
    have hdrop : line.dropWhile (· ≠ '\n') = [] := List.dropWhile_eq_nil_iff.2 hall
    refine ⟨?_, rfl⟩
    rw [lex_cons, Reads.line.next_eq, hdrop, htake, lex]
  · have hcut : cut? ['*', '/'] (body ++ ['*', '/']) = some (body, []) := by
      simpa using cut?_append_self hbody []
    refine ⟨?_, ?_⟩
    · rw [lex_cons, (Reads.block hcut).next_eq, lex]
    · simp [Lexeme.isOpenBlock, occurs, hcut]

/-- **A comment has no calls**, and the scan goes to its end. -/
theorem IsComment.tokens_eq {text : Text} (h : IsComment text) (receiver : Option Text) :
    tokens text receiver = { tokens := [], halt := none } := by
  rw [tokens, h.lex_eq.1, tokensFrom, tokensFrom]

theorem IsComment.isWhole {text : Text} (h : IsComment text) (receiver : Option Text) :
    IsWhole receiver text := by
  obtain ⟨hlex, hclosed⟩ := h.lex_eq
  refine ⟨?_, ?_⟩
  · rw [h.tokens_eq]
  · rw [endsInBlock, hlex]
    simpa using hclosed

/-! ## Statements put together -/

/-- The calls of a whole text, a separator and any text are those of the two texts. -/
theorem tokens_append_separator {receiver : Option Text} {front : Text} (h : IsWhole receiver front)
    (back : Text) :
    (tokens (front ++ separator ++ back) receiver).tokens =
      (tokens front receiver).tokens ++ (tokens back receiver).tokens := by
  have hsealed := h.isSealed
  obtain ⟨gap, hgap, hjoin⟩ := tokensFrom_separator h.1 (lex back)
  rw [raw_lex, tokensFrom_codes (by decide)] at hjoin
  -- what is carried over the separator is nothing, or a gap that starts in the first text
  have hagree : GapsAgree [] none (gap.map (separator.reverse ++ ·)) := by
    rcases hgap with rfl | ⟨last, hlast, rfl⟩
    · exact .inl rfl
    · exact .inr ⟨rfl, raw last, isSealed_raw_of_suffix hsealed hlast, rfl⟩
  have hback := tokensFrom_behind receiver (front.reverse ++ []) [] none (lex back) _ hagree
  rw [tokens, lex_separator hsealed, hjoin, tokens, tokens, ← hback]
  rfl

/-- **Statements that stand apart are scanned apart.** The calls of texts with separators between them
are those of the texts, in order, and a comment has none; so a comment in the place of a statement
leaves the calls of the other statements. -/
theorem tokens_joined (receiver : Option Text) :
    (∀ front back, IsWhole receiver front →
        (tokens (front ++ separator ++ back) receiver).tokens =
          (tokens front receiver).tokens ++ (tokens back receiver).tokens) ∧
      (∀ comment, IsComment comment → (tokens comment receiver).tokens = []) ∧
      ∀ front statement comment back, IsWhole receiver front → IsWhole receiver statement →
        IsComment comment →
        (tokens (front ++ separator ++ (statement ++ separator ++ back)) receiver).tokens =
            (tokens front receiver).tokens ++
              ((tokens statement receiver).tokens ++ (tokens back receiver).tokens) ∧
          (tokens (front ++ separator ++ (comment ++ separator ++ back)) receiver).tokens =
            (tokens front receiver).tokens ++ (tokens back receiver).tokens := by
  refine ⟨fun front back hfront => tokens_append_separator hfront back, ?_, ?_⟩
  · intro comment hcomment
    rw [hcomment.tokens_eq]
  · intro front statement comment back hfront hstatement hcomment
    constructor
    · rw [tokens_append_separator hfront, tokens_append_separator hstatement]
    · rw [tokens_append_separator hfront, tokens_append_separator (hcomment.isWhole receiver),
        hcomment.tokens_eq, List.nil_append]

/-- A route with a note, one that is commented out, and one behind a call that would be chained onto the
first route if nothing stood between them. -/
theorem users_joined :
    IsWhole (some "users".toList) "users.get('/', list) // @summary All".toList ∧
      IsComment "/* users.patch('/', change) */".toList ∧
      (tokens ("users.get('/', list) // @summary All".toList ++ separator ++
          ("/* users.patch('/', change) */".toList ++ separator ++
            ".put('/', add)\nusers.post('/', add)".toList)) (some "users".toList)).tokens =
        [{ verb := .get, arguments := "'/', list".toList, note := some "All".toList },
          { verb := .post, arguments := "'/', add".toList, note := none }] := by
  have hfront : IsWhole (some "users".toList) "users.get('/', list) // @summary All".toList := by
    constructor
    · decide +kernel
    · decide +kernel
  have hcomment : IsComment "/* users.patch('/', change) */".toList := by
    refine .inr ⟨" users.patch('/', change) ".toList, ?_, by decide⟩
    intro hmark
    exact absurd (hmark.subset List.mem_cons_self) (by decide)
  refine ⟨hfront, hcomment, ?_⟩
  rw [((tokens_joined (some "users".toList)).2.2 _ _ _ _ hfront hfront hcomment).2]
  decide +kernel

end RouteAtlas.Route
