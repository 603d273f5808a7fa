import RouteAtlas.Proofs.Route.Ownership

/-!
# Where chaining is decided

A call counts as chained onto the one before it when the text between the two is blank without its
comments. The comments are taken out of that text without regard to literals, while the scan that comes to
the dot of the call skips literals first. Both cut the text in the same way: it is blank without its
comments exactly if each of its characters is a blank or lies in a comment that is skipped on the way
(`isChainGap_iff`). `ScanAt` lists the places where the scan for calls stands, `ScanAt.exists_found` says
what the extraction has done there, and `chained_iff_onlyBlanksAndComments` puts the two together.
-/

set_option autoImplicit false

namespace RouteAtlas.Route

open Text Source

/-! ## Blanks and comments on the way to a dot -/

/-- An offset lies in a comment that is skipped when a text is scanned from another offset on. -/
def InComment (span : Text) (start offset : Nat) : Prop :=
  ∃ mark behind : Nat, Reached span start mark ∧ span[mark]? = some '/' ∧
    standingFromStart span mark = .skipped behind ∧ mark ≤ offset ∧ offset < behind

/-- Every character from an offset on up to another one is a blank or lies in a comment that is skipped when
the text is scanned from the first one on. -/
def OnlyBlanksAndComments (span : Text) (start stop : Nat) : Prop :=
  ∀ offset c, start ≤ offset → offset < stop → span[offset]? = some c →
    isBlank c = true ∨ InComment span start offset

section

variable {span : Text} {start : Nat} {done rest : List Lexeme}

/-- The first character of what is left of a text. -/
theorem head?_of_lex {lexeme : Lexeme} (hlex : lex (span.drop start) = done ++ lexeme :: rest) :
    span[start + (raw done).length]? = (lexeme.raw ++ raw rest).head? := by
  rw [← List.head?_drop, drop_of_lex hlex, raw_cons]

theorem head?_of_start {lexeme : Lexeme} (hlex : lex (span.drop start) = lexeme :: rest) :
    span[start]? = (lexeme.raw ++ raw rest).head? :=
  @head?_of_lex span start [] rest lexeme hlex

/-- A lexeme that is not a code character starts with the mark of its kind. -/
theorem exists_opening {text : Text} {lexeme : Lexeme} (h : lex text = lexeme :: rest) :
    (∀ inner, lexeme = .literal inner → ∃ c body, inner = c :: body ∧ isQuote c = true) ∧
      (∀ inner, lexeme = .comment inner → ∃ body, inner = '/' :: body ∧
        (rest ≠ [] → (Lexeme.comment inner).isOpenBlock = false)) := by
  cases text with
  | nil =>
      rw [lex] at h
      cases h
  | cons c text =>
      rw [lex_cons] at h
      obtain ⟨hfirst, hrest⟩ := List.cons.inj h
      have hreads := reads_next c text
      rw [hfirst] at hreads
      generalize (next c text).2 = behind at hreads hrest
      cases hreads with
      | plain => simp
      | slash => simp
      | broken => simp
      | literal hquote => simpa using hquote
      | line => simp [Lexeme.isOpenBlock]
      | block hcut => simp [isOpenBlock_of_cut? hcut]
      | openBlock hcut =>
          -- nothing stands behind a block comment that is never closed
          rw [lex] at hrest
          simp [← hrest]

/-- The comments that are skipped are the comments among the lexemes. -/
theorem inComment_iff {offset : Nat} :
    InComment span start offset ↔ ∃ done inner rest, lex (span.drop start) = done ++ .comment inner :: rest ∧
      Unbroken done ∧ start + (raw done).length ≤ offset ∧
        offset < start + (raw done).length + inner.length := by
  constructor
  · rintro ⟨mark, behind, hreached, hslash, hskipped, hfrom, hto⟩
    obtain ⟨done, rest, hlex, hdone, rfl⟩ := reached_iff_between.1 hreached
    cases rest with
    | nil =>
        rw [standingFromStart_outside (lex_drop hlex)] at hskipped
        cases hskipped
    | cons lexeme rest =>
        rw [standingFromStart_eq (lex_drop hlex)] at hskipped
        cases lexeme with
        | code c => cases hskipped
        | broken inner => cases hskipped
        | comment inner =>
            cases hskipped
            exact ⟨done, inner, rest, hlex, hdone, hfrom, hto⟩
        | literal inner =>
            -- a literal starts with a quote
            obtain ⟨c, body, rfl, hquote⟩ := (exists_opening (lex_drop hlex)).1 inner rfl
            rw [head?_of_lex hlex] at hslash
            cases hslash
            cases hquote
  · rintro ⟨done, inner, rest, hlex, hdone, hfrom, hto⟩
    refine ⟨_, _, reached_iff_between.2 ⟨done, _, hlex, hdone, rfl⟩, ?_, standingFromStart_eq (lex_drop hlex),
      hfrom, hto⟩
    obtain ⟨body, rfl, -⟩ := (exists_opening (lex_drop hlex)).2 inner rfl
    rw [head?_of_lex hlex]
    rfl

/-- The comment in which an offset lies is the lexeme in which it lies. -/
theorem eq_comment_of_inComment {offset : Nat} {lexeme : Lexeme}
    (hlex : lex (span.drop start) = done ++ lexeme :: rest) (hfrom : start + (raw done).length ≤ offset)
    (hto : offset < start + (raw done).length + lexeme.raw.length) (h : InComment span start offset) :
    ∃ inner, lexeme = .comment inner := by
  obtain ⟨others, inner, behind, hother, -, hcommentFrom, hcommentTo⟩ := inComment_iff.1 h
  refine ⟨inner, @lexeme_unique _ _ _ _ _ _ (offset - start) (hlex.symm.trans hother) ?_ ?_ ?_ ?_⟩
  · omega
  · omega
  · omega
  · simp only [Lexeme.raw]
    omega

/-- Where each lexeme that is passed is a blank or a comment, only blanks and comments are passed. -/
theorem onlyBlanksAndComments_of_isOf (hlex : lex (span.drop start) = done ++ rest) (hdone : Unbroken done)
    (h : ∀ lexeme ∈ done, lexeme.isOf isBlank = true) :
    OnlyBlanksAndComments span start (start + (raw done).length) := by
  intro offset c hfrom hto hc
  obtain ⟨before, lexeme, behind, rfl, hbefore, hbehind⟩ :=
    @exists_lexeme done (offset - start) (by omega)
  have hlexeme := h lexeme (by simp)
  rw [List.append_assoc] at hlex
  cases lexeme with
  | code d =>
      have hoffset : offset = start + (raw before).length := by
        simp only [Lexeme.raw, List.length_singleton] at hbehind
        omega
      rw [hoffset, head?_of_lex hlex] at hc
      cases hc
      exact .inl hlexeme
  | comment inner =>
      refine .inr (inComment_iff.2 ⟨before, inner, _, hlex, (unbroken_append.1 hdone).1, by omega, ?_⟩)
      simp only [Lexeme.raw] at hbehind
      omega
  | literal inner => cases hlexeme
  | broken inner => cases hlexeme

/-- A lexeme that is passed among blanks and comments is a blank, or a comment that is closed, since something
stands behind it. -/
theorem isOf_of_onlyBlanksAndComments {lexeme next : Lexeme} {behind : List Lexeme} {stop : Nat}
    (hlex : lex (span.drop start) = done ++ lexeme :: next :: behind) (hwhole : lexeme.isBroken = false)
    (hstop : start + (raw done).length + lexeme.raw.length ≤ stop)
    (h : OnlyBlanksAndComments span start stop) : lexeme.isOf isBlank = true := by
  have hhead := head?_of_lex hlex
  -- the first character of a lexeme that is no comment lies in no comment either
  have hfirst : ∀ c inner, lexeme.raw = c :: inner → (∀ text, lexeme ≠ .comment text) →
      isBlank c = true := by
    intro c inner hraw hnone
    rw [hraw] at hhead
    have hpositive : 0 < lexeme.raw.length := by
      rw [hraw]
      exact Nat.succ_pos _
    rcases h _ c (Nat.le_add_right _ _) (by omega) hhead with hc | hcomment
    · exact hc
    · obtain ⟨text, rfl⟩ := eq_comment_of_inComment hlex (Nat.le_refl _) (by omega) hcomment
      exact absurd rfl (hnone text)
  cases lexeme with
  | code c => exact hfirst c [] rfl (by simp)
  | comment inner =>
      obtain ⟨-, -, hclosed⟩ := (exists_opening (lex_drop hlex)).2 inner rfl
      simp [Lexeme.isOf, hclosed]
  | literal inner =>
      obtain ⟨c, body, rfl, hquote⟩ := (exists_opening (lex_drop hlex)).1 inner rfl
      cases (isBlank_of_isQuote hquote).symm.trans (hfirst c body rfl (by simp))
  | broken inner => cases hwhole

/-- **The text before a code position is blank without its comments exactly if only blanks and comments are
passed** on the way to the position, whatever stands in the comments. -/
theorem isChainGap_iff {stop : Nat} {c : Char} (h : CodeAt span start stop c) :
    isChainGap (stretch span start stop).reverse = true ↔ OnlyBlanksAndComments span start stop := by
  obtain ⟨done, rest, hlex, hdone, rfl⟩ := codeAt_iff.1 h
  -- read by itself the text has the lexemes that are passed
  have hgap : lex (stretch span start (start + (raw done).length)) = done := by
    rw [stretch, take_drop_of_lex hlex]
    exact lex_raw_of_prefix ⟨_, hlex.symm⟩
  rw [isChainGap, List.reverse_reverse, isBlankText_withoutComments_iff, hgap]
  refine ⟨onlyBlanksAndComments_of_isOf hlex hdone, fun honly lexeme hmem => ?_⟩
  obtain ⟨before, behind, rfl⟩ := List.append_of_mem hmem
  obtain ⟨next, others, hnext⟩ : ∃ next others, behind ++ .code c :: rest = next :: others :=
    List.exists_cons_of_ne_nil (by simp)
  rw [List.append_assoc, List.cons_append, hnext] at hlex
  refine isOf_of_onlyBlanksAndComments hlex (hdone lexeme hmem) ?_ honly
  rw [raw_append, raw_cons, List.length_append, List.length_append]
  omega

end

/-! ## The scan for calls -/

/-- The text since the last call up to an offset, in reverse, when there was a call. -/
def gapAt (span : Text) (ended : Option Nat) (offset : Nat) : Option Text :=
  ended.map fun stop => (stretch span stop offset).reverse

/-- The scan for calls stands at an offset, and the last call that counted, if any, ended before another
one. -/
inductive ScanAt (receiver : Option Text) (span : Text) : Nat → Option Nat → Prop where
  | start : ScanAt receiver span 0 none
  | skip {offset behind : Nat} {ended : Option Nat} : ScanAt receiver span offset ended →
      standingFromStart span offset = .skipped behind → ScanAt receiver span behind ended
  | pass {offset : Nat} {ended : Option Nat} {c : Char} : ScanAt receiver span offset ended →
      standingFromStart span offset = .code → span[offset]? = some c →
      callAt? receiver (span.take offset).reverse (gapAt span ended offset) c
        (lex (span.drop (offset + 1))) = none →
      ScanAt receiver span (offset + 1) ended
  | call {dot stop : Nat} {ended : Option Nat} {verb : Verb} {arguments : Text} :
      ScanAt receiver span dot ended → IsCall span verb.name.toList dot arguments stop →
      countsFor receiver (span.take dot).reverse (gapAt span ended dot) = true →
      ScanAt receiver span stop (some stop)

/-- What the extraction holds at an offset: the text before it, the gap since the last call and the lexemes
that are left. -/
structure Holds (span : Text) (offset : Nat) (ended : Option Nat) (seen : Text) (gap : Option Text)
    (rest : List Lexeme) : Prop where
  between : Between span 0 offset
  ended_le : ∀ stop ∈ ended, stop ≤ offset
  seen_eq : seen = (span.take offset).reverse
  gap_eq : gap = gapAt span ended offset
  rest_eq : lex (span.drop offset) = rest

/-- The extraction has found the given calls when its scan stands at an offset: the last of them ends at the
offset that is kept, and what else is found is found from there on. -/
def HasFound (receiver : Option Text) (span : Text) (offset : Nat) (ended : Option Nat)
    (found : List Token) : Prop :=
  (∀ stop ∈ ended, ∃ before token dot, found = before ++ [token] ∧
    IsCall span token.verb.name.toList dot token.arguments stop) ∧
  (tokens span receiver).tokens = found ++ (tokensFrom receiver (span.take offset).reverse
    (gapAt span ended offset) (lex (span.drop offset))).tokens

section

variable {receiver : Option Text} {span seen : Text} {offset : Nat} {ended : Option Nat}
  {gap : Option Text} {rest : List Lexeme}

theorem holds_start (span : Text) : Holds span 0 none [] none (lex span) :=
  ⟨⟨[], _, rfl, by simp [Unbroken], rfl⟩, by simp, rfl, rfl, rfl⟩

/-- What is held grows by a lexeme that is passed. -/
theorem Holds.next {lexeme : Lexeme} (h : Holds span offset ended seen gap (lexeme :: rest))
    (hwhole : lexeme.isBroken = false) :
    Holds span (offset + lexeme.raw.length) ended (lexeme.raw.reverse ++ seen)
      (gap.map (lexeme.raw.reverse ++ ·)) rest := by
  obtain ⟨hbetween, hended, rfl, rfl, hrest⟩ := h
  have hraw : raw [lexeme] = lexeme.raw := List.append_nil _
  have hsingle : lex (span.drop offset) = [lexeme] ++ rest := hrest
  have hread : stretch span offset (offset + lexeme.raw.length) = lexeme.raw := by
    rw [← hraw]
    exact take_drop_of_lex hsingle
  refine ⟨?_, fun stop hstop => (hended stop hstop).trans (Nat.le_add_right _ _), ?_, ?_, ?_⟩
  · exact reached_iff_between.1 ((reached_iff_between.2 hbetween).next hrest hwhole)
  · rw [← List.reverse_append, List.take_add, ← raw_lex (span.drop offset), hrest, raw_cons, List.take_left]
  · cases ended with
    | none => rfl
    | some stop =>
        simp only [gapAt, Option.map_some]
        rw [stretch_append (hended stop rfl) (Nat.le_add_right _ _), hread, List.reverse_append]
  · rw [← hraw]
    exact lex_drop hsingle

/-- A call among the lexemes that are left: where it is, and what is held behind it. -/
theorem Holds.call {verb : Verb} {head : Text} {inside behind : List Lexeme}
    (h : Holds span offset ended seen gap (.code '.' :: (callLexemes head inside ++ behind)))
    (hhead : Spells verb head) (hinside : Levels .round 0 inside) {stop : Nat}
    (hstop : stop = offset + (raw (.code '.' :: callLexemes head inside)).length) :
    IsCall span verb.name.toList offset (raw inside) stop ∧
      Holds span stop (some stop) ((raw (callLexemes head inside)).reverse ++ '.' :: seen) (some [])
        behind := by
  obtain ⟨⟨done, rest, hlex, hdone, rfl⟩, -, rfl, -, hrest⟩ := h
  obtain rfl : rest = .code '.' :: (callLexemes head inside ++ behind) := (lex_drop hlex).symm.trans hrest
  have hspan : lex span = (done ++ .code '.' :: callLexemes head inside) ++ behind := by
    rw [List.append_assoc]
    exact hlex
  have htake : span.take (0 + (raw done).length) = raw done := by
    rw [Nat.zero_add]
    exact take_of_lex hlex
  obtain rfl : stop = (raw (done ++ .code '.' :: callLexemes head inside)).length := by
    rw [hstop, raw_append, List.length_append, Nat.zero_add]
  refine ⟨?_, ⟨_, behind, hspan, unbroken_call hdone hinside.whole head, (Nat.zero_add _).symm⟩, ?_, ?_, ?_,
    ?_⟩
  · rw [Nat.zero_add]
    exact isCall_of_lexemes hspan hdone hhead hinside
  · simp
  · rw [take_of_lex hspan, htake]
    simp [raw_append, raw_cons, Lexeme.raw]
  · simp [gapAt, stretch]
  · simpa using @lex_drop _ 0 _ _ hspan

/-- What is found from an offset on is found from a later one on, if the extraction finds nothing between. -/
theorem HasFound.next {found : List Token} {behind : Nat} (h : HasFound receiver span offset ended found)
    (hnext : Holds span behind ended seen gap rest)
    (hsame : tokensFrom receiver (span.take offset).reverse (gapAt span ended offset)
      (lex (span.drop offset)) = tokensFrom receiver seen gap rest) :
    HasFound receiver span behind ended found := by
  refine ⟨h.1, ?_⟩
  rw [h.2, hsame, ← hnext.seen_eq, ← hnext.gap_eq, hnext.rest_eq]

/-- The lexemes of a closed call where its dot stands. -/
theorem IsCall.lex_drop {verb : Verb} {arguments : Text} {dot stop : Nat}
    (h : IsCall span verb.name.toList dot arguments stop) : ∃ head inside behind,
      lex (span.drop dot) = .code '.' :: (callLexemes head inside ++ behind) ∧ Spells verb head ∧
        Levels .round 0 inside ∧ arguments = raw inside ∧
        stop = dot + (raw (.code '.' :: callLexemes head inside)).length := by
  obtain ⟨done, head, inside, behind, hlex, hhead, hlevels, rfl, rfl, rfl⟩ :=
    h.exists_lexemes (verb_mem_callNames verb)
  rw [List.append_assoc] at hlex
  refine ⟨head, inside, behind, ?_, hhead, hlevels, rfl, by rw [raw_append, List.length_append]⟩
  simpa using @Source.lex_drop _ 0 _ _ hlex

/-- A closed call that counts is found by the extraction that comes to its dot, which goes on behind it. -/
theorem tokensFrom_callLexemes {verb : Verb} {head : Text} {inside behind : List Lexeme}
    (hhead : Spells verb head) (hinside : Levels .round 0 inside)
    (hcounts : countsFor receiver seen gap = true) :
    tokensFrom receiver seen gap (.code '.' :: (callLexemes head inside ++ behind)) =
      (tokensFrom receiver ((raw (callLexemes head inside)).reverse ++ '.' :: seen) (some []) behind).cons
        { verb := verb, arguments := raw inside, note := note? behind } := by
  have hrest : callLexemes head inside ++ behind =
      codes head ++ .code '(' :: (inside ++ .code ')' :: behind) := by
    simp [callLexemes]
  have hverb : verbAt? (callLexemes head inside ++ behind) = some (verb, inside ++ .code ')' :: behind) :=
    verbAt?_eq_some_iff.2 ⟨head, hhead, hrest⟩
  have hcloses : Closes 0 (inside ++ .code ')' :: behind) inside behind := fun start offset =>
    splitAtCloser_eq_ok_iff.2 ⟨rfl, hinside⟩
  rw [tokensFrom_call hverb hcounts hcloses, List.length_append, Nat.add_sub_cancel, List.take_left]

/-- The lexeme at an offset, and what the scan does with it. -/
theorem Holds.skip (h : Holds span offset ended seen gap rest) {behind : Nat}
    (hskipped : standingFromStart span offset = .skipped behind) : ∃ seen' gap' rest',
      Holds span behind ended seen' gap' rest' ∧
        tokensFrom receiver seen gap rest = tokensFrom receiver seen' gap' rest' := by
  cases rest with
  | nil =>
      rw [standingFromStart_outside h.rest_eq] at hskipped
      cases hskipped
  | cons lexeme rest =>
      rw [standingFromStart_eq h.rest_eq] at hskipped
      cases lexeme with
      | code c => cases hskipped
      | broken inner => cases hskipped
      | literal inner =>
          cases hskipped
          exact ⟨_, _, _, h.next rfl, by rw [tokensFrom]; rfl⟩
      | comment inner =>
          cases hskipped
          exact ⟨_, _, _, h.next rfl, by rw [tokensFrom]; rfl⟩

/-- A code character at which no call counts is passed. -/
theorem Holds.pass (h : Holds span offset ended seen gap rest) {c : Char}
    (hcode : standingFromStart span offset = .code) (hc : span[offset]? = some c)
    (hnone : callAt? receiver seen gap c (lex (span.drop (offset + 1))) = none) : ∃ seen' gap' rest',
      Holds span (offset + 1) ended seen' gap' rest' ∧
        tokensFrom receiver seen gap rest = tokensFrom receiver seen' gap' rest' := by
  cases rest with
  | nil =>
      rw [standingFromStart_outside h.rest_eq] at hcode
      cases hcode
  | cons lexeme rest =>
      rw [standingFromStart_eq h.rest_eq] at hcode
      cases lexeme with
      | code d =>
          obtain rfl : c = d := Option.some.inj (hc.symm.trans (head?_of_start h.rest_eq))
          have hnext := h.next rfl
          refine ⟨_, _, _, hnext, tokensFrom_pass ?_⟩
          rw [← hnext.rest_eq]
          exact hnone
      | _ => cases hcode

/-- What is held at an offset is read off the text. -/
theorem Holds.read (h : Holds span offset ended seen gap rest) :
    Holds span offset ended (span.take offset).reverse (gapAt span ended offset) (lex (span.drop offset)) :=
  ⟨h.between, h.ended_le, rfl, rfl, rfl⟩

/-- **Where the scan stands, the extraction holds the text before, the gap since the last call and the lexemes
that are left, and has found the calls up to the last one.** -/
theorem ScanAt.holds (h : ScanAt receiver span offset ended) :
    Holds span offset ended (span.take offset).reverse (gapAt span ended offset) (lex (span.drop offset)) ∧
      ∃ found, HasFound receiver span offset ended found := by
  induction h with
  | start => exact ⟨holds_start span, [], by simp, rfl⟩
  | skip _ hskipped ih =>
      obtain ⟨hholds, found, hfound⟩ := ih
      obtain ⟨_, _, _, hnext, hsame⟩ := @Holds.skip receiver _ _ _ _ _ _ hholds _ hskipped
      exact ⟨hnext.read, found, hfound.next hnext hsame⟩
  | pass _ hcode hc hnone ih =>
      obtain ⟨hholds, found, hfound⟩ := ih
      obtain ⟨_, _, _, hnext, hsame⟩ := hholds.pass hcode hc hnone
      exact ⟨hnext.read, found, hfound.next hnext hsame⟩
  | @call dot stop _ verb _ _ hcall hcounts ih =>
      obtain ⟨hholds, found, -, hfound⟩ := ih
      obtain ⟨head, inside, behind, hlex, hhead, hlevels, rfl, hstop⟩ := hcall.lex_drop
      rw [hlex] at hholds hfound
      obtain ⟨-, hnext⟩ := hholds.call hhead hlevels hstop
      refine ⟨hnext.read, found ++ [{ verb := verb, arguments := raw inside, note := note? behind }], ?_, ?_⟩
      · intro _ heq
        cases heq
        exact ⟨found, _, dot, rfl, hcall⟩
      · rw [hfound, tokensFrom_callLexemes hhead hlevels hcounts, ← hnext.seen_eq, ← hnext.gap_eq,
          hnext.rest_eq]
        simp [Extraction.cons]

/-- What is found from a place of the scan on is found at places of the scan. -/
theorem ScanAt.exists_of_mem_tokensFrom (hscan : ScanAt receiver span offset ended)
    (hholds : Holds span offset ended seen gap rest) :
    ∀ token ∈ (tokensFrom receiver seen gap rest).tokens, ∃ dot ended stop,
      ScanAt receiver span dot ended ∧ IsCall span token.verb.name.toList dot token.arguments stop ∧
        countsFor receiver (span.take dot).reverse (gapAt span ended dot) = true := by
  -- along the scan: what is passed leads to the next place, and a call that counts to the place behind it
  fun_induction tokensFrom receiver seen gap rest generalizing offset ended with
  | case1 => simp
  | case2 => simp
  | case3 seen gap text rest ih =>
      simp only [List.unattach_reverse, List.unattach_attach] at ih
      simpa using ih (hscan.skip (standingFromStart_eq hholds.rest_eq)) (hholds.next rfl)
  | case4 seen gap text rest ih =>
      simp only [List.unattach_reverse, List.unattach_attach] at ih
      simpa using ih (hscan.skip (standingFromStart_eq hholds.rest_eq)) (hholds.next rfl)
  | case5 seen gap c rest hnone ih =>
      have hnext := hholds.next rfl
      refine ih (hscan.pass (standingFromStart_eq hholds.rest_eq)
        (head?_of_start hholds.rest_eq) ?_) hnext
      rw [← hholds.seen_eq, ← hholds.gap_eq]
      exact hnext.rest_eq ▸ hnone
  | case6 => simp
  | case7 seen gap c rest verb inner hcall start inside behind hclose =>
      rename_i call ih
      obtain ⟨rfl, hcounts, head, hhead, hlevels, hrest, htaken⟩ := scanned_call hcall hclose
      rw [hrest] at hholds
      obtain ⟨hisCall, hnext⟩ := hholds.call hhead hlevels rfl
      rw [hholds.seen_eq, hholds.gap_eq] at hcounts
      intro token htoken
      rcases List.mem_cons.1 htoken with rfl | htoken
      · exact ⟨_, _, _, hscan, hisCall, hcounts⟩
      · have hpassed : call = callLexemes head inside := htaken
        rw [hpassed] at ih htoken
        exact ih (hscan.call hisCall hcounts) hnext token htoken

/-- The scan has stood where the last call ended. -/
theorem ScanAt.at_end (h : ScanAt receiver span offset ended) :
    ∀ stop ∈ ended, ScanAt receiver span stop (some stop) := by
  induction h with
  | start => simp
  | skip _ _ ih => exact ih
  | pass _ _ _ _ ih => exact ih
  | call hscan hcall hcounts ih =>
      intro stop hstop
      cases hstop
      exact hscan.call hcall hcounts

/-- A place behind another one, in code, is a code position for a reader who starts at the first one. -/
theorem ScanAt.codeAt {dot : Nat} {since : Option Nat} {c : Char} (h : ScanAt receiver span offset ended)
    (hdot : ScanAt receiver span dot since) (hle : offset ≤ dot)
    (hcode : standingFromStart span dot = .code) (hc : span[dot]? = some c) : CodeAt span offset dot c := by
  obtain ⟨first, behind, hfirst, -, rfl⟩ := h.holds.1.between
  obtain ⟨second, others, hsecond, hwhole, rfl⟩ := hdot.holds.1.between
  refine ⟨reached_iff_between.2 ?_, hcode, hc⟩
  rw [Nat.zero_add, Nat.zero_add] at hle
  -- the lexemes up to the first place are the first of those up to the second one
  rcases List.prefix_or_prefix_of_prefix ⟨behind, hfirst.symm⟩ ⟨others, hsecond.symm⟩ with
    ⟨middle, rfl⟩ | ⟨middle, rfl⟩
  · rw [List.append_assoc] at hsecond
    refine ⟨middle, others, lex_drop hsecond, (unbroken_append.1 hwhole).2, ?_⟩
    rw [raw_append, List.length_append, Nat.add_assoc]
  · rw [raw_append, List.length_append] at hle ⊢
    refine ⟨[], _, rfl, by simp [Unbroken], ?_⟩
    have hempty : (raw []).length = 0 := rfl
    omega

end

/-- **A verb call is chained onto the call before it exactly if only blanks and comments stand between the
two.** The text between is looked at without its comments, which are taken out without regard to literals;
from any offset to any code position behind it, this leaves blanks exactly if each character is a blank or
lies in a comment that is skipped on the way. Places at which the scan for calls stands are such offsets, a
call that is found is found at one of them, and there the last call before is the last one found. -/
theorem chained_iff_onlyBlanksAndComments (span : Text) :
    (∀ start stop c, CodeAt span start stop c →
      (isBlankText (withoutComments (stretch span start stop)) = true ↔
        OnlyBlanksAndComments span start stop)) ∧
    (∀ receiver ended dot since c, ScanAt receiver span ended (some ended) →
      ScanAt receiver span dot since → ended < dot → standingFromStart span dot = .code →
        span[dot]? = some c → CodeAt span ended dot c) ∧
    (∀ receiver, ∀ token ∈ (tokens span receiver).tokens, ∃ dot ended stop,
      ScanAt receiver span dot ended ∧ IsCall span token.verb.name.toList dot token.arguments stop ∧
        countsFor receiver (span.take dot).reverse (gapAt span ended dot) = true) ∧
    ∀ router ended dot, ScanAt (some router) span dot (some ended) → CodeAt span 0 dot '.' →
      (∃ found, HasFound (some router) span dot (some ended) found) ∧
      (countsFor (some router) (span.take dot).reverse (gapAt span (some ended) dot) = true ↔
        OnlyBlanksAndComments span ended dot ∨ endsWithReceiver router (span.take dot).reverse = true) := by
  have hgap : ∀ start stop c, CodeAt span start stop c →
      (isBlankText (withoutComments (stretch span start stop)) = true ↔
        OnlyBlanksAndComments span start stop) := by
    intro start stop c h
    rw [← isChainGap_iff h, isChainGap, List.reverse_reverse]
  refine ⟨hgap, ?_, ?_, ?_⟩
  · intro receiver ended dot since c hended hdot hlt hcode hc
    exact hended.codeAt hdot (Nat.le_of_lt hlt) hcode hc
  · intro receiver
    exact ScanAt.start.exists_of_mem_tokensFrom (holds_start span)
  · intro router ended dot hscan hdot
    obtain ⟨hholds, hfound⟩ := hscan.holds
    refine ⟨hfound, ?_⟩
    have hcode : CodeAt span ended dot '.' :=
      (hscan.at_end ended rfl).codeAt hscan (hholds.ended_le ended rfl) hdot.code hdot.char
    rw [countsFor, Bool.or_eq_true, ← isChainGap_iff hcode]
    rfl

/-- A line comment with a quote and the mark of a block comment between two calls. -/
theorem commented_call_chained :
    ScanAt (some "r".toList) "r.get()//'/*\n.post()".toList 13 (some 7) ∧
      OnlyBlanksAndComments "r.get()//'/*\n.post()".toList 7 13 ∧
      countsFor (some "r".toList) ("r.get()//'/*\n.post()".toList.take 13).reverse
        (gapAt "r.get()//'/*\n.post()".toList (some 7) 13) = true := by
  have hcall : IsCall "r.get()//'/*\n.post()".toList Verb.get.name.toList 1 [] 7 := by
    refine ⟨by decide +kernel, "get".toList, ")//'/*\n.post()".toList, ⟨[], [], rfl, rfl, rfl⟩, ?_, ?_⟩
    · decide +kernel
    · decide +kernel
  have hdot : CodeAt "r.get()//'/*\n.post()".toList 0 13 '.' := by decide +kernel
  have hfirst : ScanAt (some "r".toList) "r.get()//'/*\n.post()".toList 1 none :=
    ScanAt.start.pass (c := 'r') (by decide +kernel) (by decide +kernel) (by decide +kernel)
  have hcalled : ScanAt (some "r".toList) "r.get()//'/*\n.post()".toList 7 (some 7) :=
    hfirst.call hcall (by decide +kernel)
  have hskipped : ScanAt (some "r".toList) "r.get()//'/*\n.post()".toList 12 (some 7) :=
    hcalled.skip (by decide +kernel)
  have hscan : ScanAt (some "r".toList) "r.get()//'/*\n.post()".toList 13 (some 7) :=
    hskipped.pass (c := '\n') (by decide +kernel) (by decide +kernel) (by decide +kernel)
  obtain ⟨hgap, hplaces, -, hcounts⟩ := chained_iff_onlyBlanksAndComments "r.get()//'/*\n.post()".toList
  have honly : OnlyBlanksAndComments "r.get()//'/*\n.post()".toList 7 13 :=
    (hgap 7 13 '.' (hplaces _ 7 13 _ '.' hcalled hscan (by decide) hdot.code hdot.char)).1
      (by decide +kernel)
  exact ⟨hscan, honly, (hcounts _ 7 13 hscan hdot).2.2 (.inl honly)⟩

end RouteAtlas.Route
