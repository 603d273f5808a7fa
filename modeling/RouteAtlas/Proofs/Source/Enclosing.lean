import RouteAtlas.Proofs.Source.Splitting

/-!
# Closed texts

A text is closed when it is one piece of an argument list and a comma behind it stays outside its
literals and comments. Any other plain character then stays outside as well, a star apart, so a closed
text can be put in brackets. Closed texts with commas between them and brackets around them are closed
again, and the closing bracket is the one that is found for the opening one (`isClosed_enclosed`,
`delimited_closed`).
-/

set_option autoImplicit false

namespace RouteAtlas.Source

open Text

/-! ## What stands behind a closed text -/

/-- A text that is one piece, and stays one with a comma behind it. -/
structure IsClosed (text : Text) : Prop where
  piece : IsPiece (lex text)
  cut : lex (text ++ [',']) = lex text ++ [.code ',']

theorem isClosed_of_arguments {text : Text}
    (h : arguments (text ++ ",x".toList) = .ok [text, "x".toList]) : IsClosed text := by
  obtain ⟨hpiece, hcut⟩ := lex_of_arguments_comma h
  exact ⟨hpiece, by rw [hcut [], lex]⟩

/-- What leaves a comma outside leaves any plain character outside, a star apart: a slash at the end may
go on with the star. -/
theorem lex_append_of_comma {text : Text} (h : lex (text ++ [',']) = lex text ++ [.code ',']) {c : Char}
    (hplain : isPlain c = true) (hstar : c ≠ '*') (more : Text) :
    lex (text ++ c :: more) = lex text ++ .code c :: lex more := by
  fun_induction lex text with
  | case1 => exact lex_cons_plain hplain more
  | case2 first rest ih =>
      have hreads := reads_next first rest
      rw [List.cons_append] at h ⊢
      generalize next first rest = pair at hreads ih h ⊢
      obtain ⟨lexeme, behind⟩ := pair
      -- where the first lexeme stays before both characters, the rest of the text decides
      have pass : Reads first (rest ++ [',']) lexeme (behind ++ [',']) →
          Reads first (rest ++ c :: more) lexeme (behind ++ c :: more) →
          lex (first :: (rest ++ c :: more)) = lexeme :: lex behind ++ .code c :: lex more := by
        intro hcomma hlonger
        rw [lex_cons, hcomma.next_eq, List.cons_append] at h
        rw [lex_cons, hlonger.next_eq, List.cons_append, ih (List.cons.inj h).2]
      cases hreads with
      | plain hfirst => exact pass (.plain hfirst) (.plain hfirst)
      | literal hquote hclose =>
          exact pass (.literal hquote (closeLiteral_append hclose _))
            (.literal hquote (closeLiteral_append hclose _))
      | broken hquote hclose =>
          have hne : ',' ≠ first := by
            rintro rfl
            exact absurd hquote (by decide)
          have hopen := closeLiteral_concat hne (by decide) hclose
          rw [lex_cons, (Reads.broken hquote hopen).next_eq] at h
          simp [lex] at h
      | @line line =>
          by_cases hends : line.dropWhile (· ≠ '\n') = []
          · have hline : ∀ d ∈ line, d ≠ '\n' := fun d hd =>
              of_decide_eq_true (List.dropWhile_eq_nil_iff.1 hends d hd)
            rw [hends, List.cons_append, lex_line_concat (by decide) hline, lex] at h
            simp at h
          · have goes : ∀ tail, Reads '/' ('/' :: line ++ tail)
                (.comment ('/' :: '/' :: line.takeWhile (· ≠ '\n'))) (line.dropWhile (· ≠ '\n') ++ tail) := by
              intro tail
              obtain ⟨htake, hdrop⟩ := @line_append line tail fun hend => absurd hend hends
              rw [← htake, ← hdrop]
              exact .line
            exact pass (goes _) (goes _)
      | block hcut => exact pass (.block (cut?_append (by decide) hcut _)) (.block (cut?_append (by decide) hcut _))
      | openBlock hcut =>
          have hopen := cut?_concat (b := ',') (by decide) hcut
          rw [List.cons_append, lex_cons, (Reads.openBlock hopen).next_eq] at h
          simp [lex] at h
      | slash hslash =>
          refine pass (.slash (head_append_slash hslash fun _ _ d hd => ?_))
            (.slash (head_append_slash hslash fun _ _ d hd => ?_))
          · obtain rfl : ',' = d := by simpa using hd
            decide
          · obtain rfl : c = d := by simpa using hd
            refine ⟨?_, hstar⟩
            rintro rfl
            exact absurd hplain (by decide)

theorem IsClosed.lex_append {text : Text} (h : IsClosed text) {c : Char} (hplain : isPlain c = true)
    (hstar : c ≠ '*') (more : Text) : lex (text ++ c :: more) = lex text ++ .code c :: lex more :=
  lex_append_of_comma h.cut hplain hstar more

theorem isPiece_codes {text : Text} (h : text.all isInner = true) : IsPiece (codes text) := by
  induction text with
  | nil => exact ⟨by simp [Unbroken, codes], .nil, by simp [codes, codeText]⟩
  | cons c text ih =>
      rw [List.all_cons, Bool.and_eq_true] at h
      simp only [isInner, Bool.and_eq_true, Option.isNone_iff_eq_none, bne_iff_ne] at h
      obtain ⟨⟨⟨hopener, hcloser⟩, hcomma⟩, hinner⟩ := h
      have hleads : Leads [] (.code c) [] := .other hopener hcloser fun hc => absurd hc hcomma
      exact isPieceBelow_nil.1
        (isPieceBelow_cons.2 ⟨[], hleads, isPieceBelow_nil.2 (ih (by simpa [isInner] using hinner))⟩)

/-- A closed text that is trimmed is cut off by a comma as an argument. -/
theorem IsClosed.arguments_comma {text : Text} (h : IsClosed text) (htrim : trim text = text) :
    arguments (text ++ ",x".toList) = .ok [text, "x".toList] := by
  have hlex : lex (text ++ ",x".toList) = joined ([lex text] ++ [lex "x".toList]) := by
    rw [List.singleton_append, joined_cons, joined_singleton]
    exact h.lex_append (by decide) (by decide) ['x']
  have hpieces : ∀ piece ∈ [lex text] ++ [lex "x".toList], IsPiece piece := by
    intro piece hpiece
    rcases List.mem_cons.1 hpiece with rfl | hpiece
    · exact h.piece
    · rw [List.mem_singleton.1 hpiece, lex_plain (by decide)]
      exact isPiece_codes (by decide)
  have hlast : (if isBlankText "x".toList then [] else [trim "x".toList]) = ["x".toList] := by decide
  refine arguments_eq_ok_iff.2 ⟨_, _, hlex, hpieces, ?_⟩
  rw [argumentsOf, List.map_singleton, raw_lex, raw_lex, htrim, hlast, List.singleton_append]

/-! ## Pieces put together -/

theorem Leads.append {stack level : List Bracket} {lexeme : Lexeme} (h : Leads stack lexeme level)
    (base : List Bracket) : Leads (stack ++ base) lexeme (level ++ base) := by
  cases h with
  | literal text => exact .literal text
  | comment text => exact .comment text
  | opener bracket => exact .opener bracket
  | closer bracket => exact .closer bracket
  | other hopener hcloser hcomma =>
      exact .other hopener hcloser fun hc hempty => hcomma hc (List.append_eq_nil_iff.1 hempty).1

/-- What closes a stack may stand before what closes the brackets under it. -/
theorem IsPieceBelow.append {stack base : List Bracket} {piece rest : List Lexeme}
    (h : IsPieceBelow stack piece) (hrest : IsPieceBelow base rest) :
    IsPieceBelow (stack ++ base) (piece ++ rest) := by
  induction piece generalizing stack with
  | nil =>
      obtain rfl := nestedBelow_nil.1 h.nested
      exact hrest
  | cons lexeme piece ih =>
      obtain ⟨level, hleads, hpiece⟩ := isPieceBelow_cons.1 h
      exact isPieceBelow_cons.2 ⟨level ++ base, hleads.append base, ih hpiece⟩

/-- Inside brackets the commas between pieces are no outer ones. -/
theorem isPieceBelow_joined {base : List Bracket} (hbase : base ≠ []) {pieces : List (List Lexeme)}
    (h : ∀ piece ∈ pieces, IsPiece piece) {rest : List Lexeme} (hrest : IsPieceBelow base rest) :
    IsPieceBelow base (joined pieces ++ rest) := by
  induction pieces with
  | nil => exact hrest
  | cons piece pieces ih =>
      rw [List.forall_mem_cons] at h
      have hpiece := isPieceBelow_nil.2 h.1
      cases pieces with
      | nil =>
          rw [joined_singleton]
          exact hpiece.append hrest
      | cons next pieces =>
          rw [joined_cons, List.append_assoc, List.cons_append]
          have hcomma : Leads base (.code ',') base := .other rfl rfl fun _ => hbase
          exact hpiece.append (isPieceBelow_cons.2 ⟨base, hcomma, ih h.2⟩)

/-- Pieces with commas between them and brackets around them are one piece. -/
theorem isPiece_enclosed {pieces : List (List Lexeme)} (h : ∀ piece ∈ pieces, IsPiece piece)
    (bracket : Bracket) :
    IsPiece (.code bracket.opener :: (joined pieces ++ [.code bracket.closer])) := by
  have hempty : IsPieceBelow [] [] := isPieceBelow_nil.2 ⟨by simp [Unbroken], .nil, by simp [codeText]⟩
  have hcloser : IsPieceBelow [bracket] [.code bracket.closer] :=
    isPieceBelow_cons.2 ⟨[], .closer bracket, hempty⟩
  have hinside := isPieceBelow_joined (List.cons_ne_nil bracket []) h hcloser
  exact isPieceBelow_nil.1 (isPieceBelow_cons.2 ⟨[bracket], .opener bracket, hinside⟩)

/-! ## Closed texts put together -/

/-- Plain code without brackets and commas may stand before a closed text. -/
theorem IsClosed.prepend {text : Text} (h : IsClosed text) {before : Text}
    (hplain : before.all isPlain = true) (hinner : before.all isInner = true) :
    IsClosed (before ++ text) := by
  refine ⟨?_, ?_⟩
  · rw [lex_append_plain hplain]
    exact isPieceBelow_nil.1
      ((isPieceBelow_nil.2 (isPiece_codes hinner)).append (isPieceBelow_nil.2 h.piece))
  · rw [List.append_assoc, lex_append_plain hplain, lex_append_plain hplain, h.cut, List.append_assoc]

/-- The lexemes of closed texts with commas and blanks between them, whatever plain character is behind
them. -/
theorem exists_lex_join {parts : List Text} (h : ∀ part ∈ parts, IsClosed part) :
    ∃ pieces, (∀ piece ∈ pieces, IsPiece piece) ∧
      ∀ {c : Char}, isPlain c = true → c ≠ '*' → ∀ more,
        lex (join ", ".toList parts ++ c :: more) = joined pieces ++ .code c :: lex more := by
  cases parts with
  | nil => exact ⟨[], by simp, fun hplain _ more => lex_cons_plain hplain more⟩
  | cons part parts =>
      refine ⟨lex part :: parts.map fun part => .code ' ' :: lex part, ?_, fun hplain hstar more => ?_⟩
      · intro piece hpiece
        rcases List.mem_cons.1 hpiece with rfl | hpiece
        · exact (h part List.mem_cons_self).piece
        · obtain ⟨later, hlater, rfl⟩ := List.mem_map.1 hpiece
          exact (h later (List.mem_cons_of_mem _ hlater)).piece.blank_cons (by decide)
      · induction parts generalizing part with
        | nil =>
            rw [join, List.map_nil, joined_singleton]
            exact (h part List.mem_cons_self).lex_append hplain hstar more
        | cons next parts ih =>
            rw [List.forall_mem_cons] at h
            rw [join_comma, List.append_assoc, List.cons_append, List.cons_append,
              h.1.lex_append (by decide) (by decide), lex_cons_plain (by decide), ih next h.2,
              List.map_cons, joined_cons, joined_cons_cons, List.append_assoc, List.cons_append,
              List.cons_append]

/-- **Closed texts with commas between them and brackets around them are closed.** -/
theorem isClosed_enclosed {parts : List Text} (h : ∀ part ∈ parts, IsClosed part) (bracket : Bracket) :
    IsClosed (bracket.opener :: (join ", ".toList parts ++ [bracket.closer])) := by
  have hopener : isPlain bracket.opener = true := by cases bracket <;> decide
  have hcloser : isPlain bracket.closer = true := by cases bracket <;> decide
  have hstar : bracket.closer ≠ '*' := by cases bracket <;> decide
  obtain ⟨pieces, hpieces, hlex⟩ := exists_lex_join h
  have hwhole : ∀ more, lex (bracket.opener :: (join ", ".toList parts ++ bracket.closer :: more)) =
      .code bracket.opener :: (joined pieces ++ .code bracket.closer :: lex more) := by
    intro more
    rw [lex_cons_plain hopener, hlex hcloser hstar]
  refine ⟨?_, ?_⟩
  · rw [hwhole, lex]
    exact isPiece_enclosed hpieces bracket
  · rw [hwhole, List.cons_append, List.append_assoc, List.singleton_append, hwhole, lex_plain (by decide)]
    simp [codes, lex]

/-! ## Brackets around a closed text -/

/-- A lexeme opens and closes as many brackets of a kind as its stacks tell. -/
theorem Leads.count {stack level : List Bracket} {lexeme : Lexeme} (h : Leads stack lexeme level)
    (bracket : Bracket) :
    stack.count bracket + (codeText [lexeme]).count bracket.opener =
      level.count bracket + (codeText [lexeme]).count bracket.closer := by
  cases h with
  | literal text => rfl
  | comment text => rfl
  | opener kind =>
      have hopener : [kind.opener].count bracket.opener = [kind].count bracket := by
        cases kind <;> cases bracket <;> decide
      have hcloser : [kind.opener].count bracket.closer = 0 := by
        cases kind <;> cases bracket <;> decide
      show stack.count bracket + [kind.opener].count bracket.opener =
        ([kind] ++ stack).count bracket + [kind.opener].count bracket.closer
      rw [hopener, hcloser, List.count_append]
      omega
  | closer kind =>
      have hopener : [kind.closer].count bracket.opener = 0 := by
        cases kind <;> cases bracket <;> decide
      have hcloser : [kind.closer].count bracket.closer = [kind].count bracket := by
        cases kind <;> cases bracket <;> decide
      show ([kind] ++ level).count bracket + [kind.closer].count bracket.opener =
        level.count bracket + [kind.closer].count bracket.closer
      rw [hopener, hcloser, List.count_append]
      omega
  | @other _ c hopener hcloser _ =>
      have hnone : ∀ d, d = bracket.opener ∨ d = bracket.closer → [c].count d = 0 := by
        intro d hd
        refine List.count_eq_zero_of_not_mem fun hmem => ?_
        obtain rfl := List.mem_singleton.1 hmem
        rcases hd with hd | hd
        · cases hopener.symm.trans (Bracket.ofOpener?_eq_some.2 hd)
        · cases hcloser.symm.trans (Bracket.ofCloser?_eq_some.2 hd)
      show stack.count bracket + [c].count bracket.opener = stack.count bracket + [c].count bracket.closer
      rw [hnone _ (.inl rfl), hnone _ (.inr rfl)]

/-- **Well-nested lexemes close what they and a stack open**, bracket by bracket of every kind. -/
theorem levels_of_nestedBelow {stack : List Bracket} {lexemes : List Lexeme} (hwhole : Unbroken lexemes)
    (hnested : NestedBelow stack (brackets (codeText lexemes))) (bracket : Bracket) :
    Levels bracket (stack.count bracket) lexemes := by
  induction lexemes generalizing stack with
  | nil =>
      obtain rfl := nestedBelow_nil.1 hnested
      exact levels_nil.2 rfl
  | cons lexeme rest ih =>
      obtain ⟨hlexeme, hrest⟩ := unbroken_cons.1 hwhole
      by_cases hcomma : lexeme = .code ',' → stack ≠ []
      · obtain ⟨level, hleads⟩ := exists_leads hnested hlexeme hcomma
        have hcount := hleads.count bracket
        rw [codeText_cons, brackets_append, hleads.nestedBelow_iff] at hnested
        refine levels_cons.2 ⟨hlexeme, by omega, ?_⟩
        rw [hcount, Nat.add_sub_cancel]
        exact ih hrest hnested
      · -- an outer comma leads nowhere, but it is no bracket either
        obtain ⟨rfl, -⟩ := Classical.not_imp.1 hcomma
        have hopener : (codeText [.code ',']).count bracket.opener = 0 := by cases bracket <;> decide
        have hcloser : (codeText [.code ',']).count bracket.closer = 0 := by cases bracket <;> decide
        rw [levels_cons, hopener, hcloser]
        exact ⟨hlexeme, Nat.zero_le _, ih hrest hnested⟩

/-- What an argument list is made of closes what it opens. -/
theorem levels_joined {pieces : List (List Lexeme)} (h : ∀ piece ∈ pieces, IsPiece piece)
    (bracket : Bracket) : Levels bracket 0 (joined pieces) := by
  rcases eq_or_ne pieces [] with rfl | hne
  · exact levels_nil.2 rfl
  · obtain ⟨hwhole, hnested⟩ := nested_of_outerParts (parts_joined hne h 0)
    exact levels_of_nestedBelow hwhole hnested bracket

/-- Before a closing bracket, closed texts with commas between them keep lexemes that close what they
open. -/
theorem exists_lex_before_closer {parts : List Text} (h : ∀ part ∈ parts, IsClosed part)
    (bracket : Bracket) : ∃ inside, Levels bracket 0 inside ∧ raw inside = join ", ".toList parts ∧
      ∀ after, lex (join ", ".toList parts ++ bracket.closer :: after) =
        inside ++ .code bracket.closer :: lex after := by
  have hcloser : isPlain bracket.closer = true := by cases bracket <;> decide
  have hstar : bracket.closer ≠ '*' := by cases bracket <;> decide
  obtain ⟨pieces, hpieces, hlex⟩ := exists_lex_join h
  refine ⟨joined pieces, levels_joined hpieces bracket, ?_, hlex hcloser hstar⟩
  have hraw := congrArg raw (hlex hcloser hstar [])
  rw [raw_lex, raw_append, raw_cons, raw_lex] at hraw
  exact (List.append_inj_left' hraw rfl).symm

/-- **The bracket behind a closed text is the one that closes the bracket before it.** -/
theorem delimited_closed {content : Text} (h : IsClosed content) (bracket : Bracket)
    (before after : Text) :
    delimited (before ++ content ++ bracket.closer :: after) before.length bracket =
      .ok ⟨content, before.length + content.length + 1⟩ := by
  obtain ⟨inside, hlevels, hraw, hlex⟩ :=
    exists_lex_before_closer (List.forall_mem_singleton.2 h) bracket
  have hraw : raw inside = content := hraw
  refine delimited_eq_ok_iff.2 ⟨inside, lex after, ?_, hlevels, hraw.symm, by rw [hraw]⟩
  rw [List.append_assoc, List.drop_left]
  exact hlex after

end RouteAtlas.Source
