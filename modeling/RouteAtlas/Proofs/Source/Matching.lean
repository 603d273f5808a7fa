import RouteAtlas.Proofs.Source.Enclosing

/-!
# Brackets of well-nested texts

In a text that is accepted as an argument list every offset is a code position or lies in a literal or a
comment (`codeAt_or_inSkipped`), and every opening bracket at a code position has its matching closer, with
an argument list between the two (`exists_delimited_of_codeAt`). The brackets of a kind do not cross: what
opens in code between two matching brackets is closed between them (`delimited_behind_lt`).
-/

set_option autoImplicit false

namespace RouteAtlas.Source

open Text

/-! ## Literals and comments -/

/-- An offset lies in a literal or a comment of a text. -/
def InSkipped (text : Text) (offset : Nat) : Prop :=
  ∃ done lexeme rest, lex text = done ++ lexeme :: rest ∧ (∀ c, lexeme ≠ .code c) ∧
    (raw done).length ≤ offset ∧ offset < (raw done).length + lexeme.raw.length

theorem length_raw_cons (lexeme : Lexeme) (rest : List Lexeme) :
    (raw (lexeme :: rest)).length = lexeme.raw.length + (raw rest).length := by
  rw [raw_cons, List.length_append]

/-- Every offset of a text lies in one of its lexemes. -/
theorem exists_lexeme {lexemes : List Lexeme} {offset : Nat} (h : offset < (raw lexemes).length) :
    ∃ done lexeme rest, lexemes = done ++ lexeme :: rest ∧ (raw done).length ≤ offset ∧
      offset < (raw done).length + lexeme.raw.length := by
  induction lexemes generalizing offset with
  | nil => exact absurd h (Nat.not_lt_zero _)
  | cons lexeme rest ih =>
      rw [length_raw_cons] at h
      by_cases hfirst : offset < lexeme.raw.length
      · exact ⟨[], lexeme, rest, rfl, Nat.zero_le _, by simpa [raw] using hfirst⟩
      · obtain ⟨done, next, behind, rfl, hfrom, hto⟩ := @ih (offset - lexeme.raw.length) (by omega)
        refine ⟨lexeme :: done, next, behind, rfl, ?_, ?_⟩
        · rw [length_raw_cons]
          omega
        · rw [length_raw_cons]
          omega

/-- The lexeme in which an offset lies is the only one. -/
theorem lexeme_unique {done others rest behind : List Lexeme} {lexeme next : Lexeme} {offset : Nat}
    (h : done ++ lexeme :: rest = others ++ next :: behind)
    (hfrom : (raw done).length ≤ offset) (hto : offset < (raw done).length + lexeme.raw.length)
    (hfrom' : (raw others).length ≤ offset) (hto' : offset < (raw others).length + next.raw.length) :
    lexeme = next := by
  rcases List.append_eq_append_iff.1 h with ⟨middle, rfl, hrest⟩ | ⟨middle, rfl, hrest⟩
  · cases middle with
    | nil => exact (List.cons.inj hrest).1
    | cons first middle =>
        -- the other lexeme would only begin behind this one
        obtain ⟨rfl, -⟩ := List.cons.inj hrest
        rw [raw_append, List.length_append, length_raw_cons] at hfrom'
        omega
  · cases middle with
    | nil => exact (List.cons.inj hrest).1.symm
    | cons first middle =>
        obtain ⟨rfl, -⟩ := List.cons.inj hrest
        rw [raw_append, List.length_append, length_raw_cons] at hfrom
        omega

/-- Only the last lexeme of a text can be a literal that is never closed. -/
theorem unbroken_before {text : Text} {done rest : List Lexeme} {lexeme : Lexeme}
    (h : lex text = done ++ lexeme :: rest) : Unbroken done := by
  fun_induction lex text generalizing done with
  | case1 => cases done <;> cases h
  | case2 c behind ih =>
      cases done with
      | nil => simp [Unbroken]
      | cons first done =>
          obtain ⟨rfl, htail⟩ := List.cons.inj h
          have hreads := reads_next c behind
          generalize (next c behind).1 = first at hreads ⊢
          generalize (next c behind).2 = others at hreads htail ih
          refine unbroken_cons.2 ⟨?_, ih htail⟩
          cases hreads with
          | broken hquote hclose =>
              rw [lex] at htail
              cases done <;> cases htail
          | _ => rfl

theorem CodeAt.not_inSkipped {text : Text} {offset : Nat} {c : Char} (h : CodeAt text 0 offset c) :
    ¬ InSkipped text offset := by
  rintro ⟨others, next, behind, hskipped, hnoCode, hfrom, hto⟩
  obtain ⟨done, rest, hlex, -, rfl⟩ := codeAt_iff.1 h
  rw [List.drop_zero, hskipped] at hlex
  exact hnoCode c (lexeme_unique hlex hfrom hto (by omega) (by simp [Lexeme.raw]))

/-- **In a text without an open literal every offset is a code position or lies in a literal or a
comment.** -/
theorem codeAt_or_inSkipped {text : Text} (h : Unbroken (lex text)) {offset : Nat} {c : Char}
    (hc : text[offset]? = some c) : CodeAt text 0 offset c ∨ InSkipped text offset := by
  have hlt : offset < (raw (lex text)).length := by
    rw [raw_lex]
    exact (List.getElem?_eq_some_iff.1 hc).1
  obtain ⟨done, lexeme, rest, hlex, hfrom, hto⟩ := exists_lexeme hlt
  cases lexeme with
  | code d =>
      have hoffset : offset = 0 + (raw done).length := by
        simp only [Lexeme.raw, List.length_singleton] at hto
        omega
      have hcode : CodeAt text 0 offset d := by
        refine codeAt_iff.2 ⟨done, rest, hlex, ?_, hoffset⟩
        rw [hlex] at h
        exact (unbroken_append.1 h).1
      cases hc.symm.trans hcode.char
      exact .inl hcode
  | _ => exact .inr ⟨done, _, rest, hlex, by simp, hfrom, hto⟩

/-! ## Levels -/

section

variable {bracket : Bracket} {depth outer : Nat}

/-- A lexeme other than the closer closes nothing. -/
theorem count_closer_of_ne {lexeme : Lexeme} (h : lexeme ≠ .code bracket.closer) :
    (codeText [lexeme]).count bracket.closer = 0 := by
  cases lexeme with
  | code c => exact List.count_eq_zero.2 fun hmem => h (congrArg Lexeme.code (List.mem_singleton.1 hmem).symm)
  | _ => rfl

theorem count_closer (bracket : Bracket) :
    (codeText [.code bracket.closer]).count bracket.opener = 0 ∧
      (codeText [.code bracket.closer]).count bracket.closer = 1 := by
  cases bracket <;> decide

/-- What closes some brackets and further ones inside them closes the inner ones first. -/
theorem Levels.split {lexemes : List Lexeme} (h : Levels bracket (outer + 1 + depth) lexemes) :
    ∃ inside behind, lexemes = inside ++ .code bracket.closer :: behind ∧ Levels bracket depth inside := by
  induction lexemes generalizing depth with
  | nil =>
      have hdepth := levels_nil.1 h
      omega
  | cons lexeme rest ih =>
      obtain ⟨hlexeme, -, hrest⟩ := levels_cons.1 h
      by_cases hfound : lexeme = .code bracket.closer ∧ depth = 0
      · obtain ⟨rfl, rfl⟩ := hfound
        exact ⟨[], rest, rfl, levels_nil.2 rfl⟩
      · -- the lexeme closes no more than the inner brackets, so it stands before the closer
        have hcount : (codeText [lexeme]).count bracket.closer ≤
            depth + (codeText [lexeme]).count bracket.opener := by
          by_cases hcloser : lexeme = .code bracket.closer
          · have hdepth : depth ≠ 0 := fun hdepth => hfound ⟨hcloser, hdepth⟩
            rw [hcloser, (count_closer bracket).1, (count_closer bracket).2]
            omega
          · rw [count_closer_of_ne hcloser]
            exact Nat.zero_le _
        rw [show outer + 1 + depth + (codeText [lexeme]).count bracket.opener -
            (codeText [lexeme]).count bracket.closer = outer + 1 + (depth +
              (codeText [lexeme]).count bracket.opener - (codeText [lexeme]).count bracket.closer) by
          omega] at hrest
        obtain ⟨inside, behind, rfl, hinside⟩ := ih hrest
        exact ⟨lexeme :: inside, behind, rfl, levels_cons.2 ⟨hlexeme, hcount, hinside⟩⟩

/-- Behind an opener its closer is looked for one level further down. -/
theorem Levels.behind_opener {first rest : List Lexeme}
    (h : Levels bracket depth (first ++ .code bracket.opener :: rest)) :
    ∃ outer, Levels bracket (outer + 1) rest := by
  induction first generalizing depth with
  | nil =>
      have hrest := (levels_cons.1 h).2.2
      have hcount : (codeText [.code bracket.opener]).count bracket.opener = 1 ∧
          (codeText [.code bracket.opener]).count bracket.closer = 0 := by
        cases bracket <;> decide
      rw [hcount.1, hcount.2] at hrest
      exact ⟨depth, hrest⟩
  | cons lexeme first ih => exact ih (levels_cons.1 h).2.2

/-- What opens before a matching closer is closed before it. -/
theorem Levels.exists_inner {first last inside behind : List Lexeme} (h : Levels bracket 0 inside)
    (hcut : first ++ .code bracket.opener :: last = inside ++ .code bracket.closer :: behind)
    (hlt : (raw first).length < (raw inside).length + 1) :
    ∃ inner more, last = inner ++ .code bracket.closer :: more ∧ Levels bracket 0 inner ∧
      (raw first).length + (raw inner).length + 2 ≤ (raw inside).length := by
  have hne : bracket.opener ≠ bracket.closer := opener_ne_closer bracket bracket
  rcases List.append_eq_append_iff.1 hcut with ⟨middle, rfl, hmiddle⟩ | ⟨middle, rfl, hmiddle⟩
  · cases middle with
    | nil => exact absurd (Lexeme.code.inj (List.cons.inj hmiddle).1) hne
    | cons lexeme middle =>
        obtain ⟨rfl, rfl⟩ := List.cons.inj hmiddle
        obtain ⟨outer, hlevels⟩ := h.behind_opener
        obtain ⟨inner, more, rfl, hinner⟩ := @Levels.split _ 0 _ _ hlevels
        refine ⟨inner, more ++ .code bracket.closer :: behind, by simp, hinner, ?_⟩
        simp only [raw_append, length_raw_cons, List.length_append, Lexeme.raw, List.length_singleton]
        omega
  · -- an opener behind the closer would stand too far in the text
    cases middle with
    | nil => exact absurd (Lexeme.code.inj (List.cons.inj hmiddle).1).symm hne
    | cons lexeme middle =>
        obtain ⟨rfl, -⟩ := List.cons.inj hmiddle
        simp only [raw_append, length_raw_cons, List.length_append, Lexeme.raw, List.length_singleton] at hlt
        omega

end

/-- A code position is the place of a code lexeme, with what stands behind it. -/
theorem CodeAt.exists_lex {text : Text} {offset : Nat} {c : Char} (h : CodeAt text 0 offset c) :
    ∃ done, lex text = done ++ .code c :: lex (text.drop (offset + 1)) ∧ offset = (raw done).length := by
  obtain ⟨done, rest, hlex, -, hoffset⟩ := codeAt_iff.1 h
  rw [Nat.zero_add] at hoffset
  have hbehind : lex (text.drop 0) = (done ++ [.code c]) ++ rest := by simpa using hlex
  have hlength : 0 + (raw (done ++ [.code c])).length = offset + 1 := by
    rw [length_raw_concat, hoffset, Nat.zero_add]
    rfl
  have hrest := lex_drop hbehind
  rw [hlength] at hrest
  exact ⟨done, by rw [hrest]; exact hlex, hoffset⟩

/-- **Brackets of a kind do not cross**: what opens in code between two matching brackets is closed between
them. -/
theorem delimited_behind_lt {text : Text} {bracket : Bracket} {start offset : Nat} {found inner : Delimited}
    (hstart : CodeAt text 0 start bracket.opener) (hfound : delimited text (start + 1) bracket = .ok found)
    (hoffset : CodeAt text 0 offset bracket.opener)
    (hinner : delimited text (offset + 1) bracket = .ok inner) (hfrom : start < offset)
    (hto : offset < found.behind) : inner.behind < found.behind := by
  obtain ⟨content, behind⟩ := found
  obtain ⟨inside, after, hinside, hlevels, -, rfl⟩ := delimited_eq_ok_iff.1 hfound
  obtain ⟨done, hlex, rfl⟩ := hstart.exists_lex
  obtain ⟨others, hother, rfl⟩ := hoffset.exists_lex
  -- the inner opener stands behind the outer one, so the lexemes between them are on the way to its closer
  obtain ⟨first, rfl⟩ := prefix_of_shorter (hlex.symm.trans hother) hfrom
  have hplace : (raw (done ++ [.code bracket.opener] ++ first)).length =
      (raw done).length + 1 + (raw first).length := by
    rw [raw_append, List.length_append, length_raw_concat]
    rfl
  have hcut := hinside
  rw [hlex, List.append_assoc, List.append_assoc, List.append_cancel_left_eq, List.singleton_append,
    List.cons.injEq] at hother
  rw [hother.2] at hcut
  rw [hplace] at hto hinner hcut
  obtain ⟨between, more, hlast, hbetween, hlength⟩ := hlevels.exists_inner hcut (by
    simp only at hto
    omega)
  cases hinner.symm.trans (delimited_eq_ok_iff.2 ⟨between, more, hlast, hbetween, rfl, rfl⟩)
  simp only
  omega

/-! ## Brackets of a well-nested text -/

/-- What is left of a well-nested list behind some lexemes closes the brackets open there. -/
theorem exists_nestedBelow {stack : List Bracket} {done rest : List Lexeme}
    (h : NestedBelow stack (brackets (codeText (done ++ rest)))) :
    ∃ level, NestedBelow level (brackets (codeText rest)) := by
  induction done generalizing stack with
  | nil => exact ⟨stack, h⟩
  | cons lexeme done ih =>
      cases lexeme with
      | code c =>
          rw [List.cons_append, codeText_code] at h
          cases hopener : Bracket.ofOpener? c with
          | some bracket =>
              obtain rfl := Bracket.ofOpener?_eq_some.1 hopener
              rw [brackets_opener, nestedBelow_opener] at h
              exact ih h
          | none =>
              cases hcloser : Bracket.ofCloser? c with
              | some bracket =>
                  obtain rfl := Bracket.ofCloser?_eq_some.1 hcloser
                  rw [brackets_closer, nestedBelow_closer] at h
                  obtain ⟨below, -, hbelow⟩ := h
                  exact ih hbelow
              | none =>
                  rw [brackets_other hopener hcloser] at h
                  exact ih h
      | _ => exact ih h

/-- A bracket among the brackets of lexemes is one of the lexemes. -/
theorem exists_of_brackets {lexemes : List Lexeme} {before behind : Text} {c : Char}
    (h : brackets (codeText lexemes) = before ++ c :: behind) :
    ∃ first rest, lexemes = first ++ .code c :: rest ∧ brackets (codeText first) = before := by
  obtain ⟨text, others, hcode, rfl, hothers⟩ := List.filter_eq_append_iff.1 h
  obtain ⟨plain, _, rfl, hplain, -, -⟩ := List.filter_eq_cons_iff.1 hothers
  rw [← List.append_assoc] at hcode
  obtain ⟨first, last, rfl, hfirst, hlast⟩ := List.filterMap_eq_append_iff.1 hcode
  obtain ⟨skipped, lexeme, rest, rfl, hskipped, hlexeme, -⟩ := List.filterMap_eq_cons_iff.1 hlast
  -- no bracket stands between the first part and the lexeme, neither in code nor elsewhere
  have hnoCode : codeText skipped = [] := List.filterMap_eq_nil_iff.2 hskipped
  have hnoBracket : brackets plain = [] := List.filter_eq_nil_iff.2 hplain
  refine ⟨first ++ skipped, rest, ?_, ?_⟩
  · cases lexeme with
    | code d =>
        cases hlexeme
        rw [List.append_assoc]
    | _ => cases hlexeme
  · rw [codeText_append, hnoCode, List.append_nil, codeText, hfirst, brackets_append, hnoBracket,
      List.append_nil]
    rfl

/-- **Every bracket that opens in the code of a well-nested text is closed**, and what stands between the
two is an argument list. -/
theorem exists_delimited_of_codeAt {text : Text} (hwhole : Unbroken (lex text))
    (hnested : Nested (brackets (codeText (lex text)))) {offset : Nat} {bracket : Bracket}
    (h : CodeAt text 0 offset bracket.opener) :
    ∃ found parts, delimited text (offset + 1) bracket = .ok found ∧
      arguments found.content = .ok parts := by
  obtain ⟨done, hlex, rfl⟩ := h.exists_lex
  generalize hrest : lex (text.drop ((raw done).length + 1)) = rest at hlex
  have hwholeRest : Unbroken rest := by
    rw [hlex] at hwhole
    exact (unbroken_cons.1 (unbroken_append.1 hwhole).2).2
  obtain ⟨level, hlevel⟩ : ∃ level, NestedBelow level (brackets (codeText (.code bracket.opener :: rest))) := by
    rw [hlex] at hnested
    exact @exists_nestedBelow [] _ _ hnested
  -- behind the opener come well-nested brackets and its closer, which is one of the lexemes
  rw [codeText_code, brackets_opener, nestedBelow_opener] at hlevel
  obtain ⟨inner, _, hinner, hnestedInner, -⟩ := hlevel
  obtain ⟨inside, after, rfl, rfl⟩ := exists_of_brackets hinner
  have hwholeInside : Unbroken inside := (unbroken_append.1 hwholeRest).1
  have hcontent : lex (raw inside) = inside := lex_raw_of_part ⟨done ++ [.code bracket.opener],
    .code bracket.closer :: after, by rw [hlex]; simp⟩
  have hfound : delimited text ((raw done).length + 1) bracket = .ok ⟨raw inside, _⟩ :=
    delimited_eq_ok_iff.2 ⟨inside, after, hrest, @levels_of_nestedBelow [] _ hwholeInside hnestedInner bracket,
      rfl, rfl⟩
  obtain ⟨parts, hparts⟩ := ((arguments_split.1 (raw inside)).1).2 (by
    rw [hcontent]
    exact ⟨hwholeInside, hnestedInner⟩)
  exact ⟨_, parts, hfound, hparts⟩

end RouteAtlas.Source
