import RouteAtlas.Proofs.Source.Nesting

/-!
# Arguments

An argument list is cut into trimmed arguments. What is accepted, and where the cuts are, is said in
terms of its pieces (`arguments_split`). A piece has the same lexemes by itself as in its place, and the
blanks that trimming takes off its ends are code or the end of a comment, so every argument is an argument
list of one. Arguments that are closed, in the sense that a comma behind them is an outer one, are got
back from their text with commas and blanks between them.
-/

set_option autoImplicit false

namespace RouteAtlas.Source

open Text

/-! ## Blanks around a piece -/

theorem ofOpener?_of_isBlank {b : Char} (hb : isBlank b = true) : Bracket.ofOpener? b = none := by
  cases h : Bracket.ofOpener? b with
  | none => rfl
  | some bracket =>
      rw [Bracket.ofOpener?_eq_some.1 h] at hb
      cases bracket <;> exact absurd hb (by decide)

theorem ofCloser?_of_isBlank {b : Char} (hb : isBlank b = true) : Bracket.ofCloser? b = none := by
  cases h : Bracket.ofCloser? b with
  | none => rfl
  | some bracket =>
      rw [Bracket.ofCloser?_eq_some.1 h] at hb
      cases bracket <;> exact absurd hb (by decide)

/-- A blank is no bracket. -/
theorem brackets_blank {b : Char} (hb : isBlank b = true) (text : Text) :
    brackets (b :: text) = brackets text :=
  brackets_other (ofOpener?_of_isBlank hb) (ofCloser?_of_isBlank hb) text

theorem IsPiece.blank_cons {b : Char} (hb : isBlank b = true) {piece : List Lexeme}
    (h : IsPiece piece) : IsPiece (.code b :: piece) := by
  have hleads : Leads [] (.code b) [] :=
    .other (ofOpener?_of_isBlank hb) (ofCloser?_of_isBlank hb) fun hc =>
      absurd hc (ne_of_isBlank hb (by decide))
  exact isPieceBelow_nil.1 (isPieceBelow_cons.2 ⟨[], hleads, isPieceBelow_nil.2 h⟩)

theorem IsPiece.of_blank_cons {b : Char} (hb : isBlank b = true) {piece : List Lexeme}
    (h : IsPiece (.code b :: piece)) : IsPiece piece := by
  refine ⟨(unbroken_cons.1 h.whole).2, ?_, fun before behind hsplit => ?_⟩
  · rw [← brackets_blank hb, ← codeText_code]
    exact h.nested
  · rw [← brackets_blank hb]
    refine h.inner (b :: before) behind ?_
    rw [codeText_code, hsplit, List.cons_append]

/-- A blank behind a piece is code of the piece or belongs to a comment at its end. -/
theorem IsPiece.of_continued {b : Char} (hb : isBlank b = true) {piece longer : List Lexeme}
    (h : IsPiece longer) (hcontinued : Continued b piece longer) : IsPiece piece := by
  cases hcontinued with
  | code =>
      have hcode : codeText (piece ++ [.code b]) = codeText piece ++ [b] := codeText_append _ _
      refine ⟨(unbroken_append.1 h.whole).1, ?_, fun before behind hsplit => ?_⟩
      · have hnested := h.nested
        rw [hcode, brackets_append, brackets_blank hb] at hnested
        rwa [← List.append_nil (brackets (codeText piece))]
      · apply h.inner before (behind ++ [b])
        rw [hcode, hsplit, List.append_assoc, List.cons_append]
  | @comment first last =>
      have hcode : codeText (first ++ [.comment (last ++ [b])]) = codeText (first ++ [.comment last]) := by
        rw [codeText_append, codeText_append]
        rfl
      refine ⟨?_, hcode ▸ h.nested, fun before behind hsplit => h.inner before behind (hcode.trans hsplit)⟩
      exact unbroken_append.2 ⟨(unbroken_append.1 h.whole).1, unbroken_cons.2 ⟨rfl, by simp [Unbroken]⟩⟩
  | broken => cases (unbroken_cons.1 (unbroken_append.1 h.whole).2).1

/-- **Trimming leaves a piece a piece.** -/
theorem IsPiece.trim {text : Text} (h : IsPiece (lex text)) : IsPiece (lex (trim text)) := by
  refine @trim_induction (fun text => IsPiece (lex text)) ?_ ?_ text h
  · intro b rest hb hpiece
    rw [lex_cons_plain (isPlain_of_isBlank hb)] at hpiece
    exact hpiece.of_blank_cons hb
  · intro b rest hb hpiece
    exact hpiece.of_continued hb (lex_concat_blank hb rest)

/-! ## Arguments of a list -/

theorem dropBlankLast_concat (parts : List Text) (last : Text) :
    dropBlankLast (parts ++ [last]) = parts ++ if last.isEmpty then [] else [last] := by
  induction parts with
  | nil => rfl
  | cons part parts ih =>
      rw [List.cons_append, List.cons_append, ← ih]
      cases parts with
      | nil => rfl
      | cons next parts => rfl

theorem dropBlankLast_eq_self {parts : List Text} (h : ∀ last ∈ parts.getLast?, last ≠ []) :
    dropBlankLast parts = parts := by
  rcases List.eq_nil_or_concat' parts with rfl | ⟨parts, last, rfl⟩
  · rfl
  · have hlast : last ≠ [] := h last (by simp)
    rw [dropBlankLast_concat, if_neg (by simpa using hlast)]

/-- The arguments that pieces make up. -/
def argumentsOf (pieces : List (List Lexeme)) (last : List Lexeme) : List Text :=
  pieces.map (fun piece => trim (raw piece)) ++
    if isBlankText (raw last) then [] else [trim (raw last)]

theorem dropBlankLast_trimmed (pieces : List (List Lexeme)) (last : List Lexeme) :
    dropBlankLast (((pieces ++ [last]).map raw).map trim) = argumentsOf pieces last := by
  have hblank : (trim (raw last)).isEmpty = isBlankText (raw last) := by
    rw [Bool.eq_iff_iff, List.isEmpty_iff, trim_eq_nil_iff]
  rw [List.map_map, List.map_append, List.map_singleton, dropBlankLast_concat, argumentsOf,
    Function.comp_apply, hblank]
  rfl

/-- **The arguments are the trimmed pieces between the outer commas**, the last one left out where it is
blank. -/
theorem arguments_eq_ok_iff {content : Text} {parts : List Text} :
    arguments content = .ok parts ↔ ∃ pieces last, lex content = joined (pieces ++ [last]) ∧
      (∀ piece ∈ pieces ++ [last], IsPiece piece) ∧ parts = argumentsOf pieces last := by
  rw [arguments]
  constructor
  · intro h
    obtain ⟨texts, htexts, rfl⟩ := eq_ok_of_map h
    obtain ⟨pieces, hne, hlex, hpieces, rfl⟩ := outerParts_eq_ok_iff.1 htexts
    obtain ⟨pieces, last, rfl⟩ := (List.eq_nil_or_concat' pieces).resolve_left hne
    exact ⟨pieces, last, hlex, hpieces, dropBlankLast_trimmed pieces last⟩
  · rintro ⟨pieces, last, hlex, hpieces, rfl⟩
    rw [outerParts_eq_ok_iff.2 ⟨pieces ++ [last], by simp, hlex, hpieces, rfl⟩, Except.map,
      dropBlankLast_trimmed]

/-- An argument list of one piece has one argument, or none. -/
theorem arguments_piece {text : Text} (h : IsPiece (lex text)) :
    arguments text = .ok (if isBlankText text then [] else [trim text]) := by
  refine arguments_eq_ok_iff.2 ⟨[], lex text, (joined_singleton _).symm, by simpa using h, ?_⟩
  rw [argumentsOf, raw_lex]
  rfl

theorem infix_joined {piece : List Lexeme} {pieces : List (List Lexeme)} (h : piece ∈ pieces) :
    piece <:+: joined pieces := by
  induction pieces with
  | nil => cases h
  | cons first pieces ih =>
      cases pieces with
      | nil =>
          have hone : joined [first] = piece := by rw [joined_singleton, List.mem_singleton.1 h]
          exact hone.symm ▸ List.infix_rfl
      | cons next pieces =>
          rw [joined_cons]
          rcases List.mem_cons.1 h with rfl | hlater
          · exact (List.prefix_append _ _).isInfix
          · exact (ih hlater).trans ((List.suffix_cons _ _).trans (List.suffix_append _ _)).isInfix

/-- A piece has the same lexemes by itself as in its place. -/
theorem lex_raw_of_part {text : Text} {middle : List Lexeme} (h : middle <:+: lex text) :
    lex (raw middle) = middle := by
  obtain ⟨before, behind, hlex⟩ := h
  rw [List.append_assoc] at hlex
  have hrest : lex (raw (middle ++ behind)) = middle ++ behind := lex_raw_of_suffix ⟨before, hlex⟩
  exact lex_raw_of_prefix ⟨behind, hrest.symm⟩

theorem mem_argumentsOf {pieces : List (List Lexeme)} {last : List Lexeme} {part : Text}
    (h : part ∈ argumentsOf pieces last) : ∃ piece ∈ pieces ++ [last], part = trim (raw piece) := by
  rcases List.mem_append.1 h with hpart | hpart
  · obtain ⟨piece, hpiece, rfl⟩ := List.mem_map.1 hpart
    exact ⟨piece, List.mem_append_left _ hpiece, rfl⟩
  · split at hpart
    · cases hpart
    · exact ⟨last, by simp, List.mem_singleton.1 hpart⟩

/-- **Every argument that is not empty is an argument list of its own.** -/
theorem arguments_of_mem {content part : Text} {parts : List Text} (h : arguments content = .ok parts)
    (hpart : part ∈ parts) (hne : part ≠ []) : arguments part = .ok [part] := by
  obtain ⟨pieces, last, hlex, hpieces, rfl⟩ := arguments_eq_ok_iff.1 h
  obtain ⟨piece, hpiece, rfl⟩ := mem_argumentsOf hpart
  have hplace : lex (raw piece) = piece := by
    apply @lex_raw_of_part content
    rw [hlex]
    exact infix_joined hpiece
  have hwhole : IsPiece (lex (raw piece)) := by
    rw [hplace]
    exact hpieces piece hpiece
  have hnotBlank : isBlankText (trim (raw piece)) = false := by
    rw [← Bool.not_eq_true, ← trim_eq_nil_iff, trim_trim]
    exact hne
  rw [arguments_piece hwhole.trim, hnotBlank, trim_trim]
  rfl

/-! ## Joined arguments -/

/-- A text that a comma behind it cuts off is one piece, and stays one whatever else comes behind the
comma. -/
theorem lex_of_arguments_comma {part : Text}
    (h : arguments (part ++ ",x".toList) = .ok [part, "x".toList]) :
    IsPiece (lex part) ∧ ∀ more, lex (part ++ ',' :: more) = lex part ++ .code ',' :: lex more := by
  obtain ⟨pieces, last, hlex, hpieces, hparts⟩ := arguments_eq_ok_iff.1 h
  have hraw : raw (joined (pieces ++ [last])) = part ++ ",x".toList := by rw [← hlex, raw_lex]
  have hlength := congrArg List.length hraw
  rw [argumentsOf] at hparts
  split at hparts
  · -- a third piece, if only an empty one, would make the text longer than it is
    rw [List.append_nil] at hparts
    obtain ⟨first, others, rfl, hfirst, hothers⟩ := List.map_eq_cons_iff.1 hparts.symm
    obtain ⟨second, rest, rfl, hsecond, hrest⟩ := List.map_eq_cons_iff.1 hothers
    obtain rfl := List.map_eq_nil_iff.1 hrest
    have hfirstLength := length_trim_le (raw first)
    have hsecondLength := length_trim_le (raw second)
    rw [hfirst] at hfirstLength
    rw [hsecond] at hsecondLength
    simp [joined_cons, joined_singleton, raw_append, raw_cons, Lexeme.raw] at hlength hsecondLength
    omega
  · have hpair : [part] ++ ["x".toList] = pieces.map _ ++ [trim (raw last)] := hparts
    obtain ⟨hpiece, hlast⟩ := List.append_inj' hpair rfl
    obtain ⟨first, rest, rfl, hfirst, hrest⟩ := List.map_eq_cons_iff.1 hpiece.symm
    obtain rfl := List.map_eq_nil_iff.1 hrest
    rw [List.singleton_append, joined_cons, joined_singleton] at hlex hraw
    rw [raw_append, raw_cons] at hraw
    have hfirstLength := length_trim_le (raw first)
    have hlastLength := length_trim_le (raw last)
    rw [hfirst] at hfirstLength
    rw [← List.singleton_inj.1 hlast] at hlastLength
    simp [joined_cons, joined_singleton, raw_append, raw_cons, Lexeme.raw] at hlength hlastLength
    -- neither piece has blanks around it, as there is no room for them
    obtain ⟨rfl, -⟩ := List.append_inj hraw (by omega)
    have hself : lex (raw first) = first := lex_raw_of_prefix ⟨_, hlex.symm⟩
    rw [hself]
    refine ⟨hpieces first (by simp), fun more => ?_⟩
    rw [lex_raw_append hlex (by simp [raw_cons, Lexeme.raw]), lex_cons_plain (by decide)]

/-- Texts joined by commas and blanks: the first one, and the others behind a comma and a blank. -/
theorem join_comma (part next : Text) (parts : List Text) :
    join ", ".toList (part :: next :: parts) = part ++ ',' :: ' ' :: join ", ".toList (next :: parts) := by
  simp [join]

/-- The lexemes of texts joined by commas and blanks, each of which a comma behind it cuts off. -/
theorem lex_join {part : Text} {parts : List Text}
    (h : ∀ closed ∈ part :: parts, ∀ more,
      lex (closed ++ ',' :: more) = lex closed ++ .code ',' :: lex more) :
    lex (join ", ".toList (part :: parts)) =
      joined (lex part :: parts.map fun part => .code ' ' :: lex part) := by
  induction parts generalizing part with
  | nil => exact (joined_singleton _).symm
  | cons next parts ih =>
      rw [List.forall_mem_cons] at h
      rw [join_comma, h.1, lex_cons_plain (by decide), ih h.2, List.map_cons, joined_cons, joined_cons_cons]

/-- **Joining closed arguments and cutting the text again gives them back.** -/
theorem arguments_join {parts : List Text} (hlast : ∀ last ∈ parts.getLast?, last ≠ [])
    (h : ∀ part ∈ parts, trim part = part ∧
      arguments (part ++ ",x".toList) = .ok [part, "x".toList]) :
    arguments (join ", ".toList parts) = .ok parts := by
  cases parts with
  | nil => decide +kernel
  | cons part parts =>
      have hclosed := fun closed hmem => lex_of_arguments_comma (h closed hmem).2
      have hpieces : ∀ piece ∈ lex part :: parts.map (fun part => .code ' ' :: lex part),
          IsPiece piece := by
        intro piece hpiece
        rcases List.mem_cons.1 hpiece with rfl | hpiece
        · exact (hclosed part List.mem_cons_self).1
        · obtain ⟨later, hlater, rfl⟩ := List.mem_map.1 hpiece
          exact (hclosed later (List.mem_cons_of_mem _ hlater)).1.blank_cons (by decide)
      have hlater : ∀ later ∈ parts, trim (raw (.code ' ' :: lex later)) = later := by
        intro later hmem
        have hblank : trim (raw (.code ' ' :: lex later)) = trim (raw (lex later)) := rfl
        rw [hblank, raw_lex, (h later (List.mem_cons_of_mem _ hmem)).1]
      have hrest : parts.map ((trim ∘ raw) ∘ fun part => .code ' ' :: lex part) = parts :=
        (List.map_congr_left hlater).trans (List.map_id' parts)
      rw [arguments, lex_join fun closed hmem => (hclosed closed hmem).2,
        parts_joined (List.cons_ne_nil _ _) hpieces, Except.map, List.map_cons, List.map_cons, raw_lex,
        (h part List.mem_cons_self).1, List.map_map, List.map_map, hrest, dropBlankLast_eq_self hlast]

/-- **Exactly the well-nested argument lists without an open literal are accepted**, and they are cut at
their outer commas: every argument that is not empty is its own only argument, and arguments that a comma
behind them cuts off are got back from their text with commas between them. -/
theorem arguments_split :
    (∀ content,
      ((∃ parts, arguments content = .ok parts) ↔
        Unbroken (lex content) ∧ Nested (brackets (codeText (lex content)))) ∧
      ((∃ fault, arguments content = .error fault) ↔
        ¬ (Unbroken (lex content) ∧ Nested (brackets (codeText (lex content))))) ∧
      ∀ parts,
        (arguments content = .ok parts ↔ ∃ pieces last, lex content = joined (pieces ++ [last]) ∧
          (∀ piece ∈ pieces ++ [last], IsPiece piece) ∧ parts = argumentsOf pieces last) ∧
        (arguments content = .ok parts → ∀ part ∈ parts, part ≠ [] → arguments part = .ok [part])) ∧
    ∀ parts : List Text, (∀ last ∈ parts.getLast?, last ≠ []) →
      (∀ part ∈ parts, trim part = part ∧
        arguments (part ++ ",x".toList) = .ok [part, "x".toList]) →
      arguments (join ", ".toList parts) = .ok parts := by
  refine ⟨fun content => ?_, fun parts => arguments_join⟩
  have haccepts : (∃ parts, arguments content = .ok parts) ↔
      Unbroken (lex content) ∧ Nested (brackets (codeText (lex content))) := by
    rw [← @outerParts_isOk_iff 0, arguments]
    cases outerParts 0 [] (lex content) with
    | ok parts => simp [Except.map]
    | error fault => simp [Except.map]
  refine ⟨haccepts, ?_, fun parts => ⟨arguments_eq_ok_iff, fun h part => arguments_of_mem h⟩⟩
  rw [← haccepts]
  cases arguments content with
  | ok parts => simp
  | error fault => simp

/-- A call with a comma in it and a comment at the end of the list: the comment stays with the last
argument, and three arguments are got back from their text. -/
theorem handler_list_splits :
    arguments "auth(a, 'b'), h // last\n".toList =
        .ok ["auth(a, 'b')".toList, "h // last".toList] ∧
      arguments "h // last".toList = .ok ["h // last".toList] ∧
      arguments (join ", ".toList ["auth(a, 'b')".toList, [], "[h]".toList]) =
        .ok ["auth(a, 'b')".toList, [], "[h]".toList] := by
  have hsplit : arguments "auth(a, 'b'), h // last\n".toList =
      .ok ["auth(a, 'b')".toList, "h // last".toList] := by
    decide +kernel
  obtain ⟨hcontent, hjoin⟩ := arguments_split
  obtain ⟨-, -, hparts⟩ := hcontent "auth(a, 'b'), h // last\n".toList
  refine ⟨hsplit, (hparts _).2 hsplit _ (by simp) (by decide), hjoin _ (by decide) ?_⟩
  decide +kernel

end RouteAtlas.Source
