import RouteAtlas.Proofs.Source.Cutting
import Mathlib.Data.List.Infix

/-!
# Gaps

A gap in a text is a stretch of blanks, comments and semicolons. The comments are taken out of it without
regard to literals, and what is left is made of characters of a class exactly if each lexeme of the stretch,
read by itself, is such a character or a closed comment (`all_withoutComments_iff`,
`isBlankText_residue_iff`). Where a stretch begins between two
lexemes of the whole text, it can be cut at any later place between two lexemes
(`isFilling_stretch_iff`), so nothing that stands in code is passed over as part of a gap.
-/

set_option autoImplicit false

namespace RouteAtlas.Source

open Text

/-! ## Fillers -/

/-- A blank, a semicolon or a closed comment. -/
def Lexeme.isFiller : Lexeme → Bool
  | .code c => isBlank c || c == ';'
  | .comment raw => !(Lexeme.comment raw).isOpenBlock
  | .literal _ => false
  | .broken _ => false

/-- A text of blanks, semicolons and closed comments. -/
def IsFilling (text : Text) : Prop := ∀ lexeme ∈ lex text, lexeme.isFiller = true

/-- What stays of a text without its comments and semicolons. -/
def residue (text : Text) : Text := (withoutComments text).filter (· ≠ ';')

/-! ## What stays without comments -/

/-- A lexeme made of characters of a class: a code character of it, or a closed comment, of which nothing
stays. -/
def Lexeme.isOf (p : Char → Bool) : Lexeme → Bool
  | .code c => p c
  | .comment raw => !(Lexeme.comment raw).isOpenBlock
  | .literal _ => false
  | .broken _ => false

/-- A quote opens no comment. -/
theorem ne_slash_of_isQuote {c : Char} (h : isQuote c = true) : c ≠ '/' := by
  rintro rfl
  exact absurd h (by decide)

/-- A block comment that is closed is not open. -/
theorem isOpenBlock_of_cut? {inner body behind : Text} (h : cut? ['*', '/'] inner = some (body, behind)) :
    (Lexeme.comment ('/' :: '*' :: (body ++ ['*', '/']))).isOpenBlock = false := by
  have hclosed : occurs ['*', '/'] (body ++ ['*', '/']) = true := by
    rw [occurs, ← List.append_nil (body ++ ['*', '/']), cut?_replace (by simp) h]
    rfl
  simp [Lexeme.isOpenBlock, hclosed]

/-- **What stays of a text without its comments is of a class** of characters with no quote and no slash
in it **exactly if each lexeme of the text is.** -/
theorem all_withoutComments_iff {p : Char → Bool} (hquote : ∀ c, isQuote c = true → p c = false)
    (hslash : p '/' = false) (text : Text) :
    (withoutComments text).all p = true ↔ ∀ lexeme ∈ lex text, lexeme.isOf p = true := by
  -- as long as only lexemes of the class have been met, comments are taken out along with the lexemes;
  -- anything else, a quote or a slash, is kept by both
  fun_induction lex text with
  | case1 => simp [withoutComments]
  | case2 c rest ih =>
      have hreads := reads_next c rest
      rw [List.forall_mem_cons, ← ih]
      generalize (next c rest).1 = lexeme at hreads ⊢
      generalize (next c rest).2 = behind at hreads ⊢
      cases hreads with
      | plain hplain =>
          have hc : c ≠ '/' := by
            rintro rfl
            exact absurd hplain (by decide)
          rw [withoutComments_cons hc, List.all_cons, Bool.and_eq_true]
          rfl
      | literal hquoted hclose =>
          rw [withoutComments_cons (ne_slash_of_isQuote hquoted), List.all_cons, hquote c hquoted]
          simp [Lexeme.isOf]
      | broken hquoted hclose =>
          rw [withoutComments_cons (ne_slash_of_isQuote hquoted), List.all_cons, hquote c hquoted]
          simp [Lexeme.isOf]
      | line =>
          rw [withoutComments]
          exact (and_iff_right rfl).symm
      | @block inner body _ hcut =>
          rw [withoutComments_block hcut]
          refine (and_iff_right ?_).symm
          rw [Lexeme.isOf, isOpenBlock_of_cut? hcut]
          rfl
      | @openBlock inner hcut =>
          -- a block comment that is never closed is kept, and a slash is in no such class
          have hkept : withoutComments ('/' :: '*' :: inner) = '/' :: withoutComments ('*' :: inner) := by
            rw [withoutComments]
            split
            · rename_i hfound
              cases hcut.symm.trans hfound
            · rfl
          rw [hkept, List.all_cons, hslash]
          simp [Lexeme.isOf, Lexeme.isOpenBlock, occurs, hcut]
      | slash hfollow =>
          rw [withoutComments_slash hfollow, List.all_cons, hslash]
          simp [Lexeme.isOf, hslash]

/-- What stays of a text without its comments is blank exactly if each lexeme is a blank or a closed
comment. -/
theorem isBlankText_withoutComments_iff (text : Text) :
    isBlankText (withoutComments text) = true ↔ ∀ lexeme ∈ lex text, lexeme.isOf isBlank = true :=
  all_withoutComments_iff (fun _ h => isBlank_of_isQuote h) (by decide) text

theorem Lexeme.isFiller_eq (lexeme : Lexeme) :
    lexeme.isFiller = lexeme.isOf fun c => isBlank c || c == ';' := by
  cases lexeme <;> rfl

/-- **What stays of a text is blank exactly if the text is made of fillers.** -/
theorem isBlankText_residue_iff (text : Text) : isBlankText (residue text) = true ↔ IsFilling text := by
  have hquote : ∀ c, isQuote c = true → (isBlank c || c == ';') = false := by
    intro c h
    simp only [isQuote, Bool.or_eq_true, beq_iff_eq] at h
    rcases h with (rfl | rfl) | rfl
    · decide
    · decide
    · decide
  have hresidue : isBlankText (residue text) =
      (withoutComments text).all fun c => isBlank c || c == ';' := by
    rw [residue, isBlankText, List.all_filter]
    refine congrArg (List.all _) (funext fun c => ?_)
    by_cases hc : c = ';'
    · simp [hc]
    · simp [hc]
  rw [hresidue, all_withoutComments_iff hquote (by decide), IsFilling]
  simp only [Lexeme.isFiller_eq]

/-- A text without comments that is blank without its comments is blank. -/
theorem isBlankText_of_noComment {text : Text} (hcomments : ∀ inner, Lexeme.comment inner ∉ lex text)
    (h : isBlankText (withoutComments text) = true) : isBlankText text = true := by
  rw [isBlankText_withoutComments_iff] at h
  rw [← raw_lex text, isBlankText, List.all_eq_true]
  intro c hc
  obtain ⟨lexeme, hlexeme, hmem⟩ := List.mem_flatMap.1 hc
  have hblank := h lexeme hlexeme
  cases lexeme with
  | code d =>
      rw [List.mem_singleton.1 hmem]
      exact hblank
  | comment inner => exact absurd hlexeme (hcomments inner)
  | literal inner => cases hblank
  | broken inner => cases hblank

/-! ## Seams -/

/-- The offsets at which a lexeme of a text begins or ends. -/
def seams (text : Text) : List Nat := (lex text).inits.map fun done => (raw done).length

/-- A text between two of its offsets. -/
def stretch (text : Text) (start stop : Nat) : Text := (text.take stop).drop start

theorem mem_seams_iff {text : Text} {offset : Nat} :
    offset ∈ seams text ↔ ∃ done rest, lex text = done ++ rest ∧ (raw done).length = offset := by
  rw [seams, List.mem_map]
  constructor
  · rintro ⟨done, hdone, hlength⟩
    obtain ⟨rest, hrest⟩ := (List.mem_inits _ _).1 hdone
    exact ⟨done, rest, hrest.symm, hlength⟩
  · rintro ⟨done, rest, hlex, hlength⟩
    exact ⟨done, (List.mem_inits _ _).2 ⟨rest, hlex.symm⟩, hlength⟩

theorem take_of_lex {text : Text} {done rest : List Lexeme} (h : lex text = done ++ rest) :
    text.take (raw done).length = raw done := by
  have htext := raw_lex text
  rw [h, raw_append] at htext
  rw [← htext, List.take_left]

theorem stretch_of_lex {text : Text} {done middle rest : List Lexeme}
    (h : lex text = (done ++ middle) ++ rest) :
    stretch text (raw done).length (raw (done ++ middle)).length = raw middle := by
  rw [stretch, take_of_lex h, raw_append, List.drop_left]

/-- Between two seams of a text stand whole lexemes. -/
theorem exists_between_seams {text : Text} {start stop : Nat} (hstart : start ∈ seams text)
    (hstop : stop ∈ seams text) (hle : start ≤ stop) :
    ∃ middle rest, lex (text.drop start) = middle ++ rest ∧ (raw middle).length = stop - start := by
  obtain ⟨before, behind, hlex, rfl⟩ := mem_seams_iff.1 hstart
  obtain ⟨longer, rest, hlonger, rfl⟩ := mem_seams_iff.1 hstop
  have hdrop : lex (text.drop (raw before).length) = behind := by
    rw [← raw_lex text, hlex, raw_append, List.drop_left]
    exact lex_raw_of_suffix ⟨before, hlex.symm⟩
  rcases List.prefix_or_prefix_of_prefix ⟨behind, hlex.symm⟩ ⟨rest, hlonger.symm⟩ with
    ⟨middle, rfl⟩ | ⟨middle, rfl⟩
  · rw [hlonger, List.append_assoc, List.append_cancel_left_eq] at hlex
    refine ⟨middle, rest, by rw [hdrop, hlex], ?_⟩
    rw [raw_append, List.length_append]
    omega
  · -- the second seam is the first one again
    refine ⟨[], behind, by rw [hdrop]; rfl, ?_⟩
    rw [raw_append, List.length_append] at hle ⊢
    rw [raw, List.flatMap_nil, List.length_nil]
    omega

theorem stretch_append {text : Text} {start middle stop : Nat} (hstart : start ≤ middle)
    (hstop : middle ≤ stop) :
    stretch text start stop = stretch text start middle ++ stretch text middle stop := by
  rw [stretch, stretch, stretch, List.drop_take, List.drop_take, List.drop_take,
    show stop - start = (middle - start) + (stop - middle) by omega, List.take_add, List.drop_drop,
    show start + (middle - start) = middle by omega]

/-- **A stretch can be cut at a seam**: behind a seam, up to another one, a text has the lexemes it has
in its place. -/
theorem lex_stretch {text : Text} {start middle stop : Nat} (hstart : start ∈ seams text)
    (hmiddle : middle ∈ seams text) (hle : start ≤ middle) (hstop : middle ≤ stop) :
    lex (stretch text start stop) = lex (stretch text start middle) ++ lex (stretch text middle stop) := by
  obtain ⟨done, rest, hlex, hlength⟩ := exists_between_seams hstart hmiddle hle
  have hwhole : text.drop start = raw done ++ raw rest := by
    rw [← raw_append, ← hlex, raw_lex]
  have hfirst : stretch text start middle = raw done := by
    rw [stretch, List.drop_take, hwhole, ← hlength, List.take_left]
  have hrest : text.drop middle = raw rest := by
    rw [show middle = start + (middle - start) by omega, ← List.drop_drop, hwhole, ← hlength,
      List.drop_left]
  -- the lexemes before the cut depend on the first character behind it at most, and this one stays
  have hhead : ∀ d ∈ (stretch text middle stop).head?, d ∈ (raw rest).head? := by
    intro d hd
    rw [stretch, List.drop_take, hrest] at hd
    cases hraw : raw rest with
    | nil => simp [hraw] at hd
    | cons e others =>
        rw [hraw] at hd
        cases hcount : stop - middle with
        | zero => simp [hcount] at hd
        | succ n =>
            rw [hcount] at hd
            exact hd
  rw [stretch_append hle hstop, hfirst, lex_raw_append hlex hhead,
    lex_raw_of_prefix ⟨rest, hlex.symm⟩]

/-- **A stretch that begins at a seam is a gap exactly if its parts before and behind another seam are.** -/
theorem isFilling_stretch_iff {text : Text} {start middle stop : Nat} (hstart : start ∈ seams text)
    (hmiddle : middle ∈ seams text) (hle : start ≤ middle) (hstop : middle ≤ stop) :
    IsFilling (stretch text start stop) ↔
      IsFilling (stretch text start middle) ∧ IsFilling (stretch text middle stop) := by
  rw [IsFilling, lex_stretch hstart hmiddle hle hstop, List.forall_mem_append]
  rfl

end RouteAtlas.Source
