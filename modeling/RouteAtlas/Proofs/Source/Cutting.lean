import RouteAtlas.Proofs.Source.Joining
import Mathlib.Data.List.TakeWhile

/-!
# Lexemes of pieces

Where a lexeme ends is settled by its own characters and the one behind them. So a text can be cut
between two lexemes: the lexemes before the cut are those of the text before it, whatever is put in the
place of the rest, as long as that starts with the same character or is nothing at all
(`lex_raw_append`). Blanks at the ends of a text are code or belong to a comment, so trimming takes
nothing but them away (`lex_concat_blank`).
-/

set_option autoImplicit false

namespace RouteAtlas.Source

open Text

/-! ## Cuts between lexemes -/

/-- **The first lexeme of a text is settled by its own characters and the next one**: it stays when
what is behind it is replaced by something that starts with the same character, or is dropped. -/
theorem Reads.replace {c : Char} {rest behind more : Text} {lexeme : Lexeme}
    (h : Reads c rest lexeme behind) (hmore : ∀ d ∈ more.head?, d ∈ behind.head?) :
    ∃ inner, lexeme.raw = c :: inner ∧ Reads c (inner ++ more) lexeme more := by
  -- where nothing was behind the lexeme, nothing is put there
  have hempty : behind = [] → more = [] := by
    rintro rfl
    cases more with
    | nil => rfl
    | cons d more => exact absurd (hmore d rfl) (by simp)
  cases h with
  | plain hplain => exact ⟨[], rfl, .plain hplain⟩
  | @literal _ _ body _ hquote hclose =>
      exact ⟨body, rfl, .literal hquote (closeLiteral_replace hclose more)⟩
  | broken hquote hclose =>
      refine ⟨rest, rfl, ?_⟩
      rw [hempty rfl, List.append_nil]
      exact .broken hquote hclose
  | @line line =>
      have hnewline : ∀ d ∈ more.head?, d = '\n' := by
        intro d hd
        have hstop := List.head?_dropWhile_not (fun c => decide (c ≠ '\n')) line
        rw [hmore d hd] at hstop
        simpa using hstop
      have hline : ∀ d ∈ line.takeWhile (· ≠ '\n'), decide (d ≠ '\n') = true := by
        intro d hd
        exact List.mem_takeWhile_imp (p := fun c => decide (c ≠ '\n')) hd
      obtain ⟨htake, hdrop⟩ := @line_append (line.takeWhile (· ≠ '\n')) more fun _ => hnewline
      rw [List.takeWhile_eq_self_iff.2 hline] at htake
      rw [List.dropWhile_eq_nil_iff.2 hline, List.nil_append] at hdrop
      have hreads := @Reads.line (line.takeWhile (· ≠ '\n') ++ more)
      rw [htake, hdrop] at hreads
      exact ⟨'/' :: line.takeWhile (· ≠ '\n'), rfl, hreads⟩
  | @block inner body _ hcut =>
      refine ⟨'*' :: (body ++ ['*', '/']), rfl, ?_⟩
      exact .block (cut?_replace (by decide) hcut more)
  | @openBlock inner hcut =>
      refine ⟨'*' :: inner, rfl, ?_⟩
      rw [hempty rfl, List.append_nil]
      exact .openBlock hcut
  | slash hslash => exact ⟨[], rfl, .slash fun d hd => hslash d (hmore d hd)⟩

theorem raw_cons (lexeme : Lexeme) (rest : List Lexeme) :
    raw (lexeme :: rest) = lexeme.raw ++ raw rest := rfl

theorem raw_append (first rest : List Lexeme) : raw (first ++ rest) = raw first ++ raw rest :=
  List.flatMap_append

/-- **A text can be cut between two lexemes.** Those before the cut stay when the rest is replaced by a
text that starts with the same character, or is dropped. -/
theorem lex_raw_append {text : Text} {first rest : List Lexeme} (h : lex text = first ++ rest)
    {more : Text} (hmore : ∀ d ∈ more.head?, d ∈ (raw rest).head?) :
    lex (raw first ++ more) = first ++ lex more := by
  fun_induction lex text generalizing first with
  | case1 =>
      obtain ⟨rfl, rfl⟩ := List.append_eq_nil_iff.1 h.symm
      rfl
  | case2 c inner ih =>
      cases first with
      | nil => rfl
      | cons lexeme first =>
          rw [List.cons_append, List.cons.injEq] at h
          obtain ⟨rfl, hrest⟩ := h
          -- the character behind the lexeme is the same, whether it comes from the lexemes or not
          have hbehind : ∀ d ∈ (raw first ++ more).head?, d ∈ (next c inner).2.head? := by
            intro d hd
            rw [← raw_lex (next c inner).2, hrest, raw_append]
            cases hfirst : raw first with
            | nil =>
                rw [hfirst] at hd
                exact hmore d hd
            | cons e others =>
                rw [hfirst] at hd
                exact hd
          obtain ⟨chars, hraw, hreads⟩ := (reads_next c inner).replace hbehind
          rw [raw_cons, hraw, List.append_assoc, List.cons_append, lex_cons, hreads.next_eq,
            ih hrest, List.cons_append]

/-- The lexemes up to some point are those of their text. -/
theorem lex_raw_of_prefix {text : Text} {first : List Lexeme} (h : first <+: lex text) :
    lex (raw first) = first := by
  obtain ⟨rest, hrest⟩ := h
  have hcut : lex (raw first ++ []) = first ++ lex [] := lex_raw_append hrest.symm (by simp)
  rwa [List.append_nil, lex, List.append_nil] at hcut

/-! ## Blanks at the end -/

theorem ne_of_isBlank {b c : Char} (hb : isBlank b = true) (hc : isBlank c = false) : b ≠ c := by
  rintro rfl
  rw [hb] at hc
  cases hc

theorem isPlain_of_isBlank {b : Char} (hb : isBlank b = true) : isPlain b = true := by
  have hsingle : b ≠ '\'' := ne_of_isBlank hb (by decide)
  have hdouble : b ≠ '"' := ne_of_isBlank hb (by decide)
  have hback : b ≠ '\x60' := ne_of_isBlank hb (by decide)
  have hslash : b ≠ '/' := ne_of_isBlank hb (by decide)
  simp [isPlain, isQuote, hsingle, hdouble, hback, hslash]

/-- Only its quote closes a literal. -/
theorem closeLiteral_concat {quote b : Char} (hquote : b ≠ quote) (hescape : b ≠ '\\') {text : Text}
    (h : closeLiteral quote text = none) : closeLiteral quote (text ++ [b]) = none := by
  fun_induction closeLiteral quote text with
  | case1 => simp [closeLiteral_cons hescape, hquote, closeLiteral]
  | case2 => simp [closeLiteral]
  | case3 c text ih => simpa [closeLiteral] using ih (by simpa using h)
  | case4 => cases h
  | case5 c text hsingle hpair hc ih =>
      rw [List.cons_append, closeLiteral_cons (ne_backslash hsingle hpair), if_neg hc,
        ih (by simpa using h)]
      rfl

/-- Only a slash closes a block comment. -/
theorem cut?_concat {b : Char} (hb : b ≠ '/') {text : Text} (h : cut? ['*', '/'] text = none) :
    cut? ['*', '/'] (text ++ [b]) = none := by
  induction text with
  | nil =>
      have hstart : dropStart? ['*', '/'] [b] = none := by
        rw [dropStart?]
        split
        · rfl
        · rfl
      rw [List.nil_append, cut?, hstart]
      rfl
  | cons c rest ih =>
      rw [cut?] at h
      cases hstart : dropStart? ['*', '/'] (c :: rest) with
      | some behind => simp [hstart] at h
      | none =>
          simp only [hstart, Option.map_eq_none_iff] at h
          have hlonger : dropStart? ['*', '/'] (c :: rest ++ [b]) = none := by
            cases rest with
            | nil => simp [dropStart?, hb.symm]
            | cons d rest => exact dropStart?_append_of_none hstart (by simp) [b]
          rw [List.cons_append] at hlonger ⊢
          rw [cut?, hlonger, ih h]
          rfl

/-- What a blank behind a text does to its lexemes: it is one more of them, or it belongs to a comment or
a broken literal that takes the end of the text. -/
inductive Continued (b : Char) : List Lexeme → List Lexeme → Prop where
  | code {lexemes : List Lexeme} : Continued b lexemes (lexemes ++ [.code b])
  | comment {first : List Lexeme} {last : Text} :
      Continued b (first ++ [.comment last]) (first ++ [.comment (last ++ [b])])
  | broken {lexemes first : List Lexeme} {last : Text} : Continued b lexemes (first ++ [.broken last])

theorem Continued.cons {b : Char} {lexemes longer : List Lexeme} (h : Continued b lexemes longer)
    (lexeme : Lexeme) : Continued b (lexeme :: lexemes) (lexeme :: longer) := by
  cases h with
  | code => exact .code
  | @comment first => exact @Continued.comment b (lexeme :: first) _
  | @broken _ first => exact @Continued.broken b _ (lexeme :: first) _

/-- A line comment that takes the whole text goes on with anything but a newline. -/
theorem lex_line_concat {line : Text} {b : Char} (hb : b ≠ '\n') (h : ∀ d ∈ line, d ≠ '\n') :
    lex ('/' :: '/' :: (line ++ [b])) = [.comment ('/' :: '/' :: (line ++ [b]))] := by
  have hline : ∀ d ∈ line ++ [b], decide (d ≠ '\n') = true := by
    intro d hd
    rcases List.mem_append.1 hd with hd | hd
    · exact decide_eq_true (h d hd)
    · rw [List.mem_singleton.1 hd]
      exact decide_eq_true hb
  rw [lex_cons, Reads.line.next_eq, List.takeWhile_eq_self_iff.2 hline,
    List.dropWhile_eq_nil_iff.2 hline, lex]

/-- **A blank behind a text leaves the lexemes of the text alone**, but for a comment or a broken literal
at its end. -/
theorem lex_concat_blank {b : Char} (hb : isBlank b = true) (text : Text) :
    Continued b (lex text) (lex (text ++ [b])) := by
  fun_induction lex text with
  | case1 =>
      rw [List.nil_append, lex_cons_plain (isPlain_of_isBlank hb), lex]
      exact .code
  | case2 c rest ih =>
      have hreads := reads_next c rest
      rw [List.cons_append]
      generalize next c rest = pair at hreads ih ⊢
      obtain ⟨lexeme, behind⟩ := pair
      -- where the first lexeme stays, the blank stands behind the rest of the text
      have pass : Reads c (rest ++ [b]) lexeme (behind ++ [b]) →
          Continued b (lexeme :: lex behind) (lex (c :: (rest ++ [b]))) := by
        intro hlonger
        rw [lex_cons, hlonger.next_eq]
        exact ih.cons lexeme
      cases hreads with
      | plain hplain => exact pass (.plain hplain)
      | literal hquote hclose => exact pass (.literal hquote (closeLiteral_append hclose [b]))
      | broken hquote hclose =>
          have hne : b ≠ c := by
            rintro rfl
            have hplain := isPlain_of_isBlank hb
            simp [isPlain, hquote] at hplain
          have hopen := closeLiteral_concat hne (ne_of_isBlank hb (by decide)) hclose
          rw [lex_cons, (Reads.broken hquote hopen).next_eq, lex]
          exact @Continued.broken b _ [] _
      | @line line =>
          by_cases hends : line.dropWhile (· ≠ '\n') = [] → b = '\n'
          · obtain ⟨htake, hdrop⟩ := @line_append line [b] fun hend d hd => by
              rw [← hends hend]
              simpa using hd.symm
            apply pass
            rw [← htake, ← hdrop]
            exact .line
          · obtain ⟨hend, hnewline⟩ := Classical.not_imp.1 hends
            have hline : ∀ d ∈ line, d ≠ '\n' := fun d hd =>
              of_decide_eq_true (List.dropWhile_eq_nil_iff.1 hend d hd)
            have htake : line.takeWhile (· ≠ '\n') = line :=
              List.takeWhile_eq_self_iff.2 fun d hd => decide_eq_true (hline d hd)
            simp only [hend, htake, List.cons_append, lex_line_concat hnewline hline, lex]
            exact @Continued.comment b [] _
      | block hcut => exact pass (.block (cut?_append (by decide) hcut [b]))
      | openBlock hcut =>
          have hopen := cut?_concat (ne_of_isBlank hb (by decide)) hcut
          rw [List.cons_append, lex_cons, (Reads.openBlock hopen).next_eq, lex]
          exact @Continued.comment b [] _
      | slash hslash =>
          refine pass (.slash (head_append_slash hslash fun _ _ d hd => ?_))
          obtain rfl : b = d := by simpa using hd
          exact ⟨ne_of_isBlank hb (by decide), ne_of_isBlank hb (by decide)⟩

end RouteAtlas.Source
