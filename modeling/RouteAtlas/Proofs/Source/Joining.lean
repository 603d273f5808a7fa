import RouteAtlas.Proofs.Source.Plain

/-!
# Lexemes of joined texts

A text that is continued keeps its lexemes, except perhaps the last one: an open literal may be closed,
a comment may go on, and a slash may start a comment (`lex_append`). Behind a newline nothing but an
open literal and an open block comment can go on, so a text that ends in neither is lexed by itself
(`lex_append_newline`). Such a text followed by a newline and a semicolon is not made blank by taking
the comments out of it, whatever comes behind (`not_blank_of_semicolon`), although comments are taken
out without regard to literals.
-/

set_option autoImplicit false

namespace RouteAtlas.Source

open Text

/-! ## Pieces of continued texts -/

theorem dropStart?_append_of_none {start text : Text} (h : dropStart? start text = none)
    (hlength : start.length ≤ text.length) (more : Text) : dropStart? start (text ++ more) = none := by
  induction start generalizing text with
  | nil => simp [dropStart?] at h
  | cons c start ih =>
      cases text with
      | nil => simp at hlength
      | cons d text =>
          simp only [dropStart?, List.cons_append] at h ⊢
          split at h
          · rename_i hcd
            rw [if_pos hcd]
            exact ih h (by simpa using hlength)
          · rename_i hcd
            rw [if_neg hcd]

/-- A piece is found at the same place whatever stands behind it. -/
theorem cut?_replace {piece text before behind : Text} (hpiece : piece ≠ [])
    (h : cut? piece text = some (before, behind)) (more : Text) :
    cut? piece (before ++ piece ++ more) = some (before, more) := by
  induction text generalizing before with
  | nil => simp [cut?, hpiece] at h
  | cons c rest ih =>
      rw [cut?] at h
      cases hstart : dropStart? piece (c :: rest) with
      | some found =>
          rw [hstart] at h
          cases h
          obtain ⟨d, piece, rfl⟩ := List.exists_cons_of_ne_nil hpiece
          rw [List.nil_append, List.cons_append, cut?, ← List.cons_append, dropStart?_append]
      | none =>
          rw [hstart] at h
          obtain ⟨⟨inner, found⟩, hcut, heq⟩ := Option.map_eq_some_iff.1 h
          cases heq
          -- the piece does not start at the first character, which shows in the characters up to its end
          have hshort : dropStart? piece (c :: (inner ++ piece)) = none := by
            cases hdrop : dropStart? piece (c :: (inner ++ piece)) with
            | none => rfl
            | some left =>
                have hlonger : c :: rest = piece ++ (left ++ behind) := by
                  rw [← append_of_cut? hcut, ← List.append_assoc, append_of_dropStart? hdrop]
                  rfl
                rw [hlonger, dropStart?_append] at hstart
                cases hstart
          have hlength : piece.length ≤ (c :: (inner ++ piece)).length := by
            simp only [List.length_cons, List.length_append]
            omega
          have hnone := dropStart?_append_of_none hshort hlength more
          rw [List.cons_append, List.cons_append, cut?]
          rw [List.cons_append] at hnone
          rw [hnone, ih hcut]
          rfl

/-- A piece that is found in a text is found at the same place when the text goes on. -/
theorem cut?_append {piece text before behind : Text} (hpiece : piece ≠ [])
    (h : cut? piece text = some (before, behind)) (more : Text) :
    cut? piece (text ++ more) = some (before, behind ++ more) := by
  rw [← append_of_cut? h, List.append_assoc, cut?_replace hpiece h]

theorem closeLiteral_cons {quote c : Char} (hc : c ≠ '\\') (rest : Text) :
    closeLiteral quote (c :: rest) = if c = quote then some ([c], rest)
      else (closeLiteral quote rest).map fun (body, rest) => (c :: body, rest) := by
  rw [closeLiteral]
  · intro hescape _
    exact hc hescape
  · intro _ _ hescape _
    exact hc hescape

/-- The first character of a text is no backslash where neither row for backslashes applies. -/
theorem ne_backslash {c : Char} {rest : Text} (hsingle : c = '\\' → rest = [] → False)
    (hescape : ∀ d tail, c = '\\' → rest = d :: tail → False) : c ≠ '\\' := by
  intro hc
  cases rest with
  | nil => exact hsingle hc rfl
  | cons d tail => exact hescape d tail hc rfl

/-- A literal is closed at the same place whatever stands behind it. -/
theorem closeLiteral_replace {quote : Char} {text body behind : Text}
    (h : closeLiteral quote text = some (body, behind)) (more : Text) :
    closeLiteral quote (body ++ more) = some (body, more) := by
  fun_induction closeLiteral quote text generalizing body with
  | case1 => cases h
  | case2 => cases h
  | case3 c text ih =>
      obtain ⟨⟨inner, found⟩, hclose, heq⟩ := Option.map_eq_some_iff.1 h
      cases heq
      simp [closeLiteral, ih hclose]
  | case4 text hsingle hescape =>
      cases h
      rw [List.cons_append, closeLiteral_cons (ne_backslash hsingle hescape), if_pos rfl]
      rfl
  | case5 c text hsingle hescape hc ih =>
      obtain ⟨⟨inner, found⟩, hclose, heq⟩ := Option.map_eq_some_iff.1 h
      cases heq
      rw [List.cons_append, closeLiteral_cons (ne_backslash hsingle hescape), if_neg hc, ih hclose]
      rfl

theorem closeLiteral_append {quote : Char} {text body rest : Text}
    (h : closeLiteral quote text = some (body, rest)) (more : Text) :
    closeLiteral quote (text ++ more) = some (body, rest ++ more) := by
  rw [← append_of_closeLiteral h, List.append_assoc, closeLiteral_replace h]

/-! ## The last lexeme -/

/-- A block comment that is never closed. -/
def Lexeme.isOpenBlock : Lexeme → Bool
  | .comment ('/' :: '*' :: inner) => !occurs ['*', '/'] inner
  | _ => false

/-- A text ends inside a block comment. -/
def endsInBlock (text : Text) : Bool := (lex text).getLast?.any Lexeme.isOpenBlock

/-- The lexeme may change when more text comes behind it. -/
def Lexeme.isLoose : Lexeme → Bool
  | .code c => c == '/'
  | .literal _ => false
  | .comment _ => true
  | .broken _ => true

/-- The lexeme, at the end of a text, stays as it is when the given text comes behind it. -/
def Seals (more : Text) : Lexeme → Prop
  | .code c => c = '/' → ∀ d ∈ more.head?, d ≠ '/' ∧ d ≠ '*'
  | .literal _ => True
  | .comment raw => (Lexeme.comment raw).isOpenBlock = false ∧ ∀ d ∈ more.head?, d = '\n'
  | .broken _ => False

theorem isLoose_of_not_seals {more : Text} {lexeme : Lexeme} (h : ¬ Seals more lexeme) :
    lexeme.isLoose = true := by
  cases lexeme with
  | code c =>
      by_cases hc : c = '/'
      · rw [Lexeme.isLoose, hc]
        rfl
      · exact absurd (fun hslash => absurd hslash hc) h
  | literal raw => exact absurd trivial h
  | comment raw => rfl
  | broken raw => rfl

theorem not_seals_openBlock {inner : Text} (hcut : cut? ['*', '/'] inner = none) (more : Text) :
    ¬ Seals more (.comment ('/' :: '*' :: inner)) := by
  intro h
  have hopen := h.1
  simp [Lexeme.isOpenBlock, occurs, hcut] at hopen

/-- A slash that starts no comment still starts none in a text that goes on. -/
theorem head_append_slash {rest more : Text} (h : ∀ d ∈ rest.head?, d ≠ '/' ∧ d ≠ '*')
    (hseals : rest = [] → Seals more (.code '/')) : ∀ d ∈ (rest ++ more).head?, d ≠ '/' ∧ d ≠ '*' := by
  intro d hd
  cases rest with
  | nil => exact hseals rfl rfl d hd
  | cons e rest => exact h d hd

/-- A line goes on to its newline, wherever the text behind it comes from. -/
theorem line_append {line more : Text}
    (h : line.dropWhile (· ≠ '\n') = [] → ∀ d ∈ more.head?, d = '\n') :
    (line ++ more).takeWhile (· ≠ '\n') = line.takeWhile (· ≠ '\n') ∧
      (line ++ more).dropWhile (· ≠ '\n') = line.dropWhile (· ≠ '\n') ++ more := by
  induction line with
  | nil =>
      cases more with
      | nil => exact ⟨rfl, rfl⟩
      | cons d more =>
          obtain rfl := h rfl d rfl
          exact ⟨rfl, rfl⟩
  | cons c line ih =>
      by_cases hc : c = '\n'
      · simp [hc]
      · simp only [List.cons_append, List.takeWhile_cons, List.dropWhile_cons, hc, ne_eq,
          not_false_eq_true, decide_true, if_true] at h ⊢
        obtain ⟨htake, hdrop⟩ := ih h
        exact ⟨congrArg (c :: ·) htake, hdrop⟩

/-- What the first lexeme of a text can be, and the text behind it. -/
inductive Reads : Char → Text → Lexeme → Text → Prop where
  | plain {c : Char} {rest : Text} : isPlain c = true → Reads c rest (.code c) rest
  | literal {c : Char} {rest body behind : Text} : isQuote c = true →
      closeLiteral c rest = some (body, behind) → Reads c rest (.literal (c :: body)) behind
  | broken {c : Char} {rest : Text} : isQuote c = true → closeLiteral c rest = none →
      Reads c rest (.broken (c :: rest)) []
  | line {line : Text} : Reads '/' ('/' :: line)
      (.comment ('/' :: '/' :: line.takeWhile (· ≠ '\n'))) (line.dropWhile (· ≠ '\n'))
  | block {inner body behind : Text} : cut? ['*', '/'] inner = some (body, behind) →
      Reads '/' ('*' :: inner) (.comment ('/' :: '*' :: (body ++ ['*', '/']))) behind
  | openBlock {inner : Text} : cut? ['*', '/'] inner = none →
      Reads '/' ('*' :: inner) (.comment ('/' :: '*' :: inner)) []
  | slash {rest : Text} : (∀ d ∈ rest.head?, d ≠ '/' ∧ d ≠ '*') → Reads '/' rest (.code '/') rest

theorem Reads.next_eq {c : Char} {rest behind : Text} {lexeme : Lexeme}
    (h : Reads c rest lexeme behind) : next c rest = (lexeme, behind) := by
  cases h with
  | plain hplain =>
      rw [isPlain, Bool.not_eq_true', Bool.or_eq_false_iff, beq_eq_false_iff_ne] at hplain
      simp [next, hplain.1, hplain.2]
  | literal hquote hclose => simp [next, hquote, hclose]
  | broken hquote hclose => simp [next, hquote, hclose]
  | line => rfl
  | block hcut => simp [next, isQuote, hcut]
  | openBlock hcut => simp [next, isQuote, hcut]
  | slash hslash =>
      cases rest with
      | nil => rfl
      | cons d rest =>
          obtain ⟨hline, hblock⟩ := hslash d rfl
          unfold next
          rw [if_neg (by decide), if_pos rfl]
          split
          · rename_i heq
            exact absurd (List.cons.inj heq).1 hline
          · rename_i heq
            exact absurd (List.cons.inj heq).1 hblock
          · rfl

theorem reads_next (c : Char) (rest : Text) : Reads c rest (next c rest).1 (next c rest).2 := by
  have hreads : ∃ lexeme behind, Reads c rest lexeme behind := by
    by_cases hquote : isQuote c = true
    · cases hclose : closeLiteral c rest with
      | none => exact ⟨_, _, .broken hquote hclose⟩
      | some pair => exact ⟨_, _, .literal hquote hclose⟩
    · by_cases hslash : c = '/'
      · subst hslash
        by_cases hmark : ∀ d ∈ rest.head?, d ≠ '/' ∧ d ≠ '*'
        · exact ⟨_, _, .slash hmark⟩
        · -- a slash or a star follows, and opens a comment
          cases rest with
          | nil => exact absurd (by simp) hmark
          | cons d rest =>
              by_cases hline : d = '/'
              · subst hline
                exact ⟨_, _, .line⟩
              · obtain rfl : d = '*' := by simpa [hline] using hmark
                cases hcut : cut? ['*', '/'] rest with
                | none => exact ⟨_, _, .openBlock hcut⟩
                | some pair => exact ⟨_, _, .block hcut⟩
      · exact ⟨_, _, .plain (by simp [isPlain, hquote, hslash])⟩
  obtain ⟨lexeme, behind, hreads⟩ := hreads
  rw [hreads.next_eq]
  exact hreads

/-- **The first lexeme of a text stays when the text goes on**, unless it takes the whole text and is
continued. -/
theorem Reads.append {c : Char} {rest behind more : Text} {lexeme : Lexeme}
    (h : Reads c rest lexeme behind) (hseals : behind = [] → Seals more lexeme) :
    Reads c (rest ++ more) lexeme (behind ++ more) := by
  cases h with
  | plain hplain => exact .plain hplain
  | literal hquote hclose => exact .literal hquote (closeLiteral_append hclose more)
  | broken hquote hclose => exact absurd (hseals rfl) id
  | @line line =>
      obtain ⟨htake, hdrop⟩ := line_append fun hend => (hseals hend).2
      rw [← htake, ← hdrop]
      exact .line
  | block hcut => exact .block (cut?_append (by decide) hcut more)
  | openBlock hcut => exact absurd (hseals rfl) (not_seals_openBlock hcut more)
  | slash hslash => exact .slash (head_append_slash hslash hseals)

/-! ## Lexing -/

theorem lex_cons (c : Char) (rest : Text) : lex (c :: rest) = (next c rest).1 :: lex (next c rest).2 := by
  rw [lex]

/-- **A text that goes on keeps its lexemes**, except perhaps the last one. -/
theorem lex_append (text more : Text) : ∃ common tail rest,
    lex text = common ++ tail ∧ lex (text ++ more) = common ++ rest ∧
      (tail = [] ∨ ∃ last, tail = [last] ∧ last.isLoose = true) := by
  fun_induction lex text with
  | case1 => exact ⟨[], [], lex more, rfl, rfl, .inl rfl⟩
  | case2 c rest ih =>
      have hreads := reads_next c rest
      by_cases hseals : (next c rest).2 = [] → Seals more (next c rest).1
      · obtain ⟨common, tail, others, hlex, hlonger, htail⟩ := ih
        refine ⟨(next c rest).1 :: common, tail, others, ?_, ?_, htail⟩
        · rw [hlex, List.cons_append]
        · rw [List.cons_append, lex_cons, (hreads.append hseals).next_eq, hlonger, List.cons_append]
      · obtain ⟨hend, hloose⟩ := Classical.not_imp.1 hseals
        refine ⟨[], [(next c rest).1], _, ?_, rfl, .inr ⟨_, rfl, isLoose_of_not_seals hloose⟩⟩
        rw [hend, lex, List.nil_append]

/-- A lexeme that takes the whole text is the last one. -/
theorem getLast?_lex_cons (c : Char) (rest : Text) :
    (lex (c :: rest)).getLast? =
      if (next c rest).2 = [] then some (next c rest).1 else (lex (next c rest).2).getLast? := by
  rw [lex_cons]
  split
  · rename_i hend
    rw [hend, lex]
    rfl
  · rename_i hgoes
    obtain ⟨d, behind, hbehind⟩ := List.exists_cons_of_ne_nil hgoes
    rw [hbehind, lex_cons, List.getLast?_cons_cons]

/-- A text ends in neither an open literal nor an open block comment, so that a newline behind it
leaves its lexemes alone. -/
def IsSealed (text : Text) : Prop := ∀ last ∈ (lex text).getLast?, Seals ['\n'] last

/-- Where a text is sealed, so is its first lexeme, if it is the last, and the text behind it. -/
theorem IsSealed.cons {c : Char} {rest : Text} (h : IsSealed (c :: rest)) (more : Text) :
    ((next c rest).2 = [] → Seals ('\n' :: more) (next c rest).1) ∧ IsSealed (next c rest).2 := by
  rw [IsSealed, getLast?_lex_cons] at h
  by_cases hend : (next c rest).2 = []
  · rw [if_pos hend] at h
    refine ⟨fun _ => ?_, ?_⟩
    · -- of what comes behind, only the first character matters
      have hlast := h _ rfl
      cases hlexeme : (next c rest).1 with
      | _ => rwa [hlexeme] at hlast
    · rw [hend, IsSealed, lex]
      simp
  · rw [if_neg hend] at h
    exact ⟨fun hnil => absurd hnil hend, h⟩

/-- **A sealed text and what stands behind a newline are lexed apart.** -/
theorem lex_append_newline {text : Text} (h : IsSealed text) (rest : Text) :
    lex (text ++ '\n' :: rest) = lex text ++ lex ('\n' :: rest) := by
  fun_induction lex text with
  | case1 => rfl
  | case2 c inner ih =>
      obtain ⟨hseals, hbehind⟩ := h.cons rest
      rw [List.cons_append, lex_cons, ((reads_next c inner).append hseals).next_eq, List.cons_append,
        ih hbehind]

/-- The lexemes from some point on are those of their text. -/
theorem lex_raw_of_suffix {text : Text} {last : List Lexeme} (h : last <:+ lex text) :
    lex (raw last) = last := by
  fun_induction lex text with
  | case1 =>
      rw [List.suffix_nil] at h
      rw [h, raw, List.flatMap_nil, lex]
  | case2 c rest ih =>
      rcases List.suffix_cons_iff.1 h with rfl | hlater
      · rw [← lex_cons, raw_lex]
      · exact ih hlater

/-! ## Gaps -/

theorem withoutComments_cons {c : Char} (hc : c ≠ '/') (rest : Text) :
    withoutComments (c :: rest) = c :: withoutComments rest := by
  rw [withoutComments]
  · intro line hslash
    exact absurd hslash hc
  · intro inner hslash
    exact absurd hslash hc

theorem withoutComments_block {inner body behind : Text}
    (hcut : cut? ['*', '/'] inner = some (body, behind)) :
    withoutComments ('/' :: '*' :: inner) = withoutComments behind := by
  rw [withoutComments]
  split
  · rename_i hfound
    cases hcut.symm.trans hfound
    rfl
  · rename_i hnone
    cases hcut.symm.trans hnone

theorem withoutComments_slash {rest : Text} (h : ∀ d ∈ rest.head?, d ≠ '/' ∧ d ≠ '*') :
    withoutComments ('/' :: rest) = '/' :: withoutComments rest := by
  rw [withoutComments]
  · intro line _ hrest
    exact (h '/' (by rw [hrest]; rfl)).1 rfl
  · intro inner _ hrest
    exact (h '*' (by rw [hrest]; rfl)).2 rfl

theorem isBlankText_cons (c : Char) (rest : Text) :
    isBlankText (c :: rest) = (isBlank c && isBlankText rest) := rfl

/-- Taking comments out goes along with lexing up to the first character that stays: behind a lexeme,
what is not blank makes the whole not blank, and a lexeme other than a comment or a blank does so by
itself. -/
theorem Reads.not_blank {c : Char} {rest behind more : Text} {lexeme : Lexeme}
    (h : Reads c rest lexeme behind) (hseals : behind = [] → Seals more lexeme)
    (hbehind : isBlankText (withoutComments (behind ++ more)) = false) :
    isBlankText (withoutComments (c :: rest ++ more)) = false := by
  rw [List.cons_append]
  cases h with
  | plain hplain =>
      have hc : c ≠ '/' := by
        rintro rfl
        exact absurd hplain (by decide)
      rw [withoutComments_cons hc, isBlankText_cons, hbehind, Bool.and_false]
  | literal hquote hclose =>
      have hc : c ≠ '/' ∧ isBlank c = false := by
        simp only [isQuote, Bool.or_eq_true, beq_iff_eq] at hquote
        rcases hquote with (rfl | rfl) | rfl
        · decide
        · decide
        · decide
      rw [withoutComments_cons hc.1, isBlankText_cons, hc.2, Bool.false_and]
  | broken hquote hclose => exact absurd (hseals rfl) id
  | @line line =>
      obtain ⟨-, hdrop⟩ := line_append fun hend => (hseals hend).2
      rw [List.cons_append, withoutComments, hdrop]
      exact hbehind
  | block hcut =>
      rw [List.cons_append, withoutComments_block (cut?_append (by decide) hcut more)]
      exact hbehind
  | openBlock hcut => exact absurd (hseals rfl) (not_seals_openBlock hcut more)
  | slash hslash =>
      rw [withoutComments_slash (head_append_slash hslash hseals)]
      rfl

/-- **A semicolon on a line of its own stays when the comments are taken out**, behind any sealed
text. -/
theorem not_blank_of_semicolon {text : Text} (h : IsSealed text) (rest : Text) :
    isBlankText (withoutComments (text ++ '\n' :: ';' :: rest)) = false := by
  fun_induction lex text with
  | case1 =>
      rw [List.nil_append, withoutComments_cons (by decide), withoutComments_cons (by decide)]
      rfl
  | case2 c inner ih =>
      obtain ⟨hseals, hbehind⟩ := h.cons (';' :: rest)
      exact (reads_next c inner).not_blank hseals (ih hbehind)

/-! ## Closers -/

theorem Closes.comment {depth : Nat} {rest inside behind : List Lexeme}
    (h : Closes depth rest inside behind) (text : Text) :
    Closes depth (.comment text :: rest) (.comment text :: inside) behind := by
  intro start offset
  rw [splitAtCloser, h start (offset + text.length)]
  rfl

/-- A closer that is found is found from any offset, and whatever stands behind it. -/
theorem closes_of_splitAtCloser {start : Int} {offset depth : Nat}
    {lexemes inside behind : List Lexeme}
    (h : splitAtCloser .round start offset depth lexemes = .ok (inside, behind))
    (other : List Lexeme) : Closes depth (inside ++ .code ')' :: other) inside other := by
  fun_induction splitAtCloser .round start offset depth lexemes generalizing inside with
  | case1 => cases h
  | case2 => cases h
  | case3 offset rest =>
      cases h
      exact closes_end
  | case4 offset rest depth ih =>
      obtain ⟨tail, htail, rfl⟩ := map_cons_eq_ok.1 h
      exact (ih htail).close
  | case5 offset depth c rest hc ih =>
      obtain ⟨tail, htail, rfl⟩ := map_cons_eq_ok.1 h
      have hrest : Closes (if c = '(' then depth + 1 else depth) (tail ++ .code ')' :: other) tail
          other := ih htail
      intro start offset
      rw [List.cons_append, splitAtCloser_code hc, hrest start (offset + 1)]
      rfl
  | case6 offset depth literal rest ih =>
      obtain ⟨tail, htail, rfl⟩ := map_cons_eq_ok.1 h
      exact (ih htail).literal literal
  | case7 offset depth comment rest ih =>
      obtain ⟨tail, htail, rfl⟩ := map_cons_eq_ok.1 h
      exact (ih htail).comment comment

end RouteAtlas.Source
