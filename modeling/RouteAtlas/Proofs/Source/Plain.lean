import RouteAtlas.Proofs.Text.Names
import RouteAtlas.Source.Literal

/-!
# Plain calls

Plain code has no quotes and no slashes, so every character of it is a lexeme of its own, whatever
follows; a text in single quotes without quotes and backslashes inside is one literal. For code put
together from such pieces, this module says where a call is closed and which arguments it has.
-/

set_option autoImplicit false

namespace RouteAtlas.Source

open Text

/-- The character neither opens a literal nor starts a comment. -/
def isPlain (c : Char) : Bool := !(isQuote c || c == '/')

/-- The characters of a class without some marks are none of these. -/
theorem forall_ne_of {p : Char → Bool} {marks : List Char} (h : marks.any p = false) {c : Char}
    (hc : p c = true) : ∀ mark ∈ marks, c ≠ mark := by
  rintro mark hmark rfl
  exact List.any_eq_false.1 h c hmark hc

/-- The characters of a class without quotes and the slash are plain. -/
theorem isPlain_of {p : Char → Bool} (hmarks : ['\'', '"', '\x60', '/'].any p = false) {c : Char}
    (h : p c = true) : isPlain c = true := by
  have hne := forall_ne_of hmarks h
  simp only [List.forall_mem_cons] at hne
  simp [isPlain, isQuote, hne]

theorem isPlain_of_isNamePart {c : Char} (h : isNamePart c = true) : isPlain c = true :=
  isPlain_of (by decide) h

theorem all_isPlain_of_isName {name : Text} (h : IsName name) : name.all isPlain = true :=
  List.all_eq_true.2 fun c hc => isPlain_of_isNamePart (h.parts c hc)

/-- Code character by character. -/
def codes (text : Text) : List Lexeme := text.map .code

theorem codes_append (text rest : Text) : codes (text ++ rest) = codes text ++ codes rest :=
  List.map_append

theorem raw_codes (text : Text) : raw (codes text) = text := by
  induction text with
  | nil => rfl
  | cons c rest ih =>
      show c :: raw (codes rest) = c :: rest
      rw [ih]

/-! ## Lexing -/

theorem lex_cons_plain {c : Char} (h : isPlain c = true) (rest : Text) :
    lex (c :: rest) = .code c :: lex rest := by
  rw [isPlain, Bool.not_eq_true', Bool.or_eq_false_iff, beq_eq_false_iff_ne] at h
  have hnext : next c rest = (.code c, rest) := by
    unfold next
    rw [h.1, if_neg h.2]
    rfl
  rw [lex, hnext]

theorem lex_append_plain {text : Text} (h : text.all isPlain = true) (rest : Text) :
    lex (text ++ rest) = codes text ++ lex rest := by
  induction text with
  | nil => rfl
  | cons c text ih =>
      rw [List.all_cons, Bool.and_eq_true] at h
      rw [List.cons_append, lex_cons_plain h.1, ih h.2]
      rfl

theorem lex_plain {text : Text} (h : text.all isPlain = true) : lex text = codes text := by
  have happend := lex_append_plain h []
  rwa [List.append_nil, lex, List.append_nil] at happend

/-- A text that stands in single quotes as it is. -/
def IsBody (body : Text) : Prop := ∀ c ∈ body, c ≠ '\'' ∧ c ≠ '\\'

instance (body : Text) : Decidable (IsBody body) := List.decidableBAll _ body

/-- A text in single quotes. -/
def quote (body : Text) : Text := '\'' :: (body ++ ['\''])

/-- A text between two quotes of a kind. -/
def quoteWith (mark : Char) (body : Text) : Text := mark :: (body ++ [mark])

theorem closeLiteral_body {mark : Char} (hmark : isQuote mark = true) {body : Text}
    (h : ∀ c ∈ body, c ≠ mark ∧ c ≠ '\\') (rest : Text) :
    closeLiteral mark (body ++ mark :: rest) = some (body ++ [mark], rest) := by
  induction body with
  | nil =>
      have hescape : mark ≠ '\\' := by
        rintro rfl
        exact absurd hmark (by decide)
      rw [List.nil_append, closeLiteral]
      · rw [if_pos rfl]
        rfl
      · exact fun hc _ => hescape hc
      · exact fun _ _ hc _ => hescape hc
  | cons c body ih =>
      obtain ⟨hquote, hescape⟩ := h c List.mem_cons_self
      have hrest := ih fun d hd => h d (List.mem_cons_of_mem _ hd)
      rw [List.cons_append, closeLiteral]
      · rw [if_neg hquote, hrest]
        rfl
      · simp
      · intro d text hc
        exact absurd hc hescape

theorem lex_append_quoteWith {mark : Char} (hmark : isQuote mark = true) {body : Text}
    (h : ∀ c ∈ body, c ≠ mark ∧ c ≠ '\\') (rest : Text) :
    lex (quoteWith mark body ++ rest) = .literal (quoteWith mark body) :: lex rest := by
  have hnext : next mark (body ++ mark :: rest) = (.literal (quoteWith mark body), rest) := by
    unfold next
    rw [if_pos hmark, closeLiteral_body hmark h]
    rfl
  have hsplit : quoteWith mark body ++ rest = mark :: (body ++ mark :: rest) := by simp [quoteWith]
  rw [hsplit, lex, hnext]

theorem lex_append_quote {body : Text} (h : IsBody body) (rest : Text) :
    lex (quote body ++ rest) = .literal (quote body) :: lex rest :=
  lex_append_quoteWith (by decide) h rest

/-! ## Closing parentheses -/

/-- From some lexemes on, `depth` further parentheses and then the call are closed, wherever the
lexemes stand. -/
def Closes (depth : Nat) (lexemes inside behind : List Lexeme) : Prop :=
  ∀ (start : Int) (offset : Nat),
    splitAtCloser .round start offset depth lexemes = .ok (inside, behind)

section

variable {depth : Nat} {rest inside behind : List Lexeme}

theorem closes_end : Closes 0 (.code ')' :: behind) [] behind := fun _ _ => rfl

theorem Closes.close (h : Closes depth rest inside behind) :
    Closes (depth + 1) (.code ')' :: rest) (.code ')' :: inside) behind := by
  intro start offset
  rw [splitAtCloser, if_pos (by decide), h start (offset + 1)]
  rfl

/-- A character other than the closer is passed, and may open a further parenthesis. -/
theorem splitAtCloser_code {c : Char} (hc : c ≠ ')') (start : Int) (offset : Nat) :
    splitAtCloser .round start offset depth (.code c :: rest) =
      (splitAtCloser .round start (offset + 1) (if c = '(' then depth + 1 else depth) rest).map
        fun (inside, behind) => (.code c :: inside, behind) := by
  have hcloser : c ≠ Bracket.closer .round := hc
  cases depth with
  | zero =>
      rw [splitAtCloser, if_neg hcloser]
      rfl
  | succ depth =>
      rw [splitAtCloser, if_neg hcloser]
      rfl

theorem Closes.open (h : Closes (depth + 1) rest inside behind) :
    Closes depth (.code '(' :: rest) (.code '(' :: inside) behind := by
  intro start offset
  rw [splitAtCloser_code (by decide), if_pos rfl, h start (offset + 1)]
  rfl

theorem Closes.literal (h : Closes depth rest inside behind) (text : Text) :
    Closes depth (.literal text :: rest) (.literal text :: inside) behind := by
  intro start offset
  rw [splitAtCloser, h start (offset + text.length)]
  rfl

theorem Closes.codes (h : Closes depth rest inside behind) {text : Text}
    (hopen : '(' ∉ text) (hclose : ')' ∉ text) :
    Closes depth (codes text ++ rest) (codes text ++ inside) behind := by
  induction text with
  | nil => exact h
  | cons c text ih =>
      intro start offset
      rw [List.mem_cons, not_or] at hopen hclose
      have hrest := ih hopen.2 hclose.2
      -- neither parenthesis changes the depth, so it is the same behind the text
      show splitAtCloser .round start offset depth (.code c :: (Source.codes text ++ rest)) = _
      rw [splitAtCloser_code (Ne.symm hclose.1), if_neg (Ne.symm hopen.1), hrest start (offset + 1)]
      rfl

end

/-! ## Arguments -/

/-- Some lexemes have the given parts between outer commas, wherever they stand. -/
def Parts (stack : List Bracket) (lexemes : List Lexeme) (parts : List Text) : Prop :=
  ∀ offset : Nat, outerParts offset stack lexemes = .ok parts

section

variable {stack : List Bracket} {rest : List Lexeme} {first : Text} {parts : List Text}

theorem parts_nil : Parts [] [] [[]] := fun _ => rfl

theorem Parts.literal (h : Parts stack rest (first :: parts)) (text : Text) :
    Parts stack (.literal text :: rest) ((text ++ first) :: parts) := by
  intro offset
  rw [outerParts, h (offset + text.length)]
  rfl

theorem Parts.comma (h : Parts [] rest parts) : Parts [] (.code ',' :: rest) ([] :: parts) := by
  intro offset
  rw [outerParts, show Bracket.ofOpener? ',' = none from rfl, show Bracket.ofCloser? ',' = none from rfl]
  simp only [List.isEmpty_nil, Bool.and_true, decide_true, if_true, h (offset + 1)]
  rfl

theorem Parts.opener {bracket : Bracket} (h : Parts (bracket :: stack) rest (first :: parts)) :
    Parts stack (.code bracket.opener :: rest) ((bracket.opener :: first) :: parts) := by
  intro offset
  rw [outerParts, Bracket.ofOpener?_eq_some.2 rfl]
  simp only [h (offset + 1)]
  rfl

theorem Parts.open (h : Parts (.round :: stack) rest (first :: parts)) :
    Parts stack (.code '(' :: rest) (('(' :: first) :: parts) := h.opener

theorem ofOpener?_closer (bracket : Bracket) : Bracket.ofOpener? bracket.closer = none := by
  cases bracket <;> rfl

theorem Parts.closer {bracket : Bracket} (h : Parts stack rest (first :: parts)) :
    Parts (bracket :: stack) (.code bracket.closer :: rest) ((bracket.closer :: first) :: parts) := by
  intro offset
  rw [outerParts, ofOpener?_closer, Bracket.ofCloser?_eq_some.2 rfl]
  simp only [if_true, h (offset + 1)]
  rfl

theorem Parts.close (h : Parts stack rest (first :: parts)) :
    Parts (.round :: stack) (.code ')' :: rest) ((')' :: first) :: parts) := h.closer

/-- A character that is no bracket is passed, unless it is an outer comma. -/
theorem Parts.inner {c : Char} (h : Parts stack rest (first :: parts))
    (hopener : Bracket.ofOpener? c = none) (hcloser : Bracket.ofCloser? c = none)
    (hcomma : c = ',' → stack ≠ []) : Parts stack (.code c :: rest) ((c :: first) :: parts) := by
  intro offset
  rw [outerParts, hopener, hcloser]
  have hinner : ¬ (decide (c = ',') && stack.isEmpty) = true := by simpa using hcomma
  simp only [if_neg hinner, h (offset + 1)]
  rfl

/-- The character neither opens nor closes anything and does not separate arguments. -/
def isInner (c : Char) : Bool :=
  (Bracket.ofOpener? c).isNone && (Bracket.ofCloser? c).isNone && c != ','

/-- The characters of a class without brackets and the comma are inner ones. -/
theorem isInner_of {p : Char → Bool}
    (hmarks : ['(', '[', '\x7b', ')', ']', '\x7d', ','].any p = false) {c : Char}
    (h : p c = true) : isInner c = true := by
  have hne := forall_ne_of hmarks h
  simp only [List.forall_mem_cons] at hne
  simp [isInner, Bracket.ofOpener?, Bracket.ofCloser?, hne]

theorem isInner_of_isNamePart {c : Char} (h : isNamePart c = true) : isInner c = true :=
  isInner_of (by decide) h

theorem all_isInner_of_isName {name : Text} (h : IsName name) : name.all isInner = true :=
  List.all_eq_true.2 fun c hc => isInner_of_isNamePart (h.parts c hc)

theorem Parts.codes (h : Parts stack rest (first :: parts)) {text : Text}
    (htext : text.all isInner = true) :
    Parts stack (codes text ++ rest) ((text ++ first) :: parts) := by
  induction text with
  | nil => exact h
  | cons c text ih =>
      simp only [List.all_cons, isInner, Bool.and_eq_true, Option.isNone_iff_eq_none, bne_iff_ne] at htext
      obtain ⟨⟨⟨hopen, hclose⟩, hcomma⟩, hinner⟩ := htext
      exact (ih (by simpa [isInner] using hinner)).inner hopen hclose fun hc => absurd hc hcomma

end

theorem isBlank_of_isQuote {c : Char} (h : isQuote c = true) : isBlank c = false := by
  simp only [isQuote, Bool.or_eq_true, beq_iff_eq] at h
  rcases h with (rfl | rfl) | rfl
  · decide
  · decide
  · decide

theorem getLast?_quoteWith (mark : Char) (body : Text) : (quoteWith mark body).getLast? = some mark := by
  rw [quoteWith, ← List.cons_append, List.getLast?_concat]

theorem trim_quoteWith {mark : Char} (hmark : isQuote mark = true) (body : Text) :
    trim (quoteWith mark body) = quoteWith mark body := by
  refine trim_of_ends (List.cons_ne_nil _ _) ?_ ?_
  · intro c hc
    cases hc
    exact isBlank_of_isQuote hmark
  · intro c hc
    rw [getLast?_quoteWith] at hc
    cases hc
    exact isBlank_of_isQuote hmark

theorem unquote?_quoteWith {mark : Char} (hmark : isQuote mark = true) (body : Text) :
    unquote? (quoteWith mark body) = some body := by
  rw [unquote?, trim_quoteWith hmark, quoteWith]
  cases body with
  | nil => simp [hmark]
  | cons c body =>
      have hlast : (c :: (body ++ [mark])).getLast? = some mark := by
        rw [← List.cons_append, List.getLast?_concat]
      have hinit : (c :: (body ++ [mark])).dropLast = c :: body := by
        rw [← List.cons_append, List.dropLast_concat]
      simp only [List.cons_append, hlast, hinit, hmark]
      simp

theorem trim_quote (body : Text) : trim (quote body) = quote body := trim_quoteWith (by decide) body

theorem unquote?_quote (body : Text) : unquote? (quote body) = some body :=
  unquote?_quoteWith (by decide) body

/-- A quoted text and one more argument behind it. -/
theorem arguments_pair {body second : Text} (hbody : IsBody body)
    (hsecond : Parts [] (lex second) [second]) (hne : second ≠ [])
    (htrim : trim (' ' :: second) = second) :
    arguments (quote body ++ ", ".toList ++ second) = .ok [quote body, second] := by
  have hlex : lex (quote body ++ ", ".toList ++ second) =
      .literal (quote body) :: .code ',' :: (codes [' '] ++ lex second) := by
    rw [List.append_assoc, lex_append_quote hbody, lex_append_plain rfl]
    rfl
  have hblank : [' '].all isInner = true := rfl
  have hparts := (hsecond.codes hblank).comma.literal (quote body)
  rw [List.append_nil] at hparts
  rw [arguments, hlex, hparts 0]
  have hempty : second.isEmpty = false := by simpa using hne
  simp [Except.map, trim_quote, htrim, dropBlankLast, hempty]

end RouteAtlas.Source
