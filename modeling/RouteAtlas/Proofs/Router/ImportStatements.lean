import RouteAtlas.Proofs.Source.Gaps
import RouteAtlas.Router.Import
import Mathlib.Data.List.Pairwise

/-!
# Import statements in their places

The reader finds import statements with a clause at the starts of lines, in order (`statementsFrom_spec`).
It does not look for import statements without a clause, which `bare?` reads. Both begin with the keyword
behind blanks, so no statement fills a gap (`Stands.not_isFilling`), and statements of both kinds that stand
outside comments and literals are apart from each other (`IsImport.apart`).
-/

set_option autoImplicit false

namespace RouteAtlas.Router

open Text Source

/-! ## Statements in their places -/

theorem skipBlanks1?_suffix {text rest : Text} (h : skipBlanks1? text = some rest) : rest <:+ text := by
  cases text with
  | nil => cases h
  | cons c text =>
      rw [skipBlanks1?] at h
      split at h
      · cases h
        exact (List.dropWhile_suffix _).trans (List.suffix_cons _ _)
      · cases h

theorem fromModule?_suffix {text module behind : Text} (h : fromModule? text = some (module, behind)) :
    behind <:+ text := by
  obtain ⟨keyword, hkeyword, h⟩ := Option.bind_eq_some_iff.1 h
  obtain ⟨rest, hrest, h⟩ := Option.bind_eq_some_iff.1 h
  have hsuffix : rest <:+ text :=
    (skipBlanks1?_suffix hrest).trans ⟨_, append_of_dropStart? hkeyword⟩
  refine List.IsSuffix.trans ?_ hsuffix
  cases rest with
  | nil => cases h
  | cons quote rest =>
      simp only at h
      split at h
      · split at h
        · rename_i close after hafter
          split at h
          · have hclosed : close :: after <:+ rest := hafter ▸ List.drop_suffix _ rest
            refine List.IsSuffix.trans ?_
              ((List.suffix_cons close after).trans (hclosed.trans (List.suffix_cons _ _)))
            have htrim : trimLeft after <:+ after := List.dropWhile_suffix _
            split at h
            · rename_i found htrimmed
              cases h
              exact (List.suffix_cons _ _).trans (htrimmed ▸ htrim)
            · cases h
              exact htrim
          · cases h
        · cases h
      · cases h

theorem clause?_suffix {started : Bool} {text clause module behind : Text}
    (h : clause? started text = some (clause, module, behind)) : behind <:+ text := by
  fun_induction clause? started text generalizing clause with
  | case1 => cases h
  | case2 started c rest module' behind' hfound =>
      cases h
      split at hfound
      · obtain ⟨after, hafter, hmodule⟩ := Option.bind_eq_some_iff.1 hfound
        exact (fromModule?_suffix hmodule).trans (skipBlanks1?_suffix hafter)
      · cases hfound
  | case3 => cases h
  | case4 started c rest hnone hc ih =>
      obtain ⟨⟨inner, found⟩, hinner, heq⟩ := Option.map_eq_some_iff.1 h
      cases heq
      exact (ih hinner).trans (List.suffix_cons _ _)

theorem keyword_text {line rest : Text}
    (h : dropStart? "import".toList (line.dropWhile fun c => c == ' ' || c == '\t') = some rest) :
    ∃ indent, (∀ c ∈ indent, c = ' ' ∨ c = '\t') ∧ line = indent ++ "import".toList ++ rest := by
  refine ⟨line.takeWhile fun c => c == ' ' || c == '\t', fun c hc => ?_, ?_⟩
  · simpa using List.mem_takeWhile_imp hc
  · rw [List.append_assoc, append_of_dropStart? h, List.takeWhile_append_dropWhile]

theorem isBlank_of_indent {indent : Text} (h : ∀ c ∈ indent, c = ' ' ∨ c = '\t') :
    ∀ c ∈ indent, isBlank c = true := by
  intro c hc
  rcases h c hc with rfl | rfl
  · decide
  · decide

/-- A statement is the keyword behind blanks, and more. -/
theorem statement?_text {line clause module behind : Text}
    (h : statement? line = some (clause, module, behind)) :
    ∃ indent more, (∀ c ∈ indent, isBlank c = true) ∧ line = indent ++ 'i' :: (more ++ behind) := by
  obtain ⟨rest, hrest, h⟩ := Option.bind_eq_some_iff.1 h
  have hbehind : behind <:+ rest := by
    refine List.IsSuffix.trans ?_ (List.dropWhile_suffix isBlank)
    simp only at h
    split at h
    · cases h
    · split at h
      · rename_i found hfound
        cases h
        exact clause?_suffix hfound
      · split at h
        · obtain ⟨⟨module', after⟩, hmodule, heq⟩ := Option.map_eq_some_iff.1 h
          cases heq
          exact fromModule?_suffix hmodule
        · cases h
  obtain ⟨more, rfl⟩ := hbehind
  obtain ⟨indent, hindent, hline⟩ := keyword_text hrest
  refine ⟨indent, "mport".toList ++ more, isBlank_of_indent hindent, ?_⟩
  rw [hline]
  simp

/-- A statement stands in a text: from its start to its stop there is the keyword behind blanks, and
more. -/
def Stands (code : Text) (statement : Statement) : Prop :=
  ∃ indent more behind, (∀ c ∈ indent, isBlank c = true) ∧
    code.drop statement.start = indent ++ 'i' :: (more ++ behind) ∧
    statement.stop = statement.start + (indent.length + (more.length + 1))

/-- A statement is read from the text at its start. -/
def IsRead (text : Text) (offset : Nat) (statement : Statement) : Prop :=
  ∃ behind, statement? (text.drop (statement.start - offset)) =
      some (statement.clause, statement.module, behind) ∧
    statement.stop = statement.start + ((text.drop (statement.start - offset)).length - behind.length)

/-- Statements are found where they are read, in order and apart from each other. -/
theorem statementsFrom_spec (skip offset : Nat) (lineStart : Bool) (text : Text) :
    (∀ statement ∈ statementsFrom skip offset lineStart text,
      offset + skip ≤ statement.start ∧ IsRead text offset statement) ∧
    (statementsFrom skip offset lineStart text).Pairwise fun first second => first.stop ≤ second.start := by
  induction text generalizing skip offset lineStart with
  | nil =>
      rw [statementsFrom]
      exact ⟨by simp, .nil⟩
  | cons c rest ih =>
      have later : ∀ {skip : Nat} {lineStart : Bool},
          ∀ statement ∈ statementsFrom skip (offset + 1) lineStart rest,
            offset + 1 + skip ≤ statement.start ∧ IsRead (c :: rest) offset statement := by
        intro skip lineStart statement hmem
        obtain ⟨hstart, hread⟩ := (ih skip (offset + 1) lineStart).1 statement hmem
        refine ⟨hstart, ?_⟩
        rw [IsRead, show statement.start - offset = (statement.start - (offset + 1)) + 1 by omega,
          List.drop_succ_cons]
        exact hread
      cases skip with
      | succ skip =>
          rw [statementsFrom]
          refine ⟨fun statement hmem => ?_, (ih _ _ _).2⟩
          obtain ⟨hstart, hread⟩ := later statement hmem
          exact ⟨by omega, hread⟩
      | zero =>
          rw [statementsFrom]
          split
          · rename_i clause module behind hfound
            have hread : statement? (c :: rest) = some (clause, module, behind) := by
              split at hfound
              · exact hfound
              · cases hfound
            obtain ⟨indent, more, -, hline⟩ := statement?_text hread
            have hlength := congrArg List.length hline
            simp only [List.length_append, List.length_cons] at hlength
            -- the text of the statement is passed before the next one is looked for
            refine ⟨fun statement hmem => ?_, List.pairwise_cons.2 ⟨fun statement hmem => ?_, (ih _ _ _).2⟩⟩
            · rcases List.mem_cons.1 hmem with rfl | hmem
              · refine ⟨le_rfl, behind, ?_, ?_⟩
                · simpa using hread
                · simp
              · obtain ⟨hstart, hlater⟩ := later statement hmem
                exact ⟨by omega, hlater⟩
            · have hstart := (later statement hmem).1
              show offset + (rest.length + 1 - behind.length) ≤ statement.start
              omega
          · refine ⟨fun statement hmem => ?_, (ih _ _ _).2⟩
            obtain ⟨hstart, hread⟩ := later statement hmem
            exact ⟨by omega, hread⟩

theorem stands_of_mem_statements {code : Text} {statement : Statement} (h : statement ∈ statements code) :
    Stands code statement := by
  obtain ⟨-, behind, hread, hstop⟩ := (statementsFrom_spec 0 0 true code).1 statement h
  obtain ⟨indent, more, hindent, htext⟩ := statement?_text hread
  rw [Nat.sub_zero] at htext hstop
  refine ⟨indent, more, behind, hindent, htext, ?_⟩
  rw [hstop, htext]
  simp only [List.length_append, List.length_cons]
  omega

/-! ## Import statements -/

/-- The module of the import statement without a clause at the head of a line, and the text behind it. -/
def bare? (line : Text) : Option (Text × Text) := do
  let rest ← dropStart? "import".toList (line.dropWhile fun c => c == ' ' || c == '\t')
  match trimLeft rest with
  | [] => none
  | quote :: rest =>
      if quote = '\'' || quote = '"' then
        let module := rest.takeWhile fun c => !(c == quote || c == '\n')
        match rest.drop module.length with
        | close :: behind => if close = quote then some (module, behind) else none
        | [] => none
      else none

/-- An import statement without a clause on a line of its own, outside the statements with a clause. -/
structure IsBare (code : Text) (statement : Statement) : Prop where
  clause : statement.clause = []
  line : statement.start = 0 ∨ code[statement.start - 1]? = some '\n'
  read : ∃ behind, bare? (code.drop statement.start) = some (statement.module, behind) ∧
    statement.stop = statement.start + ((code.drop statement.start).length - behind.length)
  apart : ∀ other ∈ statements code, statement.stop ≤ other.start ∨ other.stop ≤ statement.start

/-- An import statement, with a clause or without one, that begins and ends outside comments and
literals. -/
structure IsImport (code : Text) (statement : Statement) : Prop where
  found : statement ∈ statements code ∨ IsBare code statement
  opens : statement.start ∈ seams code
  closes : statement.stop ∈ seams code

theorem bare?_text {line module behind : Text} (h : bare? line = some (module, behind)) :
    ∃ indent blanks quote, (∀ c ∈ indent, c = ' ' ∨ c = '\t') ∧ (∀ c ∈ blanks, isBlank c = true) ∧
      (quote = '\'' ∨ quote = '"') ∧ '\n' ∉ module ∧
      line = indent ++ "import".toList ++ blanks ++ quote :: (module ++ quote :: behind) := by
  obtain ⟨rest, hrest, h⟩ := Option.bind_eq_some_iff.1 h
  obtain ⟨indent, hindent, hline⟩ := keyword_text hrest
  cases htrim : trimLeft rest with
  | nil =>
      simp only [htrim] at h
      cases h
  | cons quote inner =>
      simp only [htrim] at h
      split at h
      · rename_i hquote
        split at h
        · rename_i close after hafter
          split at h
          · rename_i hclose
            cases h
            refine ⟨indent, rest.takeWhile isBlank, quote, hindent,
              fun c hc => List.mem_takeWhile_imp hc, by simpa using hquote, ?_, ?_⟩
            · intro hnewline
              simpa using List.mem_takeWhile_imp hnewline
            · rw [hclose] at hafter
              rw [← hafter, List.prefix_iff_eq_append.1 (List.takeWhile_prefix _), ← htrim, hline, trimLeft,
                List.append_assoc _ (rest.takeWhile isBlank), List.takeWhile_append_dropWhile]
          · cases h
        · cases h
      · cases h

theorem IsBare.stands {code : Text} {statement : Statement} (h : IsBare code statement) :
    Stands code statement := by
  obtain ⟨behind, hread, hstop⟩ := h.read
  obtain ⟨indent, blanks, quote, hindent, -, -, -, htext⟩ := bare?_text hread
  refine ⟨indent, "mport".toList ++ blanks ++ quote :: (statement.module ++ [quote]), behind,
    isBlank_of_indent hindent, ?_, ?_⟩
  · rw [htext]
    simp
  · rw [hstop, htext]
    rw [show "import".toList = 'i' :: "mport".toList by decide]
    simp only [List.length_append, List.length_cons, List.length_nil]
    omega

section

variable {code : Text} {statement other : Statement}

theorem IsImport.stands (h : IsImport code statement) : Stands code statement := by
  rcases h.found with hfound | hbare
  · exact stands_of_mem_statements hfound
  · exact hbare.stands

theorem Stands.start_lt_stop (h : Stands code statement) : statement.start < statement.stop := by
  obtain ⟨indent, more, behind, -, -, hstop⟩ := h
  omega

/-- What stands in a text is no gap. -/
theorem Stands.not_isFilling (h : Stands code statement) :
    ¬ IsFilling (stretch code statement.start statement.stop) := by
  obtain ⟨indent, more, behind, hindent, htext, hstop⟩ := h
  have hstretch : stretch code statement.start statement.stop = indent ++ 'i' :: more := by
    rw [stretch, List.drop_take, htext, hstop, Nat.add_sub_cancel_left, ← List.cons_append,
      ← List.append_assoc, ← List.length_cons, ← List.length_append, List.take_left]
  intro hfilling
  have hplain : indent.all isPlain = true :=
    List.all_eq_true.2 fun c hc => isPlain_of_isBlank (hindent c hc)
  rw [hstretch, IsFilling, lex_append_plain hplain, lex_cons_plain (by decide)] at hfilling
  exact absurd (hfilling (.code 'i') (by simp)) (by decide)

/-- The keyword follows the blanks that a statement begins with. -/
theorem Stands.head?_eq (h : Stands code statement) :
    ((code.drop statement.start).dropWhile isBlank).head? = some 'i' := by
  obtain ⟨indent, more, behind, hindent, htext, -⟩ := h
  rw [htext, List.dropWhile_append_of_pos hindent]
  rfl

/-- A statement without a clause has no line break in front of another statement. -/
theorem IsBare.stop_le_start (h : IsBare code statement) (hstands : Stands code other)
    (hline : other.start = 0 ∨ code[other.start - 1]? = some '\n') (hlt : statement.start < other.start) :
    statement.stop ≤ other.start := by
  obtain ⟨behind, hread, hstop⟩ := h.read
  obtain ⟨indent, blanks, quote, hindent, hblanks, hquote, hmodule, htext⟩ := bare?_text hread
  have hnewline : code[other.start - 1]? = some '\n' := hline.resolve_left (by omega)
  by_contra hinside
  -- the line break stands between the keyword and the quote, so the quote follows it and no keyword
  obtain ⟨gap, hgap⟩ : ∃ gap, other.start = statement.start + (gap + 1) :=
    ⟨other.start - statement.start - 1, by omega⟩
  have hbreak : (code.drop statement.start)[gap]? = some '\n' := by
    rw [List.getElem?_drop, ← hnewline, hgap]
    congr 1
  have hkeyword := hstands.head?_eq
  rw [hgap, ← List.drop_drop] at hkeyword
  rw [htext] at hbreak hkeyword hstop
  have hbefore : '\n' ∉ indent ++ "import".toList := by
    rw [List.mem_append]
    rintro (hmem | hmem)
    · exact absurd (hindent _ hmem) (by decide)
    · exact absurd hmem (by decide)
  generalize indent ++ "import".toList = before at hbefore hbreak hkeyword hstop
  by_cases hearly : gap < before.length
  · rw [List.append_assoc, List.getElem?_append_left hearly] at hbreak
    exact hbefore (List.mem_of_getElem? hbreak)
  by_cases hlate : gap < (before ++ blanks).length
  · have hdrop : (before ++ blanks).drop (gap + 1) = blanks.drop (gap + 1 - before.length) := by
      rw [List.drop_append, List.drop_eq_nil_of_le (by omega), List.nil_append]
    rw [List.drop_append_of_le_length (by omega), hdrop,
      List.dropWhile_append_of_pos fun c hc => hblanks c (List.mem_of_mem_drop hc)] at hkeyword
    rcases hquote with rfl | rfl
    · exact absurd hkeyword (by simp [isBlank])
    · exact absurd hkeyword (by simp [isBlank])
  · rw [List.getElem?_append_right (by omega)] at hbreak
    have hmem : '\n' ∈ quote :: statement.module := by
      rw [← List.cons_append, List.getElem?_append_left] at hbreak
      · exact List.mem_of_getElem? hbreak
      · simp only [List.length_append, List.length_cons] at hstop hlate ⊢
        omega
    rcases List.mem_cons.1 hmem with hquote' | hmem
    · rcases hquote with rfl | rfl
      · exact absurd hquote' (by decide)
      · exact absurd hquote' (by decide)
    · exact hmodule hmem

theorem statements_apart (h : statement ∈ statements code) (hother : other ∈ statements code)
    (hne : statement ≠ other) : statement.stop ≤ other.start ∨ other.stop ≤ statement.start := by
  have hpairs : (statements code).Pairwise fun first second =>
      first.stop ≤ second.start ∨ second.stop ≤ first.start :=
    (statementsFrom_spec 0 0 true code).2.imp .inl
  have hsymm : Std.Symm fun first second : Statement =>
      first.stop ≤ second.start ∨ second.stop ≤ first.start := ⟨fun _ _ => Or.symm⟩
  exact hpairs.forall h hother hne

theorem IsBare.eq_of_start (h : IsBare code statement) (hother : IsBare code other)
    (hstart : statement.start = other.start) : statement = other := by
  obtain ⟨behind, hread, hstop⟩ := h.read
  obtain ⟨behind', hread', hstop'⟩ := hother.read
  rw [← hstart, hread, Option.some.injEq, Prod.mk.injEq] at hread'
  obtain ⟨hmodule, rfl⟩ := hread'
  have hstops : statement.stop = other.stop := by rw [hstop, hstop', hstart]
  have hclause := h.clause.trans hother.clause.symm
  cases statement
  cases other
  exact Statement.mk.injEq .. ▸ ⟨hclause, hmodule, hstart, hstops⟩

/-- **Import statements are apart from each other.** -/
theorem IsImport.apart (h : IsImport code statement) (hother : IsImport code other)
    (hne : statement ≠ other) : statement.stop ≤ other.start ∨ other.stop ≤ statement.start := by
  rcases h.found with hfound | hbare
  · rcases hother.found with hfound' | hbare'
    · exact statements_apart hfound hfound' hne
    · exact (hbare'.apart statement hfound).symm
  · rcases hother.found with hfound' | hbare'
    · exact hbare.apart other hfound'
    · rcases Nat.lt_trichotomy statement.start other.start with hlt | heq | hgt
      · exact .inl (hbare.stop_le_start hother.stands hbare'.line hlt)
      · exact absurd (hbare.eq_of_start hbare' heq) hne
      · exact .inr (hbare'.stop_le_start h.stands hbare.line hgt)

theorem IsImport.stop_le_start (h : IsImport code statement) (hother : IsImport code other)
    (hlt : statement.start < other.start) : statement.stop ≤ other.start := by
  have hne : statement ≠ other := by
    rintro rfl
    exact lt_irrefl _ hlt
  have hstop := hother.stands.start_lt_stop
  exact (h.apart hother hne).resolve_right (by omega)

theorem IsImport.eq_of_start (h : IsImport code statement) (hother : IsImport code other)
    (hstart : statement.start = other.start) : statement = other := by
  have hlt := h.stands.start_lt_stop
  have hlt' := hother.stands.start_lt_stop
  by_contra hne
  rcases h.apart hother hne with hbefore | hbehind
  · omega
  · omega

/-- **No import statement stands in a gap** that begins outside comments and literals. -/
theorem IsImport.not_isFilling (h : IsImport code statement) {start stop : Nat} (hseam : start ∈ seams code)
    (hstart : start ≤ statement.start) (hstop : statement.stop ≤ stop) :
    ¬ IsFilling (stretch code start stop) := by
  intro hfilling
  have hlt := h.stands.start_lt_stop
  have hbehind := (isFilling_stretch_iff hseam h.opens hstart (by omega)).1 hfilling
  exact h.stands.not_isFilling ((isFilling_stretch_iff h.opens h.closes (by omega) hstop).1 hbehind.2).1

end

end RouteAtlas.Router
