import RouteAtlas.Proofs.Source.Closing

/-!
# Well-nested argument lists

The brackets of a code text are well nested when every opener has a closer of its kind with well-nested
brackets between the two. An argument list is accepted exactly when none of its literals is left open and
the brackets among its code characters are well nested, and it is then cut at the commas before which
nothing is open (`outerParts_eq_ok_iff`).
-/

set_option autoImplicit false

namespace RouteAtlas.Source

open Text

/-! ## Words of brackets -/

theorem opener_injective {a b : Bracket} (h : a.opener = b.opener) : a = b :=
  Option.some.inj ((Bracket.ofOpener?_eq_some.2 rfl).symm.trans (Bracket.ofOpener?_eq_some.2 h))

theorem closer_injective {a b : Bracket} (h : a.closer = b.closer) : a = b :=
  Option.some.inj ((Bracket.ofCloser?_eq_some.2 rfl).symm.trans (Bracket.ofCloser?_eq_some.2 h))

/-- The well-nested words over the three kinds of brackets. -/
inductive Nested : Text → Prop where
  | nil : Nested []
  | wrap (bracket : Bracket) {inner rest : Text} : Nested inner → Nested rest →
      Nested (bracket.opener :: (inner ++ bracket.closer :: rest))

/-- The first bracket of a well-nested word is an opener, and its closer stands further on. -/
theorem nested_cons {c : Char} {word : Text} :
    Nested (c :: word) ↔ ∃ bracket inner rest, c = Bracket.opener bracket ∧
      word = inner ++ bracket.closer :: rest ∧ Nested inner ∧ Nested rest := by
  constructor
  · intro h
    cases h with
    | wrap bracket hinner hrest => exact ⟨bracket, _, _, rfl, rfl, hinner, hrest⟩
  · rintro ⟨bracket, inner, rest, rfl, rfl, hinner, hrest⟩
    exact .wrap bracket hinner hrest

/-- The words that close the brackets of a stack, innermost first, and are well nested otherwise. -/
def NestedBelow : List Bracket → Text → Prop
  | [], word => Nested word
  | bracket :: below, word => ∃ inner rest, word = inner ++ bracket.closer :: rest ∧ Nested inner ∧
      NestedBelow below rest

/-- Nothing closes nothing. -/
theorem nestedBelow_nil {stack : List Bracket} : NestedBelow stack [] ↔ stack = [] := by
  cases stack with
  | nil => exact iff_of_true .nil rfl
  | cons bracket below => simp [NestedBelow]

/-- An opener is one more bracket to be closed. -/
theorem nestedBelow_opener {stack : List Bracket} {bracket : Bracket} {word : Text} :
    NestedBelow stack (bracket.opener :: word) ↔ NestedBelow (bracket :: stack) word := by
  constructor
  · intro h
    cases stack with
    | nil =>
        obtain ⟨kind, inner, rest, hkind, rfl, hinner, hrest⟩ := nested_cons.1 h
        obtain rfl := opener_injective hkind
        exact ⟨inner, rest, rfl, hinner, hrest⟩
    | cons outer below =>
        -- the opener belongs to the well-nested part before the closer of the outer bracket
        obtain ⟨part, rest, hword, hpart, hrest⟩ := h
        cases part with
        | nil => exact absurd (List.cons.inj hword).1 (opener_ne_closer bracket outer)
        | cons c part =>
            obtain ⟨rfl, rfl⟩ := List.cons.inj hword
            obtain ⟨kind, inner, others, hkind, rfl, hinner, hothers⟩ := nested_cons.1 hpart
            obtain rfl := opener_injective hkind
            exact ⟨inner, others ++ outer.closer :: rest, by simp, hinner, others, rest, rfl, hothers, hrest⟩
  · rintro ⟨inner, rest, rfl, hinner, hrest⟩
    cases stack with
    | nil => exact .wrap bracket hinner hrest
    | cons outer below =>
        obtain ⟨others, behind, rfl, hothers, hbehind⟩ := hrest
        exact ⟨bracket.opener :: (inner ++ bracket.closer :: others), behind, by simp,
          .wrap bracket hinner hothers, hbehind⟩

/-- A closer has to close the innermost bracket. -/
theorem nestedBelow_closer {stack : List Bracket} {bracket : Bracket} {word : Text} :
    NestedBelow stack (bracket.closer :: word) ↔
      ∃ below, stack = bracket :: below ∧ NestedBelow below word := by
  constructor
  · intro h
    cases stack with
    | nil =>
        obtain ⟨kind, _, _, hkind, -⟩ := nested_cons.1 h
        exact absurd hkind.symm (opener_ne_closer kind bracket)
    | cons outer below =>
        obtain ⟨part, rest, hword, hpart, hrest⟩ := h
        cases part with
        | nil =>
            obtain ⟨hcloser, rfl⟩ := List.cons.inj hword
            obtain rfl := closer_injective hcloser
            exact ⟨below, rfl, hrest⟩
        | cons c part =>
            obtain ⟨rfl, -⟩ := List.cons.inj hword
            obtain ⟨kind, _, _, hkind, -⟩ := nested_cons.1 hpart
            exact absurd hkind.symm (opener_ne_closer kind bracket)
  · rintro ⟨below, rfl, h⟩
    exact ⟨[], word, rfl, .nil, h⟩

/-! ## Pieces -/

/-- The brackets of a text. -/
def brackets (text : Text) : Text :=
  text.filter fun c => (Bracket.ofOpener? c).isSome || (Bracket.ofCloser? c).isSome

theorem brackets_append (text rest : Text) : brackets (text ++ rest) = brackets text ++ brackets rest :=
  List.filter_append text rest

theorem brackets_opener (bracket : Bracket) (text : Text) :
    brackets (bracket.opener :: text) = bracket.opener :: brackets text := by
  rw [brackets, List.filter_cons_of_pos (by rw [Bracket.ofOpener?_eq_some.2 rfl]; rfl), ← brackets]

theorem brackets_closer (bracket : Bracket) (text : Text) :
    brackets (bracket.closer :: text) = bracket.closer :: brackets text := by
  rw [brackets, List.filter_cons_of_pos (by rw [Bracket.ofCloser?_eq_some.2 rfl]; simp), ← brackets]

theorem brackets_other {c : Char} (hopener : Bracket.ofOpener? c = none)
    (hcloser : Bracket.ofCloser? c = none) (text : Text) : brackets (c :: text) = brackets text := by
  rw [brackets, List.filter_cons_of_neg (by rw [hopener, hcloser]; decide), ← brackets]

/-- A piece of an argument list: its brackets are well nested, and no comma of its code is an outer one,
with nothing open before it. -/
structure IsPiece (piece : List Lexeme) : Prop where
  whole : Unbroken piece
  nested : Nested (brackets (codeText piece))
  inner : ∀ before behind, codeText piece = before ++ ',' :: behind → ¬ Nested (brackets before)

/-- The rest of a piece behind a place where the brackets of a stack are open. -/
structure IsPieceBelow (stack : List Bracket) (piece : List Lexeme) : Prop where
  whole : Unbroken piece
  nested : NestedBelow stack (brackets (codeText piece))
  inner : ∀ before behind, codeText piece = before ++ ',' :: behind →
    ¬ NestedBelow stack (brackets before)

theorem isPieceBelow_nil {piece : List Lexeme} : IsPieceBelow [] piece ↔ IsPiece piece :=
  ⟨fun h => ⟨h.whole, h.nested, h.inner⟩, fun h => ⟨h.whole, h.nested, h.inner⟩⟩

theorem codeText_code (c : Char) (rest : List Lexeme) :
    codeText (.code c :: rest) = c :: codeText rest := rfl

theorem codeText_cons (lexeme : Lexeme) (rest : List Lexeme) :
    codeText (lexeme :: rest) = codeText [lexeme] ++ codeText rest := codeText_append [lexeme] rest

/-- A lexeme that is neither a broken literal nor an outer comma leads from the brackets open before it to
those open behind it. -/
inductive Leads : List Bracket → Lexeme → List Bracket → Prop where
  | literal {stack : List Bracket} (text : Text) : Leads stack (.literal text) stack
  | comment {stack : List Bracket} (text : Text) : Leads stack (.comment text) stack
  | opener {stack : List Bracket} (bracket : Bracket) :
      Leads stack (.code bracket.opener) (bracket :: stack)
  | closer {stack : List Bracket} (bracket : Bracket) :
      Leads (bracket :: stack) (.code bracket.closer) stack
  | other {stack : List Bracket} {c : Char} : Bracket.ofOpener? c = none → Bracket.ofCloser? c = none →
      (c = ',' → stack ≠ []) → Leads stack (.code c) stack

section

variable {stack level : List Bracket} {lexeme : Lexeme} {rest : List Lexeme} {first : Text}
  {parts : List Text}

theorem Leads.not_isBroken (h : Leads stack lexeme level) : lexeme.isBroken = false := by
  cases h with
  | _ => rfl

/-- A comma that leads on stands in brackets. -/
theorem Leads.comma (h : Leads stack lexeme level) {before behind : Text}
    (hcode : codeText [lexeme] = before ++ ',' :: behind) : before = [] ∧ stack ≠ [] := by
  have hsingle : ∀ {c : Char}, [c] = before ++ ',' :: behind → before = [] ∧ c = ',' := by
    intro c hc
    cases before with
    | nil => exact ⟨rfl, (List.cons.inj hc).1⟩
    | cons d before => simp at hc
  cases h with
  | literal text => simp [codeText] at hcode
  | comment text => simp [codeText] at hcode
  | opener bracket => cases bracket <;> exact absurd (hsingle hcode).2 (by decide)
  | closer bracket => exact ⟨(hsingle hcode).1, List.cons_ne_nil _ _⟩
  | other _ _ hcomma => exact ⟨(hsingle hcode).1, hcomma (hsingle hcode).2⟩

/-- What is closed behind a lexeme is what is open there. -/
theorem Leads.nestedBelow_iff (h : Leads stack lexeme level) (word : Text) :
    NestedBelow stack (brackets (codeText [lexeme]) ++ word) ↔ NestedBelow level word := by
  cases h with
  | literal text => exact Iff.rfl
  | comment text => exact Iff.rfl
  | opener bracket =>
      rw [codeText_code, brackets_opener]
      exact nestedBelow_opener
  | closer bracket =>
      rw [codeText_code, brackets_closer]
      exact nestedBelow_closer.trans (by simp [codeText, brackets])
  | other hopener hcloser _ =>
      rw [codeText_code, brackets_other hopener hcloser]
      exact Iff.rfl

/-- Every lexeme of a well-nested list leads on, broken literals and outer commas apart. -/
theorem exists_leads (hnested : NestedBelow stack (brackets (codeText (lexeme :: rest))))
    (hwhole : lexeme.isBroken = false) (hcomma : lexeme = .code ',' → stack ≠ []) :
    ∃ level, Leads stack lexeme level := by
  cases lexeme with
  | broken text => cases hwhole
  | literal text => exact ⟨stack, .literal text⟩
  | comment text => exact ⟨stack, .comment text⟩
  | code c =>
      cases hopener : Bracket.ofOpener? c with
      | some bracket =>
          obtain rfl := Bracket.ofOpener?_eq_some.1 hopener
          exact ⟨bracket :: stack, .opener bracket⟩
      | none =>
          cases hcloser : Bracket.ofCloser? c with
          | some bracket =>
              obtain rfl := Bracket.ofCloser?_eq_some.1 hcloser
              rw [codeText_code, brackets_closer, nestedBelow_closer] at hnested
              obtain ⟨below, rfl, -⟩ := hnested
              exact ⟨below, .closer bracket⟩
          | none => exact ⟨stack, .other hopener hcloser fun hc => hcomma (congrArg Lexeme.code hc)⟩

theorem Parts.comment (h : Parts stack rest (first :: parts)) (text : Text) :
    Parts stack (.comment text :: rest) ((text ++ first) :: parts) := by
  intro offset
  rw [outerParts, h (offset + text.length)]
  rfl

/-- A lexeme that leads on belongs to the same part as what is behind it. -/
theorem Parts.lead (hrest : Parts level rest (first :: parts)) (h : Leads stack lexeme level) :
    Parts stack (lexeme :: rest) ((lexeme.raw ++ first) :: parts) := by
  cases h with
  | literal text => exact hrest.literal text
  | comment text => exact hrest.comment text
  | opener bracket => exact hrest.opener
  | closer bracket => exact hrest.closer
  | other hopener hcloser hcomma => exact hrest.inner hopener hcloser hcomma

/-- A piece starts with a lexeme that leads to the rest of the piece. -/
theorem isPieceBelow_cons {piece : List Lexeme} :
    IsPieceBelow stack (lexeme :: piece) ↔
      ∃ level, Leads stack lexeme level ∧ IsPieceBelow level piece := by
  constructor
  · rintro ⟨hwhole, hnested, hinner⟩
    rw [unbroken_cons] at hwhole
    have hcomma : lexeme = .code ',' → stack ≠ [] := by
      rintro rfl rfl
      exact hinner [] (codeText piece) rfl .nil
    obtain ⟨level, hleads⟩ := exists_leads hnested hwhole.1 hcomma
    rw [codeText_cons, brackets_append, hleads.nestedBelow_iff] at hnested
    refine ⟨level, hleads, hwhole.2, hnested, fun before behind hsplit => ?_⟩
    rw [← hleads.nestedBelow_iff, ← brackets_append]
    apply hinner _ behind
    rw [codeText_cons, hsplit, List.append_assoc]
  · rintro ⟨level, hleads, hwhole, hnested, hinner⟩
    refine ⟨unbroken_cons.2 ⟨hleads.not_isBroken, hwhole⟩, ?_, fun before behind hsplit => ?_⟩
    · rwa [codeText_cons, brackets_append, hleads.nestedBelow_iff]
    · rw [codeText_cons] at hsplit
      rcases List.append_eq_append_iff.1 hsplit with ⟨middle, rfl, hmiddle⟩ | ⟨middle, hmiddle, hrest⟩
      · rw [brackets_append, hleads.nestedBelow_iff]
        exact hinner middle behind hmiddle
      · cases middle with
        | nil =>
            rw [List.append_nil] at hmiddle
            rw [← hmiddle, ← List.append_nil (brackets _), hleads.nestedBelow_iff]
            exact hinner [] behind hrest.symm
        | cons c middle =>
            -- the comma is the lexeme itself, so a bracket is open before it
            obtain ⟨rfl, -⟩ := List.cons.inj hrest
            obtain ⟨rfl, hstack⟩ := hleads.comma hmiddle
            exact fun hempty => hstack (nestedBelow_nil.1 hempty)

/-- **Outer commas are looked for behind a piece.** -/
theorem Parts.piece {piece : List Lexeme} (h : Parts [] rest (first :: parts))
    (hpiece : IsPieceBelow stack piece) :
    Parts stack (piece ++ rest) ((raw piece ++ first) :: parts) := by
  induction piece generalizing stack with
  | nil =>
      obtain rfl := nestedBelow_nil.1 hpiece.nested
      exact h
  | cons lexeme piece ih =>
      obtain ⟨level, hleads, hrest⟩ := isPieceBelow_cons.1 hpiece
      rw [raw_cons, List.append_assoc]
      exact (ih hrest).lead hleads

end

theorem eq_ok_of_map {α β : Type} {outcome : Except Fault α} {f : α → β} {value : β}
    (h : outcome.map f = .ok value) : ∃ inner, outcome = .ok inner ∧ f inner = value := by
  cases outcome with
  | error fault => cases h
  | ok inner => exact ⟨inner, rfl, Except.ok.inj h⟩

/-- What is accepted has no broken literal and closes the brackets that are open before it. -/
theorem nested_of_outerParts {offset : Nat} {stack : List Bracket} {lexemes : List Lexeme}
    {parts : List Text} (h : outerParts offset stack lexemes = .ok parts) :
    Unbroken lexemes ∧ NestedBelow stack (brackets (codeText lexemes)) := by
  fun_induction outerParts offset stack lexemes generalizing parts with
  | case1 => exact ⟨by simp [Unbroken], .nil⟩
  | case2 => cases h
  | case3 => cases h
  | case4 offset stack text rest ih =>
      obtain ⟨_, hrest, -⟩ := eq_ok_of_map h
      exact ⟨unbroken_cons.2 ⟨rfl, (ih hrest).1⟩, (ih hrest).2⟩
  | case5 offset stack text rest ih =>
      obtain ⟨_, hrest, -⟩ := eq_ok_of_map h
      exact ⟨unbroken_cons.2 ⟨rfl, (ih hrest).1⟩, (ih hrest).2⟩
  | case6 offset stack c rest bracket hopener ih =>
      obtain ⟨_, hrest, -⟩ := eq_ok_of_map h
      obtain rfl := Bracket.ofOpener?_eq_some.1 hopener
      refine ⟨unbroken_cons.2 ⟨rfl, (ih hrest).1⟩, ?_⟩
      rw [codeText_code, brackets_opener, nestedBelow_opener]
      exact (ih hrest).2
  | case7 => cases h
  | case8 offset c rest _ bracket below hcloser ih =>
      obtain ⟨_, hrest, -⟩ := eq_ok_of_map h
      obtain rfl := Bracket.ofCloser?_eq_some.1 hcloser
      refine ⟨unbroken_cons.2 ⟨rfl, (ih hrest).1⟩, ?_⟩
      rw [codeText_code, brackets_closer, nestedBelow_closer]
      exact ⟨below, rfl, (ih hrest).2⟩
  | case9 => cases h
  | case10 offset stack c rest hcloser hopener _ ih =>
      obtain ⟨_, hrest, -⟩ := eq_ok_of_map h
      rw [codeText_code, brackets_other hopener hcloser]
      exact ⟨unbroken_cons.2 ⟨rfl, (ih hrest).1⟩, (ih hrest).2⟩
  | case11 offset stack c rest hcloser hopener _ ih =>
      obtain ⟨_, hrest, -⟩ := eq_ok_of_map h
      rw [codeText_code, brackets_other hopener hcloser]
      exact ⟨unbroken_cons.2 ⟨rfl, (ih hrest).1⟩, (ih hrest).2⟩

/-! ## Cutting at outer commas -/

/-- Pieces with commas between them. -/
def joined (pieces : List (List Lexeme)) : List Lexeme := [.code ','].intercalate pieces

theorem joined_singleton (piece : List Lexeme) : joined [piece] = piece := by
  simp [joined, List.intercalate]

theorem joined_cons (piece next : List Lexeme) (pieces : List (List Lexeme)) :
    joined (piece :: next :: pieces) = piece ++ .code ',' :: joined (next :: pieces) := by
  simp [joined, List.intercalate]

theorem joined_cons_cons (lexeme : Lexeme) (piece : List Lexeme) (pieces : List (List Lexeme)) :
    joined ((lexeme :: piece) :: pieces) = lexeme :: joined (piece :: pieces) := by
  cases pieces with
  | nil => rw [joined_singleton, joined_singleton]
  | cons next pieces => rw [joined_cons, joined_cons, List.cons_append]

/-- **Joined pieces are cut at the commas between them.** -/
theorem parts_joined {pieces : List (List Lexeme)} (hne : pieces ≠ [])
    (h : ∀ piece ∈ pieces, IsPiece piece) : Parts [] (joined pieces) (pieces.map raw) := by
  induction pieces with
  | nil => exact absurd rfl hne
  | cons piece pieces ih =>
      rw [List.forall_mem_cons] at h
      have hpiece := isPieceBelow_nil.2 h.1
      cases pieces with
      | nil =>
          have hparts := parts_nil.piece hpiece
          rw [List.append_nil, List.append_nil] at hparts
          rwa [joined_singleton]
      | cons next pieces =>
          have hparts := (ih (List.cons_ne_nil _ _) h.2).comma.piece hpiece
          rw [List.append_nil] at hparts
          rwa [joined_cons]

/-- **Well-nested lexemes are pieces with commas between them.** -/
theorem exists_pieces {stack : List Bracket} {lexemes : List Lexeme} (hwhole : Unbroken lexemes)
    (hnested : NestedBelow stack (brackets (codeText lexemes))) :
    ∃ first pieces, lexemes = joined (first :: pieces) ∧ IsPieceBelow stack first ∧
      ∀ piece ∈ pieces, IsPiece piece := by
  induction lexemes generalizing stack with
  | nil =>
      refine ⟨[], [], (joined_singleton []).symm, ⟨hwhole, hnested, ?_⟩, by simp⟩
      intro before behind hsplit
      simp [codeText] at hsplit
  | cons lexeme rest ih =>
      rw [unbroken_cons] at hwhole
      by_cases hcomma : lexeme = .code ',' → stack ≠ []
      · obtain ⟨level, hleads⟩ := exists_leads hnested hwhole.1 hcomma
        rw [codeText_cons, brackets_append, hleads.nestedBelow_iff] at hnested
        obtain ⟨first, pieces, rfl, hfirst, hpieces⟩ := ih hwhole.2 hnested
        exact ⟨lexeme :: first, pieces, (joined_cons_cons lexeme first pieces).symm,
          isPieceBelow_cons.2 ⟨level, hleads, hfirst⟩, hpieces⟩
      · -- an outer comma ends the first piece
        obtain ⟨rfl, hstack⟩ := Classical.not_imp.1 hcomma
        obtain rfl : stack = [] := by simpa using hstack
        rw [codeText_code, brackets_other rfl rfl] at hnested
        obtain ⟨first, pieces, rfl, hfirst, hpieces⟩ := ih hwhole.2 hnested
        refine ⟨[], first :: pieces, (joined_cons [] first pieces).symm, ⟨by simp [Unbroken], .nil, ?_⟩, ?_⟩
        · intro before behind hsplit
          simp [codeText] at hsplit
        · exact List.forall_mem_cons.2 ⟨isPieceBelow_nil.1 hfirst, hpieces⟩

/-- **What is accepted, and where it is cut**: pieces with outer commas between them. -/
theorem outerParts_eq_ok_iff {offset : Nat} {lexemes : List Lexeme} {parts : List Text} :
    outerParts offset [] lexemes = .ok parts ↔ ∃ pieces, pieces ≠ [] ∧ lexemes = joined pieces ∧
      (∀ piece ∈ pieces, IsPiece piece) ∧ parts = pieces.map raw := by
  constructor
  · intro h
    obtain ⟨hwhole, hnested⟩ := nested_of_outerParts h
    obtain ⟨first, pieces, rfl, hfirst, hpieces⟩ := exists_pieces hwhole hnested
    have hall : ∀ piece ∈ first :: pieces, IsPiece piece :=
      List.forall_mem_cons.2 ⟨isPieceBelow_nil.1 hfirst, hpieces⟩
    have hcut := parts_joined (List.cons_ne_nil first pieces) hall offset
    exact ⟨first :: pieces, List.cons_ne_nil _ _, rfl, hall, Except.ok.inj (h.symm.trans hcut)⟩
  · rintro ⟨pieces, hne, rfl, hpieces, rfl⟩
    exact parts_joined hne hpieces offset

/-- **Exactly the well-nested lists without a broken literal are accepted.** -/
theorem outerParts_isOk_iff {offset : Nat} {lexemes : List Lexeme} :
    (∃ parts, outerParts offset [] lexemes = .ok parts) ↔
      Unbroken lexemes ∧ Nested (brackets (codeText lexemes)) := by
  constructor
  · rintro ⟨parts, h⟩
    exact nested_of_outerParts h
  · rintro ⟨hwhole, hnested⟩
    have hbelow : NestedBelow [] (brackets (codeText lexemes)) := hnested
    obtain ⟨first, pieces, rfl, hfirst, hpieces⟩ := exists_pieces hwhole hbelow
    exact ⟨_, parts_joined (List.cons_ne_nil first pieces)
      (List.forall_mem_cons.2 ⟨isPieceBelow_nil.1 hfirst, hpieces⟩) offset⟩

end RouteAtlas.Source
