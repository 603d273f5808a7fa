import RouteAtlas.Proofs.Text.Names

/-!
# Mentions

A name is mentioned where an expression can be cut into what stands before the name, the name and what
stands behind it, with no character of an identifier on either side (`mentions_iff`). A mark that is no
part of an identifier therefore cuts the mentions of an expression in two (`mentions_mark`).
-/

set_option autoImplicit false

namespace RouteAtlas.Source

open Text

/-- A name stands in an expression as a whole identifier. -/
def Mentions (expression name : Text) : Prop :=
  ∃ before behind, expression = before ++ name ++ behind ∧
    isBoundary before.getLast? = true ∧ isBoundary behind.head? = true

/-- The character before a place, where the text before it comes behind another character. -/
theorem getLast?_cons_or (c : Char) (before : Text) (previous : Option Char) :
    (c :: before).getLast?.or previous = before.getLast?.or (some c) := by
  rw [List.getLast?_cons]
  cases before.getLast? with
  | none => rfl
  | some d => rfl

/-- A name stands in a text as a whole, the text coming behind a given character. -/
theorem mentionsFrom_iff {name text : Text} {previous : Option Char} :
    mentionsFrom name previous text = true ↔ ∃ before behind, text = before ++ name ++ behind ∧
      isBoundary (before.getLast?.or previous) = true ∧ isBoundary behind.head? = true := by
  induction text generalizing previous with
  | nil =>
      simp only [mentionsFrom, Bool.and_eq_true, List.isEmpty_iff]
      constructor
      · rintro ⟨rfl, hprevious⟩
        exact ⟨[], [], rfl, hprevious, rfl⟩
      · rintro ⟨before, behind, htext, hprevious, -⟩
        obtain ⟨hinner, -⟩ := List.append_eq_nil_iff.1 htext.symm
        obtain ⟨rfl, rfl⟩ := List.append_eq_nil_iff.1 hinner
        exact ⟨rfl, hprevious⟩
  | cons c rest ih =>
      rw [mentionsFrom, Bool.or_eq_true, Bool.and_eq_true, ih]
      constructor
      · rintro (⟨hprevious, hhere⟩ | ⟨before, behind, rfl, hbefore, hbehind⟩)
        · split at hhere
          · rename_i behind hdrop
            exact ⟨[], behind, (append_of_dropStart? hdrop).symm, hprevious, hhere⟩
          · cases hhere
        · refine ⟨c :: before, behind, rfl, ?_, hbehind⟩
          rwa [getLast?_cons_or]
      · rintro ⟨before, behind, htext, hbefore, hbehind⟩
        cases before with
        | nil =>
            rw [List.nil_append] at htext
            refine .inl ⟨hbefore, ?_⟩
            rw [htext, dropStart?_append]
            exact hbehind
        | cons d before =>
            obtain ⟨rfl, rfl⟩ := List.cons.inj htext
            refine .inr ⟨before, behind, rfl, ?_, hbehind⟩
            rwa [getLast?_cons_or] at hbefore

/-- **Names are looked for as whole identifiers.** -/
theorem mentions_iff {expression name : Text} :
    mentions expression name = true ↔ Mentions expression name := by
  rw [mentions, mentionsFrom_iff, Mentions]
  simp only [Option.or_none]

theorem not_mentions_iff {expression name : Text} :
    mentions expression name = false ↔ ¬ Mentions expression name := by
  rw [← Bool.not_eq_true, mentions_iff]

/-- Behind a mark a name is bounded as at the start of an expression. -/
theorem isBoundary_behind_mark {mark : Char} (hmark : isIdentifierPart mark = false)
    (before behind : Text) :
    isBoundary (before ++ mark :: behind).getLast? = isBoundary behind.getLast? := by
  rw [List.getLast?_append, List.getLast?_cons, Option.some_or]
  cases behind.getLast? with
  | none => simp [isBoundary, hmark]
  | some c => rfl

/-- Before a mark a name is bounded as at the end of an expression. -/
theorem isBoundary_before_mark {mark : Char} (hmark : isIdentifierPart mark = false)
    (before behind : Text) :
    isBoundary (before ++ mark :: behind).head? = isBoundary before.head? := by
  cases before with
  | nil => simp [isBoundary, hmark]
  | cons c before => rfl

/-- **A mark that is no part of an identifier cuts the mentions of an expression in two.** -/
theorem mentions_mark {name : Text} (hparts : ∀ c ∈ name, isIdentifierPart c = true) {mark : Char}
    (hmark : isIdentifierPart mark = false) (before behind : Text) :
    mentions (before ++ mark :: behind) name = (mentions before name || mentions behind name) := by
  have hfree : mark ∉ name := by
    intro hmem
    rw [hparts mark hmem] at hmark
    cases hmark
  rw [Bool.eq_iff_iff, Bool.or_eq_true, mentions_iff, mentions_iff, mentions_iff]
  constructor
  · rintro ⟨first, last, hsplit, hfirst, hlast⟩
    rcases List.append_eq_append_iff.1 hsplit with ⟨middle, hname', hbehind⟩ | ⟨middle, rfl, rfl⟩
    · cases middle with
      | nil =>
          rw [List.append_nil] at hname'
          exact .inl ⟨first, [], by rw [hname', List.append_nil], hfirst, rfl⟩
      | cons c middle =>
          obtain ⟨rfl, rfl⟩ := List.cons.inj hbehind
          -- the name ends behind the mark, so it has to start there too
          rcases List.append_eq_append_iff.1 hname' with ⟨inner, -, hinner⟩ | ⟨inner, rfl, hinner⟩
          · exact absurd (hinner ▸ List.mem_append_right _ List.mem_cons_self) hfree
          · cases inner with
            | nil =>
                rw [List.nil_append] at hinner
                exact absurd (hinner ▸ List.mem_cons_self) hfree
            | cons d inner =>
                obtain ⟨rfl, rfl⟩ := List.cons.inj hinner
                rw [isBoundary_behind_mark hmark] at hfirst
                exact .inr ⟨inner, last, rfl, hfirst, hlast⟩
    · rw [isBoundary_before_mark hmark] at hlast
      exact .inl ⟨first, middle, rfl, hfirst, hlast⟩
  · rintro (⟨first, last, rfl, hfirst, hlast⟩ | ⟨first, last, rfl, hfirst, hlast⟩)
    · exact ⟨first, last ++ mark :: behind, by simp, hfirst, (isBoundary_before_mark hmark _ _).trans hlast⟩
    · exact ⟨before ++ mark :: first, last, by simp, (isBoundary_behind_mark hmark _ _).trans hfirst, hlast⟩

end RouteAtlas.Source
