import RouteAtlas.Proofs.Text.Names

/-!
# Words and the blanks around them

A reader drops a word or a run of blanks off the head of a text. What is left then is exactly the text
behind the word, or behind all the blanks that stand there. A tight text has no blanks at its ends, so
it is what is left when the blanks around it are trimmed off.
-/

set_option autoImplicit false

namespace RouteAtlas.Text

variable {text rest : Text}

theorem dropStart?_eq_some_iff {start : Text} : dropStart? start text = some rest ↔ text = start ++ rest := by
  constructor
  · intro h
    exact (append_of_dropStart? h).symm
  · rintro rfl
    exact dropStart?_append start rest

theorem trimLeft_eq_iff : trimLeft text = rest ↔
    ∃ blanks, text = blanks ++ rest ∧ isBlankText blanks = true ∧ ∀ c ∈ rest.head?, isBlank c = false := by
  constructor
  · rintro rfl
    refine ⟨text.takeWhile isBlank, List.takeWhile_append_dropWhile.symm, List.all_takeWhile, fun c hc => ?_⟩
    have hstop := List.head?_dropWhile_not isBlank text
    rw [← trimLeft, Option.mem_def.1 hc] at hstop
    simpa using hstop
  · rintro ⟨blanks, rfl, hblanks, hrest⟩
    rw [trimLeft, List.dropWhile_append_of_pos (List.all_eq_true.1 hblanks)]
    exact trimLeft_of_head hrest

/-- A run of blanks that keeps two words apart. -/
structure IsSpacing (blanks : Text) : Prop where
  ne_nil : blanks ≠ []
  blank : isBlankText blanks = true

theorem skipBlanks1?_eq_some_iff : skipBlanks1? text = some rest ↔
    ∃ blanks, text = blanks ++ rest ∧ IsSpacing blanks ∧ ∀ c ∈ rest.head?, isBlank c = false := by
  cases text with
  | nil =>
      refine ⟨nofun, ?_⟩
      rintro ⟨blanks, hempty, hspacing, -⟩
      exact absurd (List.append_eq_nil_iff.1 hempty.symm).1 hspacing.ne_nil
  | cons c text =>
      rw [skipBlanks1?]
      constructor
      · intro h
        split at h
        · rename_i hc
          obtain ⟨blanks, htext, hblanks, hrest⟩ := trimLeft_eq_iff.1 (Option.some.inj h)
          refine ⟨c :: blanks, congrArg (c :: ·) htext, ⟨List.cons_ne_nil _ _, ?_⟩, hrest⟩
          rw [isBlankText, List.all_cons, hc]
          exact hblanks
        · cases h
      · rintro ⟨blanks, htext, ⟨hne, hblank⟩, hrest⟩
        cases blanks with
        | nil => exact absurd rfl hne
        | cons d blanks =>
            obtain ⟨rfl, rfl⟩ := List.cons.inj htext
            rw [isBlankText, List.all_cons, Bool.and_eq_true] at hblank
            rw [if_pos hblank.1]
            exact congrArg some (trimLeft_eq_iff.2 ⟨blanks, rfl, hblank.2, hrest⟩)

/-- A word that does not begin with a blank is found behind all blanks. -/
theorem dropStart?_trimLeft_eq_some_iff {word : Text} (hne : word ≠ [])
    (hword : word.head?.any isBlank = false) : dropStart? word (trimLeft text) = some rest ↔
      ∃ blanks, text = blanks ++ (word ++ rest) ∧ isBlankText blanks = true := by
  rw [dropStart?_eq_some_iff, trimLeft_eq_iff]
  constructor
  · rintro ⟨blanks, htext, hblanks, -⟩
    exact ⟨blanks, htext, hblanks⟩
  · rintro ⟨blanks, htext, hblanks⟩
    refine ⟨blanks, htext, hblanks, fun c hc => ?_⟩
    rw [List.head?_append_of_ne_nil _ hne] at hc
    rwa [Option.mem_def.1 hc, Option.any_some] at hword

/-! ## Tight texts -/

/-- A text that neither begins nor ends with a blank. -/
structure IsTight (text : Text) : Prop where
  ne_nil : text ≠ []
  head : ∀ c ∈ text.head?, isBlank c = false
  last : ∀ c ∈ text.getLast?, isBlank c = false

/-- What stands between two tight texts does not matter. -/
theorem IsTight.between {first last : Text} (hfirst : IsTight first) (hlast : IsTight last) (middle : Text) :
    IsTight (first ++ (middle ++ last)) := by
  refine ⟨List.append_ne_nil_of_left_ne_nil hfirst.ne_nil _, ?_, ?_⟩
  · rw [List.head?_append_of_ne_nil _ hfirst.ne_nil]
    exact hfirst.head
  · rw [← List.append_assoc, List.getLast?_append_of_ne_nil _ hlast.ne_nil]
    exact hlast.last

theorem IsTight.trim_surrounded (h : IsTight text) {before behind : Text} (hbefore : isBlankText before = true)
    (hbehind : isBlankText behind = true) : trim (before ++ text ++ behind) = text :=
  Text.trim_surrounded hbefore hbehind h.ne_nil h.head h.last

theorem IsTight.trim_eq (h : IsTight text) : trim text = text :=
  trim_of_ends h.ne_nil h.head h.last

theorem isTight_singleton {c : Char} (h : isBlank c = false) : IsTight [c] := by
  refine ⟨List.cons_ne_nil _ _, ?_, ?_⟩
  · rintro _ ⟨⟩
    exact h
  · rintro _ ⟨⟩
    exact h

theorem IsName.isTight {name : Text} (h : IsName name) : IsTight name :=
  ⟨h.nonempty, fun c hc => h.not_isBlank c (List.mem_of_mem_head? hc), fun c hc =>
    h.not_isBlank c (List.mem_of_mem_getLast? hc)⟩

end RouteAtlas.Text
