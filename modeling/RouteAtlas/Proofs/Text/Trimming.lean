import RouteAtlas.Text.Blank
import Mathlib.Data.List.DropRight

/-!
# Trimming

Trimming takes the blanks off both ends of a text and nothing else (`exists_trim`), so a text without
blanks at its ends is left alone, and what is kept when one blank is taken off an end is kept by trimming
(`trim_induction`).
-/

set_option autoImplicit false

namespace RouteAtlas.Text

/-! ## What surrounds a text -/

theorem trimLeft_of_head {text : Text} (h : ∀ c ∈ text.head?, isBlank c = false) :
    trimLeft text = text := by
  cases text with
  | nil => rfl
  | cons c rest => simp [trimLeft, h c rfl]

/-- What surrounds a text that does not start or end with a character of the class is dropped. -/
theorem trimWhile_surrounded {p : Char → Bool} {before text behind : Text} (hbefore : before.all p = true)
    (hbehind : behind.all p = true) (hne : text ≠ []) (hhead : ∀ c ∈ text.head?, p c = false)
    (hlast : ∀ c ∈ text.getLast?, p c = false) : trimWhile p (before ++ text ++ behind) = text := by
  have hleft : (before ++ text ++ behind).dropWhile p = text ++ behind := by
    rw [List.append_assoc, List.dropWhile_append_of_pos (List.all_eq_true.1 hbefore)]
    cases text with
    | nil => exact absurd rfl hne
    | cons c rest => simp [hhead c rfl]
  have hright : text.reverse.dropWhile p = text.reverse := by
    cases hreverse : text.reverse with
    | nil => rfl
    | cons c rest =>
        have hc : p c = false := hlast c (by rw [← List.head?_reverse, hreverse]; rfl)
        simp [hc]
  rw [trimWhile, hleft, trimRightWhile, List.reverse_append,
    List.dropWhile_append_of_pos (by simpa using hbehind), hright, List.reverse_reverse]

/-- Blanks around a text that does not start or end with one are trimmed off. -/
theorem trim_surrounded {before text behind : Text} (hbefore : before.all isBlank = true)
    (hbehind : behind.all isBlank = true) (hne : text ≠ [])
    (hhead : ∀ c ∈ text.head?, isBlank c = false) (hlast : ∀ c ∈ text.getLast?, isBlank c = false) :
    trim (before ++ text ++ behind) = text :=
  trimWhile_surrounded hbefore hbehind hne hhead hlast

theorem trim_of_ends {text : Text} (hne : text ≠ []) (hhead : ∀ c ∈ text.head?, isBlank c = false)
    (hlast : ∀ c ∈ text.getLast?, isBlank c = false) : trim text = text := by
  simpa using trim_surrounded List.all_nil List.all_nil hne hhead hlast

theorem trim_eq_self {text : Text} (h : ∀ c ∈ text, isBlank c = false) : trim text = text := by
  by_cases hne : text = []
  · rw [hne]
    rfl
  · exact trim_of_ends hne (fun c hc => h c (List.mem_of_mem_head? hc)) fun c hc =>
      h c (List.mem_of_mem_getLast? hc)

/-! ## Blanks taken off -/

theorem trim_eq (text : Text) : trim text = (text.dropWhile isBlank).rdropWhile isBlank := rfl

/-- What is kept when a blank is taken off an end is kept by trimming. -/
theorem trim_induction {motive : Text → Prop}
    (first : ∀ b text, isBlank b = true → motive (b :: text) → motive text)
    (last : ∀ b text, isBlank b = true → motive (text ++ [b]) → motive text) {text : Text}
    (h : motive text) : motive (trim text) := by
  have hleft : motive (text.dropWhile isBlank) := by
    induction text with
    | nil => exact h
    | cons c rest ih =>
        by_cases hc : isBlank c = true
        · rw [List.dropWhile_cons_of_pos hc]
          exact ih (first c rest hc h)
        · rwa [List.dropWhile_cons_of_neg hc]
  rw [trim_eq]
  generalize text.dropWhile isBlank = dropped at hleft
  induction dropped using List.reverseRecOn with
  | nil => exact hleft
  | append_singleton rest c ih =>
      by_cases hc : isBlank c = true
      · rw [List.rdropWhile_concat_pos _ _ _ hc]
        exact ih (last c rest hc hleft)
      · rwa [List.rdropWhile_concat_neg _ _ _ hc]

/-- A text is its trimmed text with blanks around it. -/
theorem exists_trim (text : Text) : ∃ before behind, text = before ++ trim text ++ behind ∧
    before.all isBlank = true ∧ behind.all isBlank = true := by
  refine ⟨text.takeWhile isBlank, (text.dropWhile isBlank).rtakeWhile isBlank, ?_, ?_, ?_⟩
  · rw [trim_eq, List.append_assoc, List.rdropWhile_append_rtakeWhile, List.takeWhile_append_dropWhile]
  · exact List.all_takeWhile
  · rw [List.all_eq_true]
    exact fun c hc => List.mem_rtakeWhile_imp hc

theorem length_trim_le (text : Text) : (trim text).length ≤ text.length := by
  obtain ⟨before, behind, htext, -⟩ := exists_trim text
  have hlength := congrArg List.length htext
  rw [List.length_append, List.length_append] at hlength
  omega

/-- Nothing is left of a text of blanks, and of no other. -/
theorem trim_eq_nil_iff {text : Text} : trim text = [] ↔ isBlankText text = true := by
  constructor
  · intro h
    obtain ⟨before, behind, htext, hbefore, hbehind⟩ := exists_trim text
    rw [h, List.append_nil] at htext
    rw [isBlankText, htext, List.all_append, hbefore, hbehind]
    rfl
  · intro h
    have hleft : text.dropWhile isBlank = [] := List.dropWhile_eq_nil_iff.2 (List.all_eq_true.1 h)
    rw [trim_eq, hleft]
    rfl

theorem trim_trim (text : Text) : trim (trim text) = trim text := by
  -- the first character of the trimmed text is the one that trimming on the left stopped at
  have hhead : ∀ c ∈ (trim text).head?, isBlank c = false := by
    intro c hc
    obtain ⟨behind, hbehind⟩ := List.rdropWhile_prefix isBlank (text.dropWhile isBlank)
    have hstop := List.head?_dropWhile_not isBlank text
    rw [← hbehind, ← trim_eq, List.head?_append, Option.mem_def.1 hc] at hstop
    simpa using hstop
  have hleft : (trim text).dropWhile isBlank = trim text := trimLeft_of_head hhead
  rw [trim_eq (trim text), hleft, trim_eq, List.rdropWhile_idempotent]

/-! ## Trimmed texts -/

/-- The last character of a trimmed text is no blank. -/
theorem not_isBlank_of_getLast {text : Text} (h : trim text = text) {c : Char} (hc : text.getLast? = some c) :
    isBlank c = false := by
  rw [← h, trim_eq] at hc
  obtain ⟨hne, rfl⟩ := List.mem_getLast?_eq_getLast hc
  simpa using List.rdropWhile_last_not isBlank (text.dropWhile isBlank) hne

/-- A text that starts with no blank and ends with a trimmed one is trimmed. -/
theorem trim_append {before text : Text} (hhead : ∀ c ∈ (before ++ text).head?, isBlank c = false)
    (hne : text ≠ []) (htrim : trim text = text) : trim (before ++ text) = before ++ text := by
  obtain ⟨last, hlast⟩ := Option.ne_none_iff_exists'.1 (mt List.getLast?_eq_none_iff.1 hne)
  refine trim_of_ends (by simp [hne]) hhead fun c hc => ?_
  rw [List.getLast?_append, hlast, Option.some_or] at hc
  cases hc
  exact not_isBlank_of_getLast htrim hlast

end RouteAtlas.Text
