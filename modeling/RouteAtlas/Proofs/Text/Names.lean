import RouteAtlas.Proofs.Text.Trimming
import RouteAtlas.Source.Call
import Mathlib.Data.List.Basic

/-!
# Names

A name is an identifier of ASCII characters. Its characters are neither blanks nor marks of any kind,
so a name stands as a whole in whatever is put around it: reading an identifier takes the name and
stops behind it, trimming leaves it alone, and a name mentions no other name but itself.
-/

set_option autoImplicit false

namespace RouteAtlas.Text

/-- The characters of names. -/
def isNamePart (c : Char) : Bool := c.isAlphanum || c == '_' || c == '$'

/-- An identifier of ASCII characters. -/
structure IsName (text : Text) : Prop where
  nonempty : text ≠ []
  start : ∀ c ∈ text.head?, isIdentifierStart c = true
  parts : ∀ c ∈ text, isNamePart c = true

instance (text : Text) : Decidable (IsName text) :=
  decidable_of_iff (text ≠ [] ∧ text.head?.all isIdentifierStart = true ∧ text.all isNamePart = true)
    ⟨fun h => ⟨h.1, (Option.all_eq_true _ _).1 h.2.1, List.all_eq_true.1 h.2.2⟩,
      fun h => ⟨h.nonempty, (Option.all_eq_true _ _).2 h.start, List.all_eq_true.2 h.parts⟩⟩

/-! ## Characters -/

/-- The code points of ASCII letters and digits. -/
theorem toNat_of_isAlphanum {c : Char} (h : c.isAlphanum = true) :
    (65 ≤ c.toNat ∧ c.toNat ≤ 90) ∨ (97 ≤ c.toNat ∧ c.toNat ≤ 122) ∨
      (48 ≤ c.toNat ∧ c.toNat ≤ 57) := by
  have hclass : (c.isUpper = true ∨ c.isLower = true) ∨ c.isDigit = true := by
    rw [← Bool.or_eq_true, ← Bool.or_eq_true]
    exact h
  rcases hclass with (hupper | hlower) | hdigit
  · exact .inl (of_decide_eq_true hupper)
  · obtain ⟨hleast, hmost⟩ := Bool.and_eq_true_iff.1 hlower
    exact .inr (.inl ⟨of_decide_eq_true hleast, of_decide_eq_true hmost⟩)
  · obtain ⟨hleast, hmost⟩ := Bool.and_eq_true_iff.1 hdigit
    exact .inr (.inr ⟨of_decide_eq_true hleast, of_decide_eq_true hmost⟩)

theorem isNamePart_toNat_lt {c : Char} (h : isNamePart c = true) : c.toNat < 128 := by
  simp only [isNamePart, Bool.or_eq_true, beq_iff_eq] at h
  rcases h with (h | rfl) | rfl
  · have := toNat_of_isAlphanum h
    omega
  · decide
  · decide

theorem isIdentifierPart_of_isNamePart {c : Char} (h : isNamePart c = true) :
    isIdentifierPart c = true := by
  have hascii := isNamePart_toNat_lt h
  simp only [isNamePart, Bool.or_eq_true, beq_iff_eq] at h
  simp only [isIdentifierPart, isWord, isAlphanumeric, hascii, if_true, Bool.or_eq_true, beq_iff_eq]
  rcases h with (h | rfl) | rfl
  · exact .inl (.inr h)
  · exact .inl (.inl rfl)
  · exact .inr rfl

theorem not_isBlank_of_isNamePart {c : Char} (h : isNamePart c = true) : isBlank c = false := by
  have hascii := isNamePart_toNat_lt h
  simp only [isNamePart, Bool.or_eq_true, beq_iff_eq] at h
  rcases h with (h | rfl) | rfl
  · have hrange := toNat_of_isAlphanum h
    simp only [isBlank, hascii, if_true, Bool.or_eq_false_iff, Bool.and_eq_false_iff,
      decide_eq_false_iff_not]
    omega
  · decide
  · decide

/-- No blank outside ASCII is in a table whose ranges are apart from those of the blanks. -/
theorem not_isBlank_of_inRanges {table : List (Nat × Nat)}
    (hapart : ∀ range ∈ table, ∀ blank ∈ blankRanges, range.2 < blank.1 ∨ blank.2 < range.1) {c : Char}
    (hascii : ¬ c.toNat < 128) (h : inRanges table c = true) : isBlank c = false := by
  obtain ⟨range, hrange, hin⟩ := List.any_eq_true.1 h
  rw [isBlank, if_neg hascii, inRanges, List.any_eq_false]
  intro blank hblank
  have hrest := hapart range hrange blank hblank
  simp only [Bool.and_eq_true, decide_eq_true_eq] at hin ⊢
  omega

theorem isBlank_of_isAlphanumeric {c : Char} (h : isAlphanumeric c = true) : isBlank c = false := by
  by_cases hascii : c.toNat < 128
  · rw [isAlphanumeric, if_pos hascii] at h
    exact not_isBlank_of_isNamePart (by simp [isNamePart, h])
  -- outside ASCII both are read from tables of ranges, which are disjoint
  · rw [isAlphanumeric, if_neg hascii, Bool.or_eq_true] at h
    have hapart : ∀ range ∈ letterRanges ++ numeralRanges, ∀ blank ∈ blankRanges,
        range.2 < blank.1 ∨ blank.2 < range.1 := by
      decide +kernel
    refine not_isBlank_of_inRanges hapart hascii ?_
    rw [inRanges, List.any_append, Bool.or_eq_true]
    exact h

/-! ## Names in a text -/

theorem IsName.not_mem {name : Text} (h : IsName name) {c : Char} (hc : isNamePart c = false) :
    c ∉ name := by
  intro hmem
  rw [h.parts c hmem] at hc
  cases hc

theorem IsName.identifierPart {name : Text} (h : IsName name) :
    ∀ c ∈ name, isIdentifierPart c = true :=
  fun c hc => isIdentifierPart_of_isNamePart (h.parts c hc)

theorem IsName.not_isBlank {name : Text} (h : IsName name) : ∀ c ∈ name, isBlank c = false :=
  fun c hc => not_isBlank_of_isNamePart (h.parts c hc)

/-- Reading an identifier takes a name and stops behind it. -/
theorem identifier?_name {name rest : Text} (h : IsName name)
    (hrest : ∀ c ∈ rest.head?, isIdentifierPart c = false) :
    identifier? (name ++ rest) = some (name, rest) := by
  cases name with
  | nil => exact absurd rfl h.nonempty
  | cons c name =>
      have hstart : isIdentifierStart c = true := h.start c rfl
      have hparts : ∀ d ∈ name, isIdentifierPart d = true := fun d hd =>
        h.identifierPart d (List.mem_cons_of_mem _ hd)
      -- the character behind the name is no part of an identifier
      have hstop : rest.takeWhile isIdentifierPart = [] ∧ rest.dropWhile isIdentifierPart = rest := by
        cases rest with
        | nil => exact ⟨rfl, rfl⟩
        | cons d rest => simp [hrest d rfl]
      rw [List.cons_append, identifier?, if_pos hstart, List.takeWhile_append_of_pos hparts,
        List.dropWhile_append_of_pos hparts, hstop.1, hstop.2, List.append_nil]

/-! ## Trimming -/

theorem IsName.trim_surrounded {name before behind : Text} (h : IsName name)
    (hbefore : before.all isBlank = true) (hbehind : behind.all isBlank = true) :
    trim (before ++ name ++ behind) = name := by
  refine Text.trim_surrounded hbefore hbehind h.nonempty ?_ ?_
  · intro c hc
    exact h.not_isBlank c (List.mem_of_mem_head? hc)
  · intro c hc
    exact h.not_isBlank c (List.mem_of_mem_getLast? hc)

theorem IsName.trim_eq {name : Text} (h : IsName name) : trim name = name := by
  simpa using h.trim_surrounded List.all_nil List.all_nil

end RouteAtlas.Text

namespace RouteAtlas.Source

open Text

/-! ## Mentions -/

theorem mentionsFrom_inside {name text : Text} {previous : Char} (hname : name ≠ [])
    (hprevious : isIdentifierPart previous = true) (htext : ∀ c ∈ text, isIdentifierPart c = true) :
    mentionsFrom name (some previous) text = false := by
  induction text generalizing previous with
  | nil => simp [mentionsFrom, hname]
  | cons c rest ih =>
      rw [mentionsFrom, ih (htext c List.mem_cons_self) fun d hd => htext d (List.mem_cons_of_mem _ hd)]
      simp [isBoundary, hprevious]

/-- A name mentions itself and no other name. -/
theorem mentions_name {text name : Text} (htext : IsName text) (hname : name ≠ [])
    (hne : text ≠ name) : mentions text name = false := by
  cases text with
  | nil => exact absurd rfl htext.nonempty
  | cons c rest =>
      have hrest : mentionsFrom name (some c) rest = false :=
        mentionsFrom_inside hname (htext.identifierPart c List.mem_cons_self) fun d hd =>
          htext.identifierPart d (List.mem_cons_of_mem _ hd)
      rw [mentions, mentionsFrom, hrest]
      cases hdrop : dropStart? name (c :: rest) with
      | none => simp
      | some behind =>
          have happend := append_of_dropStart? hdrop
          cases behind with
          | nil =>
              rw [List.append_nil] at happend
              exact absurd happend.symm hne
          | cons d behind =>
              -- the name goes on, so it is not mentioned as a whole
              have hd : d ∈ c :: rest := by
                rw [← happend]
                simp
              simp [isBoundary, htext.identifierPart d hd]

theorem mem_of_mem_dropStart? {start text rest : Text} {c : Char}
    (h : dropStart? start text = some rest) (hc : c ∈ rest) : c ∈ text := by
  rw [← append_of_dropStart? h]
  exact List.mem_append_right _ hc

/-- Without a parenthesis there is no call. -/
theorem callStart?_eq_none {callee text : Text} (h : '(' ∉ text) (previous : Option Char) :
    callStart? callee previous text = none := by
  induction text generalizing previous with
  | nil => rfl
  | cons c rest ih =>
      -- a parenthesis behind the callee would be one of the text
      have hnone : ∀ behind, (dropStart? callee (c :: rest)).map trimLeft ≠ some ('(' :: behind) := by
        intro behind hsome
        obtain ⟨dropped, hdropped, htrim⟩ := Option.map_eq_some_iff.1 hsome
        have hmem : '(' ∈ trimLeft dropped := by
          rw [htrim]
          exact List.mem_cons_self
        exact h (mem_of_mem_dropStart? hdropped ((List.dropWhile_suffix _).subset hmem))
      have hrest := ih (fun hmem => h (List.mem_cons_of_mem _ hmem)) (some c)
      simp only [callStart?, hrest]
      split
      · rename_i count hcount
        split at hcount
        · cases hcount
        · cases hcount
      · rfl

theorem argumentsOfCall_eq_none {expression callee : Text} (h : '(' ∉ expression) :
    argumentsOfCall expression callee = .ok none := by
  rw [argumentsOfCall, callStart?_eq_none h]

end RouteAtlas.Source
