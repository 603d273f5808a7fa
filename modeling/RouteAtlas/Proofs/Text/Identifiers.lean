import RouteAtlas.Proofs.Text.Names

/-!
# Identifiers

An identifier starts with a character of its own class and goes on with word characters of any script.
What is read at the head of a text is the identifier that stands there, as far as it goes
(`identifier?_eq_some_iff`).
-/

set_option autoImplicit false

namespace RouteAtlas.Text

/-- An identifier could begin at the head of a text. -/
def BeginsName (text : Text) : Prop := ∃ c ∈ text.head?, isIdentifierStart c = true

/-- A text is an identifier. -/
structure IsIdentifier (name : Text) : Prop where
  begins : BeginsName name
  parts : ∀ c ∈ name, isIdentifierPart c = true

theorem isIdentifierPart_of_isIdentifierStart {c : Char} (h : isIdentifierStart c = true) :
    isIdentifierPart c = true := by
  apply isIdentifierPart_of_isNamePart
  simp only [isIdentifierStart, Bool.or_eq_true] at h
  simp only [isNamePart, Char.isAlphanum, Bool.or_eq_true]
  exact h.imp_left fun hname => hname.imp_left .inl

theorem IsIdentifier.not_mem {name : Text} (h : IsIdentifier name) {c : Char}
    (hc : isIdentifierPart c = false) : c ∉ name :=
  fun hmem => Bool.false_ne_true (hc.symm.trans (h.parts c hmem))

theorem isBlank_of_isIdentifierPart {c : Char} (h : isIdentifierPart c = true) : isBlank c = false := by
  simp only [isIdentifierPart, isWord, Bool.or_eq_true, beq_iff_eq] at h
  rcases h with (rfl | h) | rfl
  · decide
  · exact isBlank_of_isAlphanumeric h
  · decide

theorem identifier?_eq_none_iff {text : Text} : identifier? text = none ↔ ¬ BeginsName text := by
  cases text with
  | nil => simp [identifier?, BeginsName]
  | cons c rest => simp [identifier?, BeginsName]

/-- An identifier is read as far as it goes. -/
theorem identifier?_eq_some_iff {text name behind : Text} :
    identifier? text = some (name, behind) ↔
      text = name ++ behind ∧ IsIdentifier name ∧ ∀ c ∈ behind.head?, isIdentifierPart c = false := by
  constructor
  · intro h
    have happend := identifier?_append h
    cases text with
    | nil => cases h
    | cons c rest =>
        rw [identifier?] at h
        split at h
        · rename_i hstart
          cases h
          refine ⟨happend.symm, ⟨⟨c, rfl, hstart⟩, ?_⟩, fun d hd => ?_⟩
          · rw [List.forall_mem_cons]
            exact ⟨isIdentifierPart_of_isIdentifierStart hstart, List.all_eq_true.1 List.all_takeWhile⟩
          · have hstop := List.head?_dropWhile_not isIdentifierPart rest
            rw [Option.mem_def.1 hd] at hstop
            simpa using hstop
        · cases h
  · rintro ⟨rfl, ⟨⟨c, hc, hstart⟩, hparts⟩, hstop⟩
    obtain ⟨name, rfl⟩ := List.head?_eq_some_iff.1 (Option.mem_def.1 hc)
    have hrest : behind.takeWhile isIdentifierPart = [] ∧ behind.dropWhile isIdentifierPart = behind := by
      cases behind with
      | nil => exact ⟨rfl, rfl⟩
      | cons d behind => simp [hstop d rfl]
    have hname : ∀ d ∈ name, isIdentifierPart d = true := fun d hd => hparts d (List.mem_cons_of_mem _ hd)
    rw [List.cons_append, identifier?, if_pos hstart, List.takeWhile_append_of_pos hname,
      List.dropWhile_append_of_pos hname, hrest.1, hrest.2, List.append_nil]

end RouteAtlas.Text
