import RouteAtlas.Text.Basic

/-!
# Parts between separators

Cutting a text at a separator and joining texts with it undo each other where the texts hold no
separator (`partsBy_join`, beside `join_partsBy`). Both go along with putting one text behind another
one, so what is known of the parts carries over to the joined text.
-/

set_option autoImplicit false

namespace RouteAtlas.Text

/-! ## Joining -/

theorem join_cons {separator part : Text} {parts : List Text} (h : parts ≠ []) :
    join separator (part :: parts) = part ++ separator ++ join separator parts := by
  cases parts with
  | nil => exact absurd rfl h
  | cons next parts => rfl

theorem join_append {separator : Text} {first rest : List Text} (hfirst : first ≠ []) (hrest : rest ≠ []) :
    join separator (first ++ rest) = join separator first ++ separator ++ join separator rest := by
  induction first with
  | nil => exact absurd rfl hfirst
  | cons part first ih =>
      cases first with
      | nil => exact join_cons hrest
      | cons next first =>
          have hinner := ih (List.cons_ne_nil _ _)
          rw [List.cons_append, join_cons (by simp), hinner, join_cons (List.cons_ne_nil _ _)]
          simp only [List.append_assoc]

theorem join_concat {separator last : Text} {parts : List Text} (h : parts ≠ []) :
    join separator (parts ++ [last]) = join separator parts ++ separator ++ last :=
  join_append h (List.cons_ne_nil _ _)

theorem join_ne_nil {separator : Text} {parts : List Text} (hne : parts ≠ [])
    (h : ∀ part ∈ parts, part ≠ []) : join separator parts ≠ [] := by
  cases parts with
  | nil => exact absurd rfl hne
  | cons part parts =>
      have hpart := h part List.mem_cons_self
      cases parts with
      | nil => exact hpart
      | cons next parts => simp [join, hpart]

/-- A character of a joined text comes from a part or from the separator. -/
theorem mem_join {separator : Text} {parts : List Text} {c : Char} (h : c ∈ join separator parts) :
    c ∈ separator ∨ ∃ part ∈ parts, c ∈ part := by
  induction parts with
  | nil => cases h
  | cons part parts ih =>
      by_cases hlast : parts = []
      · rw [hlast] at h
        exact .inr ⟨part, List.mem_cons_self, h⟩
      · rw [join_cons hlast, List.mem_append, List.mem_append] at h
        rcases h with (hpart | hseparator) | hrest
        · exact .inr ⟨part, List.mem_cons_self, hpart⟩
        · exact .inl hseparator
        · exact (ih hrest).imp_right fun ⟨other, hother, hc⟩ => ⟨other, List.mem_cons_of_mem _ hother, hc⟩

/-! ## Cutting -/

section

variable {separator : Char}

theorem partsBy_of_not_mem {text : Text} (h : separator ∉ text) : partsBy separator text = [text] := by
  induction text with
  | nil => rfl
  | cons c rest ih =>
      have hc : c ≠ separator := fun hsame => h (hsame ▸ List.mem_cons_self)
      rw [partsBy, if_neg hc, ih fun hmem => h (List.mem_cons_of_mem _ hmem)]

theorem partsBy_append {text : Text} (h : separator ∉ text) (rest : Text) :
    partsBy separator (text ++ separator :: rest) = text :: partsBy separator rest := by
  induction text with
  | nil => simp [partsBy]
  | cons c text ih =>
      have hc : c ≠ separator := fun hsame => h (hsame ▸ List.mem_cons_self)
      rw [List.cons_append, partsBy, if_neg hc, ih fun hmem => h (List.mem_cons_of_mem _ hmem)]

/-- A piece is found at its first place when its first character does not stand before it. -/
theorem cut?_append {c : Char} {piece before : Text} (h : c ∉ before) (behind : Text) :
    cut? (c :: piece) (before ++ (c :: piece ++ behind)) = some (before, behind) := by
  induction before with
  | nil =>
      have hhere : dropStart? (c :: piece) (c :: (piece ++ behind)) = some behind :=
        dropStart?_append (c :: piece) behind
      rw [List.nil_append, List.cons_append, cut?, hhere]
  | cons d before ih =>
      have hd : c ≠ d := fun hsame => h (hsame ▸ List.mem_cons_self)
      rw [List.cons_append, cut?, dropStart?, if_neg hd, ih fun hmem => h (List.mem_cons_of_mem _ hmem)]
      rfl

/-- The parts of a joined text, with what stands behind a further separator. -/
theorem partsBy_join_append {parts : List Text} (hne : parts ≠ [])
    (h : ∀ part ∈ parts, separator ∉ part) (rest : Text) :
    partsBy separator (join [separator] parts ++ separator :: rest) = parts ++ partsBy separator rest := by
  induction parts with
  | nil => exact absurd rfl hne
  | cons part parts ih =>
      have hpart := h part List.mem_cons_self
      by_cases hlast : parts = []
      · rw [hlast]
        exact partsBy_append hpart rest
      · have hrest := ih hlast fun other hother => h other (List.mem_cons_of_mem _ hother)
        rw [join_cons hlast, List.append_assoc, List.append_assoc, List.singleton_append,
          partsBy_append hpart, hrest, List.cons_append]

/-- **Cutting a joined text at the separator gives its parts.** -/
theorem partsBy_join {parts : List Text} (hne : parts ≠ []) (h : ∀ part ∈ parts, separator ∉ part) :
    partsBy separator (join [separator] parts) = parts := by
  induction parts with
  | nil => exact absurd rfl hne
  | cons part parts ih =>
      have hpart := h part List.mem_cons_self
      by_cases hlast : parts = []
      · rw [hlast]
        exact partsBy_of_not_mem hpart
      · rw [join_cons hlast, List.append_assoc, List.singleton_append, partsBy_append hpart,
          ih hlast fun other hother => h other (List.mem_cons_of_mem _ hother)]

end

end RouteAtlas.Text
