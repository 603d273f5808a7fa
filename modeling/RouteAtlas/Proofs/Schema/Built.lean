import RouteAtlas.Schema.Compose
import Mathlib.Data.List.Basic

/-!
# Models that have been built

Whether a model can be built is a matter of its name and of each of its fields. Merging models brings
in no field that neither of them has, so two models that have been built can always be merged. A model
made from names is built unless one of the names gives a member that models keep for themselves, or
names a surrogate.
-/

set_option autoImplicit false

namespace RouteAtlas.Schema

open Text

/-- A field that a model can have. -/
structure Field.Fits (field : Field) : Prop where
  settings : field.member ≠ settingsMember
  hidden : isHidden field.member = false
  operation : isOperation field.member = false
  usable : field.isUsable = true

/-- A model that has been built: nothing keeps it from being one, and no null character is part of its
name. -/
structure Model.IsBuilt (model : Model) : Prop where
  faultless : model.buildFault? = none
  named : '\x00' ∉ model.name.toList

/-! ## Faults by fields -/

section

variable {identity : Identity} {name : String} {doc : Option String} {extra : Extra}
  {fields : List Field}

/-- What keeps a model from being built is its name or one of its fields. -/
theorem buildFault?_eq_none_iff :
    (Model.record identity name doc extra fields).buildFault? = none ↔
      '\x00' ∉ name.toList ∧ ∀ field ∈ fields, field.Fits := by
  have hfaults : (Model.record identity name doc extra fields).buildFault? = none ↔
      (∀ field ∈ fields, field.member ≠ settingsMember) ∧
      (∀ field ∈ fields, isHidden field.member = false) ∧ '\x00' ∉ name.toList ∧
      (∀ field ∈ fields, isOperation field.member = false) ∧
      ∀ field ∈ fields, field.isUsable = true := by
    simp [Model.buildFault?, Model.members, Model.fields, String.contains_char_eq]
  rw [hfaults]
  constructor
  · rintro ⟨hsettings, hhidden, hname, hoperation, husable⟩
    refine ⟨hname, fun field hfield => ?_⟩
    exact ⟨hsettings field hfield, hhidden field hfield, hoperation field hfield, husable field hfield⟩
  · rintro ⟨hname, hfits⟩
    exact ⟨fun field hfield => (hfits field hfield).settings,
      fun field hfield => (hfits field hfield).hidden, hname,
      fun field hfield => (hfits field hfield).operation,
      fun field hfield => (hfits field hfield).usable⟩

theorem Model.IsBuilt.fits {model : Model} (h : model.IsBuilt) {field : Field}
    (hfield : field ∈ model.fields) : field.Fits := by
  cases model with
  | given => cases hfield
  | record => exact (buildFault?_eq_none_iff.1 h.faultless).2 field hfield

/-- A model that is checked has been built, or is refused for its name or one of its fields. -/
theorem checked_cases (identity : Identity) (name : String) (doc : Option String) (extra : Extra)
    (fields : List Field) :
    ((Model.record identity name doc extra fields).checked =
        .ok (.record identity name doc extra fields) ∧
      (Model.record identity name doc extra fields).IsBuilt) ∨
    (∃ fault, (Model.record identity name doc extra fields).checked = .error fault) ∧
      ¬ ('\x00' ∉ name.toList ∧ ∀ field ∈ fields, field.Fits) := by
  rw [← @buildFault?_eq_none_iff identity name doc extra fields, Model.checked]
  cases hfault : (Model.record identity name doc extra fields).buildFault? with
  | none => exact .inl ⟨rfl, hfault, (buildFault?_eq_none_iff.1 hfault).1⟩
  | some fault => exact .inr ⟨⟨fault, rfl⟩, by simp⟩

end

/-! ## Merging -/

theorem mem_putField {fields : List Field} {added field : Field} (h : field ∈ putField fields added) :
    field ∈ fields ∨ field = added := by
  induction fields with
  | nil => exact .inr (List.mem_singleton.1 h)
  | cons first rest ih =>
      rw [putField] at h
      split at h
      · rcases List.mem_cons.1 h with rfl | hrest
        · exact .inr rfl
        · exact .inl (List.mem_cons_of_mem _ hrest)
      · rcases List.mem_cons.1 h with rfl | hrest
        · exact .inl List.mem_cons_self
        · rcases ih hrest with hold | hnew
          · exact .inl (List.mem_cons_of_mem _ hold)
          · exact .inr hnew

theorem mem_putFields {fields added : List Field} {field : Field}
    (h : field ∈ putFields fields added) : field ∈ fields ∨ field ∈ added := by
  induction added generalizing fields with
  | nil => exact .inl h
  | cons next rest ih =>
      rcases ih h with hput | hrest
      · rcases mem_putField hput with hold | rfl
        · exact .inl hold
        · exact .inr List.mem_cons_self
      · exact .inr (List.mem_cons_of_mem _ hrest)

/-- **Models that have been built can be merged**, and what they give has been built. -/
theorem Model.IsBuilt.merge {model other : Model} (h : model.IsBuilt) (hother : other.IsBuilt)
    (serial : Nat) : ∃ merged, model.merge serial other = .ok merged ∧ merged.IsBuilt := by
  rw [Model.merge]
  split
  · exact ⟨model, rfl, h⟩
  · have hname : '\x00' ∉
        (if model.name = other.name then model.name else model.name ++ other.name).toList := by
      split
      · exact h.named
      · rw [String.toList_append, List.mem_append]
        rintro (hfirst | hsecond)
        · exact h.named hfirst
        · exact hother.named hsecond
    have hfits : ∀ field ∈ putFields (putFields [] model.fields) other.fields, field.Fits := by
      intro field hfield
      rcases mem_putFields hfield with hfirst | hsecond
      · rcases mem_putFields hfirst with hnone | hown
        · cases hnone
        · exact h.fits hown
      · exact hother.fits hsecond
    rcases checked_cases (.built serial)
        (if model.name = other.name then model.name else model.name ++ other.name) none .ignore
        (putFields (putFields [] model.fields) other.fields) with ⟨hchecked, hbuilt⟩ | ⟨-, hfault⟩
    · exact ⟨_, hchecked, hbuilt⟩
    · exact absurd ⟨hname, hfits⟩ hfault

/-! ## Models made from names -/

/-- A name that no model can have a field for: it gives a member that models keep for themselves, or it
names a surrogate. -/
def isRefused (name : String) : Bool :=
  memberOf name == settingsMember || isOperation (memberOf name) || hasSurrogate name.toList

/-- The member made from a name starts with a letter. -/
theorem isHidden_memberOf (name : String) : isHidden (memberOf name) = false := by
  have hhead : ∀ (c : Char) (rest : Text), c ≠ '_' → isHidden (String.ofList (c :: rest)) = false := by
    intro c rest hc
    simp [isHidden, startsWith, dropStart?, String.toList_ofList, hc.symm]
  have hletter : isLetter '_' = false := by decide +kernel
  simp only [memberOf]
  split
  · rename_i c rest hmember
    split
    · rename_i hc
      rw [hmember]
      apply hhead
      rintro rfl
      rw [hletter] at hc
      cases hc
    · rw [show "f_" = String.ofList ['f', '_'] from rfl, ← String.ofList_append]
      exact hhead 'f' _ (by decide)
  · rfl

theorem fits_namedField {name : String} (h : isRefused name = false) : (namedField name).Fits := by
  simp only [isRefused, Bool.or_eq_false_iff, beq_eq_false_iff_ne] at h
  obtain ⟨⟨hsettings, hoperation⟩, hsurrogate⟩ := h
  refine ⟨hsettings, isHidden_memberOf name, hoperation, ?_⟩
  show (_ && !hasSurrogate name.toList) = true
  rw [hsurrogate]
  rfl

/-- **A model made from names** has been built, or one of the names is refused, whatever its number. -/
theorem synthesize_cases {name : String} (hname : '\x00' ∉ name.toList) (names : List String)
    (serial : Nat) :
    (∃ model, synthesize serial name names = .ok model ∧ model.IsBuilt) ∨
    (∃ fault, synthesize serial name names = .error fault) ∧
      ∃ given ∈ names, isRefused given = true := by
  rw [synthesize]
  rcases checked_cases (.built serial) name none .ignore (putFields [] (names.map namedField)) with
    ⟨hchecked, hbuilt⟩ | ⟨hrefused, hfault⟩
  · exact .inl ⟨_, hchecked, hbuilt⟩
  · refine .inr ⟨hrefused, ?_⟩
    by_contra hnone
    apply hfault
    refine ⟨hname, fun field hfield => ?_⟩
    rcases mem_putFields hfield with hempty | hnamed
    · cases hempty
    · obtain ⟨given, hgiven, rfl⟩ := List.mem_map.1 hnamed
      apply fits_namedField
      rw [Bool.eq_false_iff]
      exact fun hrefuses => hnone ⟨given, hgiven, hrefuses⟩

end RouteAtlas.Schema
