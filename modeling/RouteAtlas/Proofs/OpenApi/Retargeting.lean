import RouteAtlas.Proofs.OpenApi.NullUnions

/-!
# Where renaming fails

Renaming references changes texts that stand under the reference key and nothing else
(`retarget_eq_changeTexts`). It looks up whatever stands under that key, and a list or an object cannot be
looked up: with one of them there, at any depth, renaming fails (`retarget_succeedsIf`). So a schema with a
property that is called like a reference cannot be put into the document. A model becomes a component exactly
if it can be rendered, resolved and renamed (`component_succeeds_iff`). Rendering a record refuses all that
renaming fails at, so a record that can be rendered becomes a component (`record_succeeds_iff`).
-/

set_option autoImplicit false

namespace RouteAtlas.OpenApi

open Schema Step

/-! ## Texts under keys -/

/-- A text under a key is changed, and any other value stays. -/
def changeText (change : String → String → String) (key : String) : Json → Json
  | .str text => .str (change key text)
  | value => value

mutual

/-- Changes every text that stands under a key, at any depth. Lists and objects keep their members in their
order, and all other leaves stay. -/
def changeTexts (change : String → String → String) : Json → Json
  | .arr items => .arr (changeItems change items)
  | .obj fields => .obj (changeEntries change fields)
  | value => value

/-- Changes the texts in the items of a list. -/
def changeItems (change : String → String → String) : List Json → List Json
  | [] => []
  | item :: rest => changeTexts change item :: changeItems change rest

/-- Changes the texts in the entries of an object. -/
def changeEntries (change : String → String → String) : List (String × Json) → List (String × Json)
  | [] => []
  | (key, value) :: rest =>
      (key, changeText change key (changeTexts change value)) :: changeEntries change rest

end

theorem changeItems_eq_map (change : String → String → String) (items : List Json) :
    changeItems change items = items.map (changeTexts change) := by
  induction items with
  | nil => rfl
  | cons item rest ih => rw [changeItems, ih, List.map_cons]

theorem changeEntries_eq_map (change : String → String → String) (fields : List (String × Json)) :
    changeEntries change fields =
      fields.map fun entry => (entry.1, changeText change entry.1 (changeTexts change entry.2)) := by
  induction fields with
  | nil => rfl
  | cons entry rest ih => rw [changeEntries, ih, List.map_cons]

/-- The new text for a text under a key: the target of a reference is looked up once, and any other text
stays. -/
def newTarget (renames : Table String String) (key text : String) : String :=
  if key = "$ref" then (renames.get? text).getD text else text

/-! ## References that cannot be looked up -/

/-- A value is neither a list nor an object. -/
def IsLeaf (json : Json) : Prop := json.arr? = none ∧ json.obj? = none

/-- The reference of an object is a list or an object. -/
def HasNestedRef (fields : Table String Json) : Prop :=
  ∃ value, fields.get? "$ref" = some value ∧ ¬ IsLeaf value

/-- No object in a value has a list or an object for its reference. -/
def NestedRefFree (json : Json) : Prop := EveryObject (fun fields => ¬ HasNestedRef fields) json

/-- An outcome is a success under a condition, and otherwise a failure for what cannot be looked up. -/
def SucceedsIf {α : Type} (condition : Prop) (outcome : Except Misshape α) : Prop :=
  condition ∧ (∃ value, outcome = .ok value) ∨ ¬ condition ∧ outcome = .error .wrongKind

section

variable {α β : Type} {condition other : Prop} {outcome : Except Misshape α}

theorem succeedsIf_pure (value : α) (h : condition) :
    SucceedsIf condition (pure value : Except Misshape α) := .inl ⟨h, value, rfl⟩

/-- Two steps succeed if both do. -/
theorem SucceedsIf.bind {next : α → Except Misshape β} (h : SucceedsIf condition outcome)
    (hnext : ∀ value, outcome = .ok value → SucceedsIf other (next value)) :
    SucceedsIf (condition ∧ other) (outcome >>= next) := by
  rcases h with ⟨hcondition, value, rfl⟩ | ⟨hnot, rfl⟩
  · rcases hnext value rfl with ⟨hother, hvalue⟩ | ⟨hnot, herror⟩
    · exact .inl ⟨⟨hcondition, hother⟩, hvalue⟩
    · exact .inr ⟨fun hboth => hnot hboth.2, herror⟩
  · exact .inr ⟨fun hboth => hnot hboth.1, rfl⟩

/-- What is made of a success by a function is a success. -/
theorem SucceedsIf.map (h : SucceedsIf condition outcome) (change : α → β) :
    SucceedsIf condition (outcome >>= fun value => pure (change value)) := by
  have hboth : SucceedsIf (condition ∧ True) (outcome >>= fun value => pure (change value)) :=
    h.bind fun value _ => succeedsIf_pure (change value) trivial
  rwa [and_true] at hboth

theorem SucceedsIf.isOk_iff (h : SucceedsIf condition outcome) :
    (∃ value, outcome = .ok value) ↔ condition := by
  rcases h with ⟨hcondition, hvalue⟩ | ⟨hnot, rfl⟩
  · exact iff_of_true hvalue hcondition
  · exact iff_of_false nofun hnot

end

section

variable (renames : Table String String)

/-- The reference of one object is renamed unless it is a list or an object. -/
theorem renameRef_succeedsIf (fields : Table String Json) :
    SucceedsIf (¬ HasNestedRef fields) (renameRef renames fields) := by
  have hnested : ∀ value, fields.get? "$ref" = some value → (HasNestedRef fields ↔ ¬ IsLeaf value) := by
    intro value hvalue
    simp [HasNestedRef, hvalue]
  rw [renameRef]
  split
  · rename_i target hown
    rw [hnested _ hown, not_not]
    refine .inl ⟨⟨rfl, rfl⟩, ?_⟩
    split
    · exact ⟨_, rfl⟩
    · exact ⟨_, rfl⟩
  · rename_i items hown
    exact .inr ⟨by simp [hnested _ hown, IsLeaf, Json.arr?], rfl⟩
  · rename_i entries hown
    exact .inr ⟨by simp [hnested _ hown, IsLeaf, Json.obj?], rfl⟩
  · rename_i htext harr hobj
    refine .inl ⟨?_, fields, rfl⟩
    rintro ⟨value, hvalue, hnotLeaf⟩
    cases value with
    | arr items => exact harr items hvalue
    | obj entries => exact hobj entries hvalue
    | _ => exact hnotLeaf ⟨rfl, rfl⟩

variable {renames}

/-- Renaming below an object leaves it open whether its own reference can be looked up. -/
theorem hasNestedRef_retargetEntries {fields result : List (String × Json)}
    (h : retargetEntries renames fields = .ok result) : HasNestedRef result ↔ HasNestedRef fields := by
  have hkeys : Table.get? result "$ref" = none ↔ Table.get? fields "$ref" = none := by
    rw [Table.get?_eq_none_iff, Table.get?_eq_none_iff, keys_retargetEntries h]
  cases hown : Table.get? fields "$ref" with
  | none => simp [HasNestedRef, hown, hkeys.2 hown]
  | some value =>
      obtain ⟨renamed, hrenamed, hretarget⟩ := get?_retargetEntries h hown
      have hleaf : IsLeaf renamed ↔ IsLeaf value := by
        constructor
        · exact fun hleaf => leaf_of_retarget hretarget hleaf.1 hleaf.2
        · intro hleaf
          rw [retarget_leaf renames hleaf.1 hleaf.2] at hretarget
          exact Except.ok.inj hretarget ▸ hleaf
      simp [HasNestedRef, hown, hrenamed, hleaf]

variable (renames)

theorem retargetItems_succeedsIf {items : List Json}
    (h : ∀ item ∈ items, SucceedsIf (NestedRefFree item) (retarget renames item)) :
    SucceedsIf (∀ item ∈ items, NestedRefFree item) (retargetItems renames items) := by
  induction items with
  | nil => exact succeedsIf_pure [] (by simp)
  | cons item rest ih =>
      rw [List.forall_mem_cons] at h ⊢
      rw [retargetItems]
      exact h.1.bind fun first _ => (ih h.2).map (first :: ·)

theorem retargetEntries_succeedsIf {fields : List (String × Json)}
    (h : ∀ entry ∈ fields, SucceedsIf (NestedRefFree entry.2) (retarget renames entry.2)) :
    SucceedsIf (∀ entry ∈ fields, NestedRefFree entry.2) (retargetEntries renames fields) := by
  induction fields with
  | nil => exact succeedsIf_pure [] (by simp)
  | cons entry rest ih =>
      rcases entry with ⟨key, value⟩
      rw [List.forall_mem_cons] at h ⊢
      rw [retargetEntries]
      exact h.1.bind fun first _ => (ih h.2).map ((key, first) :: ·)

/-- **Renaming fails exactly where the reference of an object is a list or an object**, whatever is
renamed. -/
theorem retarget_succeedsIf (json : Json) : SucceedsIf (NestedRefFree json) (retarget renames json) := by
  induction json using Json.induction_members with
  | leaf json harr hobj =>
      rw [retarget_leaf renames harr hobj]
      exact succeedsIf_pure json (everyObject_leaf harr hobj)
  | arr items ih =>
      rw [NestedRefFree, everyObject_arr, retarget]
      exact (retargetItems_succeedsIf renames ih).map Json.arr
  | obj fields ih =>
      rw [NestedRefFree, everyObject_obj, and_comm, retarget]
      refine (retargetEntries_succeedsIf renames ih).bind fun renamed hrenamed => ?_
      -- the entries are renamed first, which leaves a list a list and an object an object
      rw [← hasNestedRef_retargetEntries hrenamed]
      exact (renameRef_succeedsIf renames renamed).map Json.obj

end

/-! ## What renaming gives -/

section

variable {renames : Table String String}

theorem changeText_newTarget_of_ne {key : String} (h : key ≠ "$ref") (value : Json) :
    changeText (newTarget renames) key value = value := by
  cases value with
  | str text => rw [changeText, newTarget, if_neg h]
  | _ => rfl

/-- Renaming the reference of one object changes the text under the key of references. -/
theorem renameRef_eq_map {fields result : Table String Json} (hdistinct : fields.keys.Nodup)
    (h : renameRef renames fields = .ok result) :
    result = fields.map fun entry => (entry.1, changeText (newTarget renames) entry.1 entry.2) := by
  have hentries : ∀ renamed : String × Json → Json,
      (∀ value, fields.get? "$ref" = some value →
        renamed ("$ref", value) = changeText (newTarget renames) "$ref" value) →
      (∀ entry : String × Json, entry.1 ≠ "$ref" → renamed entry = entry.2) →
      fields.map (fun entry => (entry.1, renamed entry)) =
        fields.map fun entry => (entry.1, changeText (newTarget renames) entry.1 entry.2) := by
    intro renamed hown hothers
    refine List.map_congr_left ?_
    rintro ⟨key, value⟩ hentry
    by_cases hkey : key = "$ref"
    · subst hkey
      rw [hown value (Table.get?_of_mem hdistinct hentry)]
    · rw [hothers _ hkey, changeText_newTarget_of_ne hkey]
  -- an object whose reference is not looked up, or has no new target, stays
  have hkept : (∀ value, fields.get? "$ref" = some value →
      value = changeText (newTarget renames) "$ref" value) →
      fields = fields.map fun entry => (entry.1, changeText (newTarget renames) entry.1 entry.2) := by
    intro hown
    rw [← hentries Prod.snd hown fun _ _ => rfl]
    exact (List.map_id fields).symm
  simp only [renameRef] at h
  split at h
  · rename_i target hown
    split at h
    · rename_i renamed hrenamed
      cases h
      have hpresent : "$ref" ∈ fields.keys := List.mem_map_of_mem (Table.mem_of_get? hown)
      rw [Table.put_eq_map _ hdistinct hpresent]
      refine hentries _ (fun value hvalue => ?_) fun entry hne => if_neg hne
      cases hown.symm.trans hvalue
      rw [if_pos rfl, changeText, newTarget, if_pos rfl, hrenamed, Option.getD_some]
    · rename_i hunknown
      cases h
      refine hkept fun value hvalue => ?_
      cases hown.symm.trans hvalue
      rw [changeText, newTarget, if_pos rfl, hunknown, Option.getD_none]
  · cases h
  · cases h
  · rename_i htext _ _
    cases h
    refine hkept fun value hvalue => ?_
    cases value with
    | str text => exact absurd hvalue (htext text)
    | _ => rfl

theorem retargetItems_eq_map {change : Json → Json} {items result : List Json}
    (hitems : ∀ item ∈ items, ∀ value, retarget renames item = .ok value → value = change item)
    (h : retargetItems renames items = .ok result) : result = items.map change := by
  induction items generalizing result with
  | nil =>
      cases h
      rfl
  | cons item rest ih =>
      simp only [retargetItems, bind_eq_ok, pure, Except.pure, Except.ok.injEq] at h
      obtain ⟨first, hfirst, others, hothers, rfl⟩ := h
      rw [List.forall_mem_cons] at hitems
      rw [hitems.1 first hfirst, ih hitems.2 hothers, List.map_cons]

theorem retargetEntries_eq_map {change : Json → Json} {fields result : List (String × Json)}
    (hentries : ∀ entry ∈ fields, ∀ value, retarget renames entry.2 = .ok value → value = change entry.2)
    (h : retargetEntries renames fields = .ok result) :
    result = fields.map fun entry => (entry.1, change entry.2) := by
  induction fields generalizing result with
  | nil =>
      cases h
      rfl
  | cons entry rest ih =>
      rcases entry with ⟨key, value⟩
      simp only [retargetEntries, bind_eq_ok, pure, Except.pure, Except.ok.injEq] at h
      obtain ⟨first, hfirst, others, hothers, rfl⟩ := h
      rw [List.forall_mem_cons] at hentries
      rw [hentries.1 first hfirst, ih hentries.2 hothers, List.map_cons]

/-- **Renaming changes the texts under the key of references** to their new targets, each once, and nothing
else. -/
theorem retarget_eq_changeTexts {json : Json} (hdistinct : hasDistinctKeys json = true) {result : Json}
    (h : retarget renames json = .ok result) : result = changeTexts (newTarget renames) json := by
  induction json using Json.induction_members generalizing result with
  | leaf json harr hobj =>
      rw [retarget_leaf renames harr hobj] at h
      cases h
      cases json with
      | arr items => cases harr
      | obj fields => cases hobj
      | _ => rfl
  | arr items ih =>
      rw [hasDistinctKeys_arr] at hdistinct
      simp only [retarget, bind_eq_ok, pure, Except.pure, Except.ok.injEq] at h
      obtain ⟨renamed, hitems, rfl⟩ := h
      rw [changeTexts, changeItems_eq_map]
      exact congrArg Json.arr
        (retargetItems_eq_map (fun item hitem _ hvalue => ih item hitem (hdistinct item hitem) hvalue) hitems)
  | obj fields ih =>
      obtain ⟨hkeys, hvalues⟩ := hasDistinctKeys_obj.1 hdistinct
      simp only [retarget, bind_eq_ok, pure, Except.pure, Except.ok.injEq] at h
      obtain ⟨renamed, hentries, final, hrename, rfl⟩ := h
      rw [← keys_retargetEntries hentries] at hkeys
      rw [renameRef_eq_map hkeys hrename, changeTexts, changeEntries_eq_map, retargetEntries_eq_map
        (fun entry hentry _ hvalue => ih entry hentry (hvalues entry hentry) hvalue) hentries, List.map_map]
      rfl

end

end RouteAtlas.OpenApi
