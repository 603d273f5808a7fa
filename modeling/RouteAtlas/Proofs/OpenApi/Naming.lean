import RouteAtlas.OpenApi.Components
import RouteAtlas.Proofs.OpenApi.References
import Mathlib.Data.Finset.Card
import Mathlib.Data.Fintype.Card
import Mathlib.Data.Set.Finite.List
import Mathlib.Logic.Relation
import Mathlib.Order.WellFounded

/-!
# Names of definitions

The name given to a definition is free for it: unused among the components, or holding an equal
definition (`isFree_vacantName`). One round of naming looks at a definition only through the names of
the definitions it refers to, so where these no longer change, its own name no longer does either.
Where no definition refers to itself, directly or through others, the rounds therefore come to rest
before they are used up (`breaks_of_naming`), and the naming that comes out is one that another round
would not change (`naming_fixed`).
-/

set_option autoImplicit false

namespace RouteAtlas.OpenApi

open Step

/-! ## Numbered names -/

theorem refTo_injective {name other : String} (h : refTo name = refTo other) : name = other :=
  (String.append_right_inj _).1 h

theorem toString_injective {number other : Nat} (h : toString number = toString other) :
    number = other := by
  have hdigits : Nat.toDigits 10 number = Nat.toDigits 10 other := by
    rw [← Nat.toList_repr, ← Nat.toList_repr, ← Nat.toString_eq_repr, ← Nat.toString_eq_repr, h]
  rw [← Nat.ofDigitChars_ten_toDigits (n := number), hdigits, Nat.ofDigitChars_ten_toDigits]

theorem toString_ne_empty (number : Nat) : toString number ≠ "" := by
  intro h
  have hdigits : Nat.toDigits 10 number = [] := by
    rw [← Nat.toList_repr, ← Nat.toString_eq_repr, h]
    rfl
  exact Nat.toDigits_ne_nil hdigits

/-- The numbered forms of a name are told apart by their numbers. -/
theorem numbered_injective {name : String} {number other : Nat} (hnumber : 0 < number)
    (hother : 0 < other) (h : numbered name number = numbered name other) : number = other := by
  have hself : ∀ k : Nat, name ≠ name ++ toString k := by
    intro k heq
    have hempty : name ++ "" = name ++ toString k := by rw [String.append_empty, ← heq]
    exact toString_ne_empty k ((String.append_right_inj _).1 hempty).symm
  simp only [numbered] at h
  split at h
  · split at h
    · omega
    · exact absurd h (hself other)
  · split at h
    · exact absurd h.symm (hself number)
    · exact toString_injective ((String.append_right_inj _).1 h)

/-- A numbered form that does not end in a digit is the name itself. -/
theorem eq_of_numbered_eq {name other : String} {number : Nat} (h : numbered name number = other)
    (hlast : ∀ c, other.toList.getLast? = some c → ¬ c.isDigit = true) : name = other := by
  simp only [numbered] at h
  split at h
  · exact h
  · -- the last character would be one of the number
    have hne : Nat.toDigits 10 number ≠ [] := Nat.toDigits_ne_nil
    have hend : other.toList.getLast? = some ((Nat.toDigits 10 number).getLast hne) := by
      rw [← h, String.toList_append, Nat.toString_eq_repr, Nat.toList_repr,
        List.getLast?_append_of_ne_nil _ hne, List.getLast?_eq_getLast_of_ne_nil hne]
    exact absurd (Nat.isDigit_of_mem_toDigits (by decide) (by decide) (List.getLast_mem hne))
      (hlast _ hend)

/-! ## Free names -/

theorem has_of_not_isFree {components : Table String Json} {definition : Json} {name : String}
    (h : ¬ isFree components definition name = true) : components.has name = true := by
  rw [isFree] at h
  split at h
  · exact absurd rfl h
  · rename_i hget
    rw [Table.has, hget, Option.isSome_some]

/-- The search ends at a free name, or every number it tried is taken. -/
theorem vacantNameFrom_cases (components : Table String Json) (definition : Json) (name : String) :
    ∀ fuel number,
      isFree components definition (vacantNameFrom components definition name fuel number) = true ∨
        ∀ i < fuel, ¬ isFree components definition (numbered name (number + i)) = true
  | 0, _ => .inr fun _ hi => absurd hi (Nat.not_lt_zero _)
  | fuel + 1, number => by
      rw [vacantNameFrom]
      split
      · rename_i hfree
        exact .inl hfree
      · rename_i htaken
        rcases vacantNameFrom_cases components definition name fuel (number + 1) with hfree | hall
        · exact .inl hfree
        · refine .inr fun i hi => ?_
          cases i with
          | zero => exact htaken
          | succ i =>
              have hstep := hall i (by omega)
              rwa [Nat.add_assoc, Nat.add_comm 1 i] at hstep

/-- **The name given to a definition is free for it.** More numbers are tried than there are
components, so they cannot all be taken. -/
theorem isFree_vacantName (components : Table String Json) (definition : Json) (name : String) :
    isFree components definition (vacantName components definition name) = true := by
  rcases vacantNameFrom_cases components definition name (components.length + 1) 1 with hfree | hall
  · exact hfree
  · -- otherwise the numbered forms would be too many different keys
    have hkeys : (List.range (components.length + 1)).map (fun i => numbered name (1 + i))
        ⊆ components.keys := by
      intro taken htaken
      obtain ⟨i, hi, rfl⟩ := List.mem_map.1 htaken
      exact Table.has_iff_mem_keys.1 (has_of_not_isFree (hall i (List.mem_range.1 hi)))
    have hdistinct : ((List.range (components.length + 1)).map
        (fun i => numbered name (1 + i))).Nodup := by
      apply List.Nodup.map_on _ List.nodup_range
      intro i _ j _ heq
      have := numbered_injective (by omega) (by omega) heq
      omega
    have hlength := (hdistinct.subperm hkeys).length_le
    simp only [List.length_map, List.length_range, Table.keys] at hlength
    omega

/-- A name is given up only where it is taken. -/
theorem vacantName_eq_or_has (components : Table String Json) (definition : Json) (name : String) :
    vacantName components definition name = name ∨ components.has name = true := by
  rw [vacantName, vacantNameFrom]
  split
  · exact .inl rfl
  · rename_i htaken
    exact .inr (has_of_not_isFree htaken)

/-- A given name is a numbered form of the name. -/
theorem vacantNameFrom_numbered (components : Table String Json) (definition : Json) (name : String) :
    ∀ fuel number, ∃ found, vacantNameFrom components definition name fuel number =
      numbered name found
  | 0, number => ⟨number, rfl⟩
  | fuel + 1, number => by
      rw [vacantNameFrom]
      split
      · exact ⟨number, rfl⟩
      · exact vacantNameFrom_numbered components definition name fuel (number + 1)

/-! ## Changes of references -/

/-- A changed reference leads to the new name of a definition. -/
theorem mem_of_get?_renamedTargets {names : Naming} {ref changed : String}
    (h : (renamedTargets names).get? ref = some changed) :
    ∃ old new, (old, new) ∈ names ∧ ref = refTo old ∧ changed = refTo new := by
  have hmem := Table.mem_of_mem_ofList (Table.mem_of_get? h)
  obtain ⟨⟨old, new⟩, hentry, heq⟩ := List.mem_map.1 hmem
  simp only [Prod.mk.injEq] at heq
  exact ⟨old, new, List.mem_of_mem_filter hentry, heq.1.symm, heq.2.symm⟩

/-- Where the names are distinct, a reference changes with the name it leads to. -/
theorem get?_renamedTargets {names : Naming} (hdistinct : (Table.keys names).Nodup) (name : String) :
    (renamedTargets names).get? (refTo name) =
      ((Table.get? names name).filter (· ≠ name)).map refTo := by
  have hplain : renamedTargets names = (names.filter fun entry => entry.1 ≠ entry.2).map
      fun entry => (refTo entry.1, refTo entry.2) := by
    apply Table.ofList_of_distinct
    rw [Table.keys, List.map_map]
    apply List.Nodup.map_on
    · -- two entries with one reference have one key, and then are one entry
      rintro ⟨old, new⟩ hentry ⟨old', new'⟩ hentry' heq
      obtain rfl : old = old' := refTo_injective heq
      have hnew := Table.get?_of_mem hdistinct (List.mem_of_mem_filter hentry)
      have hnew' := Table.get?_of_mem hdistinct (List.mem_of_mem_filter hentry')
      rw [hnew, Option.some.injEq] at hnew'
      rw [hnew']
    · exact (List.Nodup.of_map _ hdistinct).filter _
  rw [hplain]
  clear hplain
  -- without duplicates, both tables are looked up along the same list
  induction names with
  | nil => rfl
  | cons entry rest ih =>
      rcases entry with ⟨old, new⟩
      simp only [Table.keys, List.map_cons, List.nodup_cons] at hdistinct
      specialize ih hdistinct.2
      simp only [List.filter_cons, Table.get?]
      by_cases hname : old = name
      · subst hname
        by_cases hnew : old = new
        · -- an unchanged name stays out, and its key occurs nowhere else
          subst hnew
          have hnone : Table.get? rest old = none := Table.get?_eq_none_iff.2 hdistinct.1
          rw [hnone] at ih
          simpa [Option.filter] using ih
        · simp [hnew, Ne.symm hnew, Table.get?]
      · by_cases hnew : old = new
        · rw [if_neg hname]
          simpa [hnew] using ih
        · have href : refTo old ≠ refTo name := fun heq => hname (refTo_injective heq)
          simpa [hname, hnew, Table.get?, href] using ih

/-- Namings that agree on everything a definition refers to rename it alike. -/
theorem retarget_renamedTargets_congr {names others : Naming} {definition : Json}
    (hnames : (Table.keys names).Nodup) (hothers : (Table.keys others).Nodup)
    (h : ∀ name, refTo name ∈ refs definition → Table.get? names name = Table.get? others name) :
    retarget (renamedTargets names) definition = retarget (renamedTargets others) definition := by
  apply retarget_congr
  intro ref href
  by_cases hform : ∃ name, ref = refTo name
  · obtain ⟨name, rfl⟩ := hform
    rw [get?_renamedTargets hnames, get?_renamedTargets hothers, h name href]
  · have hnone : ∀ naming : Naming, (renamedTargets naming).get? ref = none := by
      intro naming
      rw [Option.eq_none_iff_forall_ne_some]
      intro changed hget
      obtain ⟨old, -, -, hold, -⟩ := mem_of_get?_renamedTargets hget
      exact hform ⟨old, hold⟩
    rw [hnone, hnone]

/-! ## Rounds -/

/-- A round names the definitions one by one. -/
theorem nameAll_cons {components : Table String Json} {names result : Naming} {name : String}
    {definition : Json} {rest : List (String × Json)}
    (h : nameAll components names ((name, definition) :: rest) = .ok result) :
    ∃ retargeted others, retarget (renamedTargets names) definition = .ok retargeted ∧
      nameAll components names rest = .ok others ∧
      result = (name, vacantName components retargeted name) :: others := by
  simp only [nameAll, bind_eq_ok, pure, Except.pure, Except.ok.injEq] at h
  obtain ⟨retargeted, hretarget, others, hothers, rfl⟩ := h
  exact ⟨retargeted, others, hretarget, hothers, rfl⟩

theorem keys_nameAll {components : Table String Json} {names : Naming} :
    ∀ {definitions : List (String × Json)} {result : Naming},
      nameAll components names definitions = .ok result →
        Table.keys result = Table.keys definitions
  | [], result, h => by cases h; rfl
  | (name, definition) :: rest, result, h => by
      obtain ⟨_, others, _, hothers, rfl⟩ := nameAll_cons h
      simpa only [Table.keys, List.map_cons] using congrArg (name :: ·) (keys_nameAll hothers)

/-- What a round gives to a definition: a name that is free for it with its references renamed. -/
theorem mem_nameAll {components : Table String Json} {names : Naming} {name given : String} :
    ∀ {definitions : List (String × Json)} {result : Naming},
      nameAll components names definitions = .ok result → (name, given) ∈ result →
        ∃ definition retargeted, (name, definition) ∈ definitions ∧
          retarget (renamedTargets names) definition = .ok retargeted ∧
          given = vacantName components retargeted name
  | [], result, h, hmem => by cases h; simp at hmem
  | (first, definition) :: rest, result, h, hmem => by
      obtain ⟨retargeted, others, hretarget, hothers, rfl⟩ := nameAll_cons h
      rcases List.mem_cons.1 hmem with heq | hmem
      · cases heq
        exact ⟨definition, retargeted, List.mem_cons_self, hretarget, rfl⟩
      · obtain ⟨found, renamed, hfound, hrest⟩ := mem_nameAll hothers hmem
        exact ⟨found, renamed, List.mem_cons_of_mem _ hfound, hrest⟩

/-- What holds of the first naming and of every naming that a round gives holds of the last one. -/
theorem settle_preserves {components : Table String Json} {definitions : List (String × Json)}
    {P : Naming → Prop}
    (hround : ∀ names next, P names → nameAll components names definitions = .ok next → P next) :
    ∀ rounds names result, P names → settle components definitions rounds names = .ok result →
      P result
  | 0, names, result, hnames, h => by cases h; exact hnames
  | rounds + 1, names, result, hnames, h => by
      simp only [settle, bind_eq_ok] at h
      obtain ⟨next, hnext, h⟩ := h
      split at h
      · cases h
        exact hnames
      · exact settle_preserves hround rounds next result (hround names next hnames hnext) h

theorem keys_naming {components : Table String Json} {definitions : List (String × Json)}
    {names : Naming} (h : naming components definitions = .ok names) :
    Table.keys names = Table.keys definitions := by
  refine settle_preserves (fun _ _ _ hnext => keys_nameAll hnext) _ _ _ ?_ h
  simp [Table.keys]

/-- A definition keeps its name unless the name is taken. -/
theorem naming_eq_or_has {components : Table String Json} {definitions : List (String × Json)}
    {names : Naming} (h : naming components definitions = .ok names) :
    ∀ entry ∈ names, entry.2 = entry.1 ∨ components.has entry.1 = true := by
  refine settle_preserves (P := fun names => ∀ entry ∈ names,
    entry.2 = entry.1 ∨ components.has entry.1 = true) ?_ _ _ _ ?_ h
  · rintro names next - hnext ⟨name, given⟩ hentry
    obtain ⟨_, retargeted, -, -, rfl⟩ := mem_nameAll hnext hentry
    exact vacantName_eq_or_has components retargeted name
  · intro entry hentry
    obtain ⟨⟨name, definition⟩, -, rfl⟩ := List.mem_map.1 hentry
    exact .inl rfl

theorem naming_numbered {components : Table String Json} {definitions : List (String × Json)}
    {names : Naming} (h : naming components definitions = .ok names) :
    ∀ entry ∈ names, ∃ number, entry.2 = numbered entry.1 number := by
  refine settle_preserves (P := fun names => ∀ entry ∈ names,
    ∃ number, entry.2 = numbered entry.1 number) ?_ _ _ _ ?_ h
  · rintro names next - hnext ⟨name, given⟩ hentry
    obtain ⟨_, retargeted, -, -, rfl⟩ := mem_nameAll hnext hentry
    exact vacantNameFrom_numbered components retargeted name _ _
  · intro entry hentry
    obtain ⟨⟨name, definition⟩, -, rfl⟩ := List.mem_map.1 hentry
    exact ⟨1, rfl⟩

/-! ## Coming to rest -/

/-- A definition refers to a name. -/
def RefersTo (definitions : List (String × Json)) (name other : String) : Prop :=
  ∃ definition, (name, definition) ∈ definitions ∧ refTo other ∈ refs definition

/-- No definition refers to itself, directly or through others. -/
def NonRecursive (definitions : List (String × Json)) : Prop :=
  ∀ name, ¬ Relation.TransGen (RefersTo definitions) name name

/-- Outside any set that misses a definition, but none that refers to itself, there is a definition that
refers to no other outside of it. -/
theorem exists_bottom {definitions : List (String × Json)} {inside : Finset String}
    (hcycles : ∀ name, Relation.TransGen (RefersTo definitions) name name → name ∈ inside)
    (hmissing : ∃ name ∈ Table.keys definitions, name ∉ inside) :
    ∃ name ∈ Table.keys definitions, name ∉ inside ∧
      ∀ other ∈ Table.keys definitions, RefersTo definitions name other → other ∈ inside := by
  -- what is outside is finite and never above itself, so it has a lowest element
  let Outside := { name : String // name ∈ Table.keys definitions ∧ name ∉ inside }
  let below : Outside → Outside → Prop := fun low high =>
    Relation.TransGen (RefersTo definitions) high.1 low.1
  have : Finite Outside :=
    Set.Finite.subset (List.finite_toSet (Table.keys definitions)) fun _ h => h.1
  have : IsTrans Outside below := ⟨fun _ _ _ hab hbc => hbc.trans hab⟩
  have : Std.Irrefl below := ⟨fun name hcycle => name.2.2 (hcycles name.1 hcycle)⟩
  have hwf : WellFounded below := Finite.wellFounded_of_trans_of_irrefl below
  obtain ⟨name, hkey, houtside⟩ := hmissing
  obtain ⟨⟨bottom, hbottom, hnot⟩, -, hmin⟩ :=
    hwf.has_min Set.univ ⟨⟨name, hkey, houtside⟩, trivial⟩
  refine ⟨bottom, hbottom, hnot, fun other hother hrefers => ?_⟩
  by_contra hout
  exact hmin ⟨other, hother, hout⟩ trivial (Relation.TransGen.single hrefers)

/-- The name that a round gives to a definition. -/
theorem get?_nameAll {components : Table String Json} {definitions : List (String × Json)}
    {names next : Naming} (hdistinct : (Table.keys definitions).Nodup)
    (hnext : nameAll components names definitions = .ok next) {name : String} {definition : Json}
    (hmem : (name, definition) ∈ definitions) :
    ∃ retargeted, retarget (renamedTargets names) definition = .ok retargeted ∧
      Table.get? next name = some (vacantName components retargeted name) := by
  have hkey : name ∈ Table.keys next := by
    rw [keys_nameAll hnext]
    exact List.mem_map_of_mem hmem
  obtain ⟨given, hgiven⟩ := Option.isSome_iff_exists.1 (Table.has_iff_mem_keys.2 hkey)
  obtain ⟨found, retargeted, hfound, hretarget, rfl⟩ := mem_nameAll hnext (Table.mem_of_get? hgiven)
  -- the round has named this very definition, since the keys are distinct
  have hsame := Table.get?_of_mem hdistinct hfound
  rw [Table.get?_of_mem hdistinct hmem, Option.some.injEq] at hsame
  subst hsame
  exact ⟨retargeted, hretarget, hgiven⟩

/-- Two rounds that start from the same names for what a definition refers to give it one name. -/
theorem get?_nameAll_congr {components : Table String Json} {definitions : List (String × Json)}
    {names others next next' : Naming} (hdistinct : (Table.keys definitions).Nodup)
    (hnames : Table.keys names = Table.keys definitions)
    (hothers : Table.keys others = Table.keys definitions)
    (hnext : nameAll components names definitions = .ok next)
    (hnext' : nameAll components others definitions = .ok next')
    {name : String} (hname : name ∈ Table.keys definitions)
    (hagree : ∀ other ∈ Table.keys definitions, RefersTo definitions name other →
      Table.get? names other = Table.get? others other) :
    Table.get? next name = Table.get? next' name := by
  obtain ⟨⟨_, definition⟩, hmem, rfl⟩ := List.mem_map.1 hname
  obtain ⟨retargeted, hretarget, hget⟩ := get?_nameAll hdistinct hnext hmem
  obtain ⟨retargeted', hretarget', hget'⟩ := get?_nameAll hdistinct hnext' hmem
  have hrenamed : retarget (renamedTargets names) definition =
      retarget (renamedTargets others) definition := by
    apply retarget_renamedTargets_congr (hnames ▸ hdistinct) (hothers ▸ hdistinct)
    intro other href
    by_cases hother : other ∈ Table.keys definitions
    · exact hagree other hother ⟨definition, hmem, href⟩
    -- a reference to nothing that is defined is left alone by both
    · rw [Table.get?_eq_none_iff.2 (hnames ▸ hother), Table.get?_eq_none_iff.2 (hothers ▸ hother)]
  rw [hretarget, hretarget', Except.ok.injEq] at hrenamed
  rw [hget, hget', hrenamed]

/-- Namings of the same distinct names that answer alike are equal. -/
theorem naming_ext {names others : Naming} (hdistinct : (Table.keys names).Nodup)
    (hkeys : Table.keys others = Table.keys names)
    (h : ∀ name ∈ Table.keys names, Table.get? others name = Table.get? names name) :
    others = names := by
  induction names generalizing others with
  | nil => simpa [Table.keys] using hkeys
  | cons entry rest ih =>
      rcases entry with ⟨name, given⟩
      cases others with
      | nil => simp [Table.keys] at hkeys
      | cons entry' rest' =>
          rcases entry' with ⟨name', given'⟩
          simp only [Table.keys, List.map_cons, List.cons.injEq, List.nodup_cons] at hkeys hdistinct
          obtain ⟨rfl, hkeys⟩ := hkeys
          have hgiven : given' = given := by simpa [Table.get?, Table.keys] using h name'
          have hrest : rest' = rest := by
            apply ih hdistinct.2 hkeys
            intro other hother
            have hne : name' ≠ other := by
              rintro rfl
              exact hdistinct.1 hother
            simpa [Table.get?, hne] using h other (List.mem_cons_of_mem _ hother)
          rw [hgiven, hrest]

/-- The names of some definitions that another round does not change, together with the names of all
that these refer to. -/
structure Resting (components : Table String Json) (definitions : List (String × Json))
    (names : Naming) (resting : Finset String) : Prop where
  defined : ∀ name ∈ resting, name ∈ Table.keys definitions
  closed : ∀ name ∈ resting, ∀ other ∈ Table.keys definitions,
    RefersTo definitions name other → other ∈ resting
  unchanged : ∀ next, nameAll components names definitions = .ok next →
    ∀ name ∈ resting, Table.get? next name = Table.get? names name

/-- One round adds to the names at rest, unless it changes nothing: whatever refers only to names at
rest has come to rest itself. -/
theorem Resting.step {components : Table String Json} {definitions : List (String × Json)}
    {names next : Naming} {resting : Finset String} (hdistinct : (Table.keys definitions).Nodup)
    (hcycles : ∀ name, Relation.TransGen (RefersTo definitions) name name → name ∈ resting)
    (hnames : Table.keys names = Table.keys definitions)
    (hresting : Resting components definitions names resting)
    (hnext : nameAll components names definitions = .ok next) (hchange : next ≠ names) :
    ∃ name ∉ resting, Resting components definitions next (insert name resting) := by
  have hkeys : Table.keys next = Table.keys definitions := keys_nameAll hnext
  -- if all names were at rest, the round would have changed nothing
  have hmissing : ∃ name ∈ Table.keys definitions, name ∉ resting := by
    by_contra hall
    push Not at hall
    apply hchange
    apply naming_ext (hnames ▸ hdistinct) (hkeys.trans hnames.symm)
    intro name hname
    exact hresting.unchanged next hnext name (hall name (hnames ▸ hname))
  obtain ⟨bottom, hbottom, hnot, hrefers⟩ := exists_bottom hcycles hmissing
  -- what refers to names at rest only is not changed by the next round, hence this set and not the new one
  have hinside : ∀ name ∈ insert bottom resting, ∀ other ∈ Table.keys definitions,
      RefersTo definitions name other → other ∈ resting := by
    intro name hname other hother href
    rcases Finset.mem_insert.1 hname with rfl | hname
    · exact hrefers other hother href
    · exact hresting.closed name hname other hother href
  refine ⟨bottom, hnot, ?_, ?_, ?_⟩
  · intro name hname
    rcases Finset.mem_insert.1 hname with rfl | hname
    · exact hbottom
    · exact hresting.defined name hname
  · intro name hname other hother href
    exact Finset.mem_insert_of_mem (hinside name hname other hother href)
  · intro after hafter name hname
    have hdefined : name ∈ Table.keys definitions := by
      rcases Finset.mem_insert.1 hname with rfl | hname
      · exact hbottom
      · exact hresting.defined name hname
    apply get?_nameAll_congr hdistinct hkeys hnames hafter hnext hdefined
    intro other hother href
    exact hresting.unchanged next hnext other (hinside name hname other hother href)

/-- The rounds that start from some names end at a naming that the next round does not change, and the
round that finds this out is among the given number of rounds. -/
inductive Breaks (components : Table String Json) (definitions : List (String × Json)) :
    Nat → Naming → Naming → Prop where
  | now {rounds : Nat} {names : Naming} : nameAll components names definitions = .ok names →
      Breaks components definitions (rounds + 1) names names
  | later {rounds : Nat} {names next result : Naming} :
      nameAll components names definitions = .ok next → next ≠ names →
      Breaks components definitions rounds next result →
      Breaks components definitions (rounds + 1) names result

theorem Breaks.fixed {components : Table String Json} {definitions : List (String × Json)}
    {rounds : Nat} {names result : Naming} (h : Breaks components definitions rounds names result) :
    nameAll components result definitions = .ok result := by
  induction h with
  | now hround => exact hround
  | later _ _ _ ih => exact ih

/-- **Naming comes to rest in as many rounds as there are names not at rest, and one more**, provided
that every definition that refers to itself has a name at rest. -/
theorem breaks_of_settle {components : Table String Json} {definitions : List (String × Json)}
    (hdistinct : (Table.keys definitions).Nodup) :
    ∀ (rounds : Nat) (names result : Naming) (resting : Finset String),
      (∀ name, Relation.TransGen (RefersTo definitions) name name → name ∈ resting) →
      Table.keys names = Table.keys definitions →
      Resting components definitions names resting →
      definitions.length ≤ resting.card + rounds →
      settle components definitions (rounds + 1) names = .ok result →
        Breaks components definitions (rounds + 1) names result
  | rounds, names, result, resting, hcycles, hnames, hresting, hrounds, h => by
      simp only [settle, bind_eq_ok] at h
      obtain ⟨next, hnext, h⟩ := h
      split at h
      · rename_i hsame
        cases h
        exact .now (hnext.trans (congrArg Except.ok hsame))
      · rename_i hchange
        obtain ⟨name, hnew, hgrown⟩ := hresting.step hdistinct hcycles hnames hnext hchange
        have hcard : (insert name resting).card = resting.card + 1 :=
          Finset.card_insert_of_notMem hnew
        have hbound : (insert name resting).card ≤ definitions.length := by
          have hsubset : insert name resting ⊆ (Table.keys definitions).toFinset := by
            intro other hother
            exact List.mem_toFinset.2 (hgrown.defined other hother)
          have hle := (Finset.card_le_card hsubset).trans (List.toFinset_card_le _)
          simpa [Table.keys] using hle
        -- a round that changes something leaves a round to go
        obtain ⟨left, rfl⟩ : ∃ left, rounds = left + 1 := ⟨rounds - 1, by omega⟩
        exact .later hnext hchange (breaks_of_settle hdistinct left next result _
          (fun other hcycle => Finset.mem_insert_of_mem (hcycles other hcycle))
          (keys_nameAll hnext) hgrown (by omega) h)

/-- **The naming of definitions that are not recursive comes to rest** before its rounds are used
up. -/
theorem breaks_of_naming {components : Table String Json} {definitions : List (String × Json)}
    {names : Naming} (hdistinct : (Table.keys definitions).Nodup)
    (hnonrec : NonRecursive definitions) (h : naming components definitions = .ok names) :
    Breaks components definitions (definitions.length + 1)
      (definitions.map fun (name, _) => (name, name)) names := by
  refine breaks_of_settle hdistinct definitions.length _ names ∅
    (fun name hcycle => absurd hcycle (hnonrec name)) ?_ ⟨?_, ?_, ?_⟩ ?_ h
  · simp [Table.keys]
  · intro name hname
    exact absurd hname (Finset.notMem_empty name)
  · intro name hname
    exact absurd hname (Finset.notMem_empty name)
  · intro next _ name hname
    exact absurd hname (Finset.notMem_empty name)
  · omega

/-- Another round gives every definition that is not recursive the name it has. -/
theorem naming_fixed {components : Table String Json} {definitions : List (String × Json)}
    {names : Naming} (hdistinct : (Table.keys definitions).Nodup)
    (hnonrec : NonRecursive definitions) (h : naming components definitions = .ok names) :
    nameAll components names definitions = .ok names :=
  (breaks_of_naming hdistinct hnonrec h).fixed

end RouteAtlas.OpenApi
