import RouteAtlas.Proofs.OpenApi.Retargeting

/-!
# Rendering a schema again

The second of two calls for one schema names its definitions from the start, against components that
hold the definitions of the first call with their references renamed. A definition that refers to no
renamed one finds its component at once, and the definitions above it follow, round by round. A
definition that refers to itself through a renamed one never does: as long as one name on the way differs
from the name of the first call, the definition that refers to it is found under another name too.
`component_repeats_iff` says that a second call gives the same value and registers nothing unless there is
such a definition, or one that the first call has not left under its name, and that it comes back to the
names of the first call exactly then.
-/

set_option autoImplicit false

namespace RouteAtlas.OpenApi

open Schema Step

/-! ## Components that grow -/

/-- The name found among some components is found again when there are more of them, as long as it is
free for the definition then. -/
theorem vacantNameFrom_grown {components grown : Table String Json} {definition : Json} {name : String}
    (hgrown : components <+: grown) :
    ∀ {fuel more number : Nat}, fuel ≤ more →
      isFree grown definition (vacantNameFrom components definition name fuel number) = true →
        vacantNameFrom grown definition name more number =
          vacantNameFrom components definition name fuel number
  | 0, 0, _, _, _ => rfl
  | 0, more + 1, number, _, hfree => by
      rw [vacantNameFrom] at hfree ⊢
      rw [vacantNameFrom, if_pos hfree]
  | fuel + 1, 0, _, hle, _ => absurd hle (Nat.not_succ_le_zero fuel)
  | fuel + 1, more + 1, number, hle, hfree => by
      rw [vacantNameFrom] at hfree
      rw [vacantNameFrom, vacantNameFrom]
      by_cases hhere : isFree components definition (numbered name number) = true
      · rw [if_pos hhere] at hfree ⊢
        rw [if_pos hfree]
      · -- a component that is in the way stays there
        have htaken : ¬ isFree grown definition (numbered name number) = true := by
          obtain ⟨registered, hregistered⟩ := Option.isSome_iff_exists.1 (has_of_not_isFree hhere)
          rw [isFree, hregistered] at hhere
          rw [isFree, Table.get?_of_grown hgrown hregistered]
          exact hhere
        rw [if_neg hhere] at hfree ⊢
        rw [if_neg htaken]
        exact vacantNameFrom_grown hgrown (Nat.le_of_succ_le_succ hle) hfree

theorem vacantName_grown {components grown : Table String Json} {definition : Json} {name : String}
    (hgrown : components <+: grown)
    (hfree : isFree grown definition (vacantName components definition name) = true) :
    vacantName grown definition name = vacantName components definition name :=
  vacantNameFrom_grown hgrown (Nat.succ_le_succ hgrown.length_le) hfree

/-- A round gives the same names among more components, where these are free still. -/
theorem nameAll_grown {components grown : Table String Json} {names : Naming}
    (hgrown : components <+: grown) :
    ∀ {definitions : List (String × Json)} {result : Naming},
      nameAll components names definitions = .ok result →
      (∀ entry ∈ definitions, ∀ retargeted,
        retarget (renamedTargets names) entry.2 = .ok retargeted →
          isFree grown retargeted (vacantName components retargeted entry.1) = true) →
        nameAll grown names definitions = .ok result
  | [], _, h, _ => h
  | (name, definition) :: rest, result, h, hfree => by
      obtain ⟨retargeted, others, hretarget, hothers, rfl⟩ := nameAll_cons h
      rw [List.forall_mem_cons] at hfree
      rw [nameAll, hretarget, nameAll_grown hgrown hothers hfree.2]
      simp only [bind, Except.bind, vacantName_grown hgrown (hfree.1 retargeted hretarget)]
      rfl

theorem vacantName_of_isFree {components : Table String Json} {definition : Json} {name : String}
    (h : isFree components definition name = true) : vacantName components definition name = name := by
  rw [vacantName, vacantNameFrom]
  exact if_pos h

/-- A name that holds an equal definition in the end was free for it all along. -/
theorem isFree_of_grown {components grown : Table String Json} {definition registered : Json}
    {name : String} (hgrown : components <+: grown) (hregistered : grown.get? name = some registered)
    (halike : registered.alike definition = true) : isFree components definition name = true := by
  rw [isFree]
  split
  · rfl
  · rename_i early hearly
    rw [Table.get?_of_grown hgrown hearly, Option.some.injEq] at hregistered
    rw [hregistered]
    exact halike

/-- **Whether references can be renamed does not depend on the renaming.** -/
theorem exists_retarget_of_ok {renames : Table String String} (others : Table String String)
    {json result : Json} (h : retarget renames json = .ok result) :
    ∃ other, retarget others json = .ok other :=
  (retarget_succeedsIf others json).isOk_iff.2 ((retarget_succeedsIf renames json).isOk_iff.1 ⟨result, h⟩)

/-! ## Names that come back -/

/-- The naming that leaves every definition its name. -/
def ownNames (definitions : List (String × Json)) : Naming :=
  definitions.map fun (name, _) => (name, name)

theorem keys_ownNames (definitions : List (String × Json)) :
    Table.keys (ownNames definitions) = Table.keys definitions := by
  simp [Table.keys, ownNames]

theorem get?_ownNames {definitions : List (String × Json)} {name : String}
    (h : name ∈ Table.keys definitions) : Table.get? (ownNames definitions) name = some name := by
  rw [← keys_ownNames] at h
  obtain ⟨given, hgiven⟩ := Option.isSome_iff_exists.1 (Table.has_iff_mem_keys.2 h)
  obtain ⟨⟨own, definition⟩, -, heq⟩ := List.mem_map.1 (Table.mem_of_get? hgiven)
  cases heq
  exact hgiven

theorem get?_of_mem_keys {names : Naming} {name : String} (h : name ∈ Table.keys names) :
    Table.get? names name = some (names.given name) := by
  obtain ⟨given, hgiven⟩ := Option.isSome_iff_exists.1 (Table.has_iff_mem_keys.2 h)
  rw [Naming.given, hgiven, Option.getD_some]

/-- What a naming does to the reference to a name. -/
theorem renamed_refTo {names : Naming} (hdistinct : (Table.keys names).Nodup) (name : String) :
    ((renamedTargets names).get? (refTo name)).getD (refTo name) = refTo (names.given name) := by
  rw [get?_renamedTargets hdistinct, Naming.given]
  cases Table.get? names name with
  | none => rfl
  | some given =>
      by_cases hsame : given = name
      · simp [Option.filter, hsame]
      · simp [Option.filter, hsame]

section

variable {components : Table String Json} {definitions : List (String × Json)}

/-- Names at rest stay what they are through all rounds. -/
theorem Resting.settle {names result : Naming} {resting : Finset String} {rounds : Nat}
    (hdistinct : (Table.keys definitions).Nodup) (hnames : Table.keys names = Table.keys definitions)
    (hresting : Resting components definitions names resting)
    (hround : ∃ next, nameAll components names definitions = .ok next)
    (h : OpenApi.settle components definitions rounds names = .ok result) :
    ∀ name ∈ resting, Table.get? result name = Table.get? names name := by
  obtain ⟨first, hfirst⟩ := hround
  have hkept : Table.keys result = Table.keys definitions ∧
      ∀ name ∈ resting, Table.get? result name = Table.get? names name := by
    refine settle_preserves (P := fun current => Table.keys current = Table.keys definitions ∧
      ∀ name ∈ resting, Table.get? current name = Table.get? names name) ?_ rounds names result ?_ h
    · rintro current next ⟨hcurrent, hagree⟩ hnext
      refine ⟨keys_nameAll hnext, fun name hname => ?_⟩
      -- what the name refers to is at rest too, so this round gives it the name of the first one
      rw [← hresting.unchanged first hfirst name hname]
      apply get?_nameAll_congr hdistinct hcurrent hnames hnext hfirst (hresting.defined name hname)
      intro other hother href
      exact hagree other (hresting.closed name hname other hother href)
    · exact ⟨hnames, fun _ _ => rfl⟩
  exact hkept.2

/-- Two namings that another round does not change are equal if they agree on all definitions that refer
to themselves. -/
theorem fixed_unique {names others : Naming} (hdistinct : (Table.keys definitions).Nodup)
    (hnames : nameAll components names definitions = .ok names)
    (hothers : nameAll components others definitions = .ok others)
    (hcycles : ∀ name, Relation.TransGen (RefersTo definitions) name name →
      Table.get? names name = Table.get? others name) : names = others := by
  have hkeys : Table.keys names = Table.keys definitions := keys_nameAll hnames
  have hkeys' : Table.keys others = Table.keys definitions := keys_nameAll hothers
  let agreed : Finset String := {name ∈ (Table.keys definitions).toFinset |
    Table.get? names name = Table.get? others name}
  have hmem : ∀ name, name ∈ agreed ↔ name ∈ Table.keys definitions ∧
      Table.get? names name = Table.get? others name := by
    intro name
    rw [Finset.mem_filter, List.mem_toFinset]
  apply naming_ext (hkeys' ▸ hdistinct) (hkeys.trans hkeys'.symm)
  intro name hname
  by_contra hdiffer
  have hmissing : ∃ name ∈ Table.keys definitions, name ∉ agreed :=
    ⟨name, hkeys' ▸ hname, fun hin => hdiffer ((hmem name).1 hin).2⟩
  have hinside : ∀ name, Relation.TransGen (RefersTo definitions) name name → name ∈ agreed := by
    intro name hcycle
    obtain ⟨_, ⟨definition, hdefinition, -⟩, -⟩ := Relation.TransGen.head'_iff.1 hcycle
    exact (hmem name).2 ⟨List.mem_map_of_mem hdefinition, hcycles name hcycle⟩
  -- a lowest definition with two names refers only to definitions with one name
  obtain ⟨bottom, hbottom, hnot, hrefers⟩ := exists_bottom hinside hmissing
  apply hnot
  refine (hmem bottom).2 ⟨hbottom, ?_⟩
  apply get?_nameAll_congr hdistinct hkeys hkeys' hnames hothers hbottom
  intro other hother href
  exact ((hmem other).1 (hrefers other hother href)).2

end

/-! ## A second call -/

/-- Definitions are registered where their references can be renamed. -/
theorem exists_registerAll (owner : String) {names : Naming} {definitions : List (String × Json)}
    (h : ∀ entry ∈ definitions, ∃ retargeted, retarget (renamedTargets names) entry.2 = .ok retargeted)
    (start : Assembly) : ∃ stop, Yields (registerAll owner names definitions) start () stop := by
  induction definitions generalizing start with
  | nil => exact ⟨start, rfl⟩
  | cons entry rest ih =>
      rcases entry with ⟨name, definition⟩
      rw [List.forall_mem_cons] at h
      obtain ⟨retargeted, hretarget⟩ := h.1
      have hstep : ∀ reported : Assembly, ∃ stop, Yields (do
          let retargeted ← Assemble.ofOutcome (retarget (renamedTargets names) definition)
          Assemble.register (names.given name) retargeted
          registerAll owner names rest) reported () stop := by
        intro reported
        obtain ⟨stop, hrest⟩ := ih h.2 _
        refine ⟨stop, yields_bind.2 ⟨retargeted, reported, yields_ofOutcome.2 ⟨hretarget, rfl⟩, ?_⟩⟩
        exact yields_bind.2 ⟨(), _, yields_register.2 rfl, hrest⟩
      rw [registerAll]
      split
      · -- the new name is reported before
        obtain ⟨stop, hrest⟩ := hstep { start with
          events := start.events ++ [.nestedRenamed name owner (names.given name)] }
        exact ⟨stop, yields_bind.2 ⟨⟨⟩, _, rfl, hrest⟩⟩
      · exact hstep start

/-- Registering changes no component where the names of the definitions are all taken. -/
theorem components_of_registerAll_taken {owner : String} {names : Naming} :
    ∀ {definitions : List (String × Json)} {start stop : Assembly},
      Yields (registerAll owner names definitions) start () stop →
      (∀ entry ∈ definitions, start.components.has (names.given entry.1) = true) →
        stop.components = start.components
  | [], _, _, h, _ => by
      cases h
      rfl
  | (name, definition) :: rest, start, stop, h, htaken => by
      rw [List.forall_mem_cons] at htaken
      obtain ⟨retargeted, middle, -, hmiddle, hrest⟩ := registerAll_cons h
      rw [if_pos htaken.1] at hmiddle
      rw [components_of_registerAll_taken hrest (by rw [hmiddle]; exact htaken.2), hmiddle]

/-- Definitions whose names are all taken are registered without effect. -/
theorem exists_registerAll_taken {owner : String} {names : Naming}
    {definitions : List (String × Json)} {start : Assembly}
    (h : ∀ entry ∈ definitions, ∃ retargeted, retarget (renamedTargets names) entry.2 = .ok retargeted)
    (htaken : ∀ entry ∈ definitions, start.components.has (names.given entry.1) = true) :
    ∃ stop, Yields (registerAll owner names definitions) start () stop ∧
      stop.components = start.components := by
  obtain ⟨stop, hregister⟩ := exists_registerAll owner h start
  exact ⟨stop, hregister, components_of_registerAll_taken hregister htaken⟩

/-- A call of `component` from its parts. -/
theorem yields_component {model : Model} {start stop : Assembly} {plain value : Json}
    (hoisting : Hoisting model start.components)
    (hregister : Yields (registerAll model.name hoisting.names hoisting.definitions) start () stop)
    (hplain : nullable (.obj hoisting.fields) = .ok plain)
    (hvalue : retarget hoisting.renames plain = .ok value) :
    Yields (component model) start value stop := by
  have hparts : rendered model >>= splitDefinitions = .ok (hoisting.nested, hoisting.fields) :=
    bind_eq_ok.2 ⟨hoisting.schema, hoisting.rendered_eq, hoisting.split_eq⟩
  rw [component]
  refine yields_bind.2 ⟨_, start, yields_ofOutcome.2 ⟨hparts, rfl⟩, ?_⟩
  refine yields_bind.2 ⟨_, start, yields_ofOutcome.2 ⟨hoisting.definitions_eq, rfl⟩, ?_⟩
  refine yields_bind.2 ⟨start, start, rfl, ?_⟩
  refine yields_bind.2 ⟨_, start, yields_ofOutcome.2 ⟨hoisting.names_eq, rfl⟩, ?_⟩
  refine yields_bind.2 ⟨(), stop, hregister, ?_⟩
  refine yields_bind.2 ⟨_, stop, yields_ofOutcome.2 ⟨hplain, rfl⟩, ?_⟩
  exact yields_ofOutcome.2 ⟨hvalue, rfl⟩

section

variable {model : Model} {components : Table String Json}

/-- Every definition, with its references renamed, equals the component under the name it is given. -/
def Hoisting.Found (hoisting : Hoisting model components) (stop : Assembly) : Prop :=
  ∀ entry ∈ hoisting.definitions, ∀ retargeted, retarget hoisting.renames entry.2 = .ok retargeted →
    ∃ registered, stop.components.get? (hoisting.given entry.1) = some registered ∧
      registered.alike retargeted = true

/-- No definition that refers to itself, directly or through others, is renamed or refers, directly or
through others, to one that is renamed. -/
def Hoisting.CyclesKept (hoisting : Hoisting model components) : Prop :=
  ∀ name, Relation.TransGen (RefersTo hoisting.definitions) name name →
    ∀ other, Relation.ReflTransGen (RefersTo hoisting.definitions) name other →
      hoisting.given other = other

/-- Another call of a model gives the same value and registers nothing. -/
def RendersAgain (model : Model) (stop : Assembly) (value : Json) : Prop :=
  ∃ again, Yields (component model) stop value again ∧ again.components = stop.components

/-- Another call comes back to the names of the first, and these are at rest. -/
def Hoisting.FindsNames (hoisting : Hoisting model components) (stop : Assembly) : Prop :=
  naming stop.components hoisting.definitions = .ok hoisting.names ∧
    nameAll stop.components hoisting.names hoisting.definitions = .ok hoisting.names

end

section

variable {model : Model} {start stop : Assembly} {value : Json}

theorem Hoisting.get?_names (hoisting : Hoisting model start.components) {name : String}
    (h : name ∈ Table.keys hoisting.definitions) :
    Table.get? hoisting.names name = some (hoisting.given name) := by
  rw [← keys_naming hoisting.names_eq] at h
  exact get?_of_mem_keys h

/-- All definitions can be renamed once they have been registered. -/
theorem Hoisting.exists_retarget (hoisting : Hoisting model start.components)
    (hregister : Yields (registerAll model.name hoisting.names hoisting.definitions) start () stop) :
    ∀ entry ∈ hoisting.definitions, ∀ renames, ∃ result, retarget renames entry.2 = .ok result := by
  have hall : ∀ {definitions : List (String × Json)} {first : Assembly},
      Yields (registerAll model.name hoisting.names definitions) first () stop →
        ∀ entry ∈ definitions, ∃ result, retarget hoisting.renames entry.2 = .ok result := by
    intro definitions
    induction definitions with
    | nil => simp
    | cons entry rest ih =>
        intro first hfirst
        obtain ⟨retargeted, middle, hretarget, -, hrest⟩ := registerAll_cons hfirst
        exact List.forall_mem_cons.2 ⟨⟨retargeted, hretarget⟩, ih hrest⟩
  intro entry hentry renames
  obtain ⟨_, hretarget⟩ := hall hregister entry hentry
  exact exists_retarget_of_ok renames hretarget

open Classical in
/-- The definitions that are not renamed and refer to none that is, directly or through others. -/
noncomputable def Hoisting.kept (hoisting : Hoisting model start.components) : Finset String :=
  {name ∈ (Table.keys hoisting.definitions).toFinset |
    ∀ other, Relation.ReflTransGen (RefersTo hoisting.definitions) name other →
      hoisting.given other = other}

theorem Hoisting.mem_kept (hoisting : Hoisting model start.components) {name : String} :
    name ∈ hoisting.kept ↔ name ∈ Table.keys hoisting.definitions ∧
      ∀ other, Relation.ReflTransGen (RefersTo hoisting.definitions) name other →
        hoisting.given other = other := by
  simp only [Hoisting.kept, Finset.mem_filter, List.mem_toFinset]

/-- A definition that refers to no renamed one is the same under its own names and under the given
ones. -/
theorem Hoisting.retarget_kept (hoisting : Hoisting model start.components)
    (hdistinct : (Table.keys hoisting.definitions).Nodup) {name : String} {definition : Json}
    (hname : name ∈ hoisting.kept) (hmem : (name, definition) ∈ hoisting.definitions) :
    retarget (renamedTargets (ownNames hoisting.definitions)) definition =
      retarget hoisting.renames definition := by
  have hkeys := keys_naming hoisting.names_eq
  have hown := keys_ownNames hoisting.definitions
  apply retarget_renamedTargets_congr (hown ▸ hdistinct) (hkeys ▸ hdistinct)
  intro other href
  by_cases hother : other ∈ Table.keys hoisting.definitions
  · have hreach : Relation.ReflTransGen (RefersTo hoisting.definitions) name other :=
      Relation.ReflTransGen.single ⟨definition, hmem, href⟩
    rw [get?_ownNames hother, hoisting.get?_names hother, (hoisting.mem_kept.1 hname).2 other hreach]
  · rw [Table.get?_eq_none_iff.2 (hown ▸ hother), Table.get?_eq_none_iff.2 (hkeys ▸ hother)]

/-- **What is not renamed, nor refers to what is, rests at its own name**, in the first call and in
the second. -/
theorem Hoisting.resting_kept (hoisting : Hoisting model start.components)
    (hdistinct : (Table.keys hoisting.definitions).Nodup) (hfound : hoisting.Found stop)
    {early : Table String Json} (hearly : early <+: stop.components) :
    Resting early hoisting.definitions (ownNames hoisting.definitions) hoisting.kept := by
  refine ⟨fun name hname => (hoisting.mem_kept.1 hname).1, ?_, ?_⟩
  · intro name hname other hother href
    refine hoisting.mem_kept.2 ⟨hother, fun last hreach => ?_⟩
    exact (hoisting.mem_kept.1 hname).2 last (Relation.ReflTransGen.head href hreach)
  · intro next hnext name hname
    obtain ⟨hkey, hreach⟩ := hoisting.mem_kept.1 hname
    obtain ⟨⟨_, definition⟩, hmem, rfl⟩ := List.mem_map.1 hkey
    obtain ⟨retargeted, hretarget, hget⟩ := get?_nameAll hdistinct hnext hmem
    rw [hget, get?_ownNames hkey]
    -- the component of that name, if it is there by now, is the one that is found in the end
    rw [hoisting.retarget_kept hdistinct hname hmem] at hretarget
    obtain ⟨registered, hregistered, halike⟩ := hfound _ hmem retargeted hretarget
    rw [hreach _ Relation.ReflTransGen.refl] at hregistered
    rw [vacantName_of_isFree (isFree_of_grown hearly hregistered halike)]

/-- The definitions that refer to themselves are among those kept, where these keep their names. -/
theorem Hoisting.CyclesKept.mem_kept {hoisting : Hoisting model start.components}
    (hcycles : hoisting.CyclesKept) {name : String}
    (h : Relation.TransGen (RefersTo hoisting.definitions) name name) : name ∈ hoisting.kept := by
  obtain ⟨_, ⟨definition, hdefinition, -⟩, -⟩ := Relation.TransGen.head'_iff.1 h
  exact hoisting.mem_kept.2 ⟨List.mem_map_of_mem hdefinition, hcycles name h⟩

/-- Naming that starts from components among those found comes to rest. -/
theorem Hoisting.nameAll_fixed (hoisting : Hoisting model start.components)
    (hdistinct : (Table.keys hoisting.definitions).Nodup) (hfound : hoisting.Found stop)
    (hcycles : hoisting.CyclesKept) {early : Table String Json} (hearly : early <+: stop.components)
    {names : Naming} (h : naming early hoisting.definitions = .ok names) :
    nameAll early names hoisting.definitions = .ok names :=
  (breaks_of_settle hdistinct hoisting.definitions.length _ names hoisting.kept
    (fun _ hcycle => hcycles.mem_kept hcycle) (keys_ownNames _)
    (hoisting.resting_kept hdistinct hfound hearly) (by omega) h).fixed

/-- The names of the first call are at rest in the second. -/
theorem Hoisting.nameAll_names (hoisting : Hoisting model start.components)
    (hdistinct : (Table.keys hoisting.definitions).Nodup) (hfound : hoisting.Found stop)
    (hgrown : start.components <+: stop.components)
    (hfixed : nameAll start.components hoisting.names hoisting.definitions = .ok hoisting.names) :
    nameAll stop.components hoisting.names hoisting.definitions = .ok hoisting.names := by
  apply nameAll_grown hgrown hfixed
  intro entry hentry retargeted hretarget
  obtain ⟨renamed, hrenamed, hget⟩ := get?_nameAll hdistinct hfixed hentry
  rw [hretarget, Except.ok.injEq] at hrenamed
  subst hrenamed
  rw [hoisting.get?_names (List.mem_map_of_mem hentry), Option.some.injEq] at hget
  obtain ⟨registered, hregistered, halike⟩ := hfound entry hentry retargeted hretarget
  rw [← hget, isFree, hregistered]
  exact halike

/-- A second call finds its way back to the names of the first. -/
theorem Hoisting.naming_again (hoisting : Hoisting model start.components)
    (hdistinct : (Table.keys hoisting.definitions).Nodup)
    (hregister : Yields (registerAll model.name hoisting.names hoisting.definitions) start () stop)
    (hfound : hoisting.Found stop) (hcycles : hoisting.CyclesKept) : hoisting.FindsNames stop := by
  have hgrown : start.components <+: stop.components :=
    grows_of_yields (grows_registerAll _ _ _) hregister
  have hretargets := hoisting.exists_retarget hregister
  have hfixed := hoisting.nameAll_names hdistinct hfound hgrown
    (hoisting.nameAll_fixed hdistinct hfound hcycles hgrown hoisting.names_eq)
  obtain ⟨again, hagain⟩ : ∃ again, naming stop.components hoisting.definitions = .ok again :=
    exists_settle stop.components hretargets _ _
  have hagainFixed := hoisting.nameAll_fixed hdistinct hfound hcycles List.prefix_rfl hagain
  have hrest := (hoisting.resting_kept hdistinct hfound List.prefix_rfl).settle hdistinct
    (keys_ownNames _) (exists_nameAll _ _ hretargets) hagain
  -- both namings rest, and both leave alone what refers to itself
  obtain rfl : again = hoisting.names := by
    apply fixed_unique hdistinct hagainFixed hfixed
    intro name hcycle
    have hkept := hcycles.mem_kept hcycle
    have hkey := (hoisting.mem_kept.1 hkept).1
    rw [hrest name hkept, get?_ownNames hkey, hoisting.get?_names hkey,
      hcycles name hcycle name Relation.ReflTransGen.refl]
  exact ⟨hagain, hfixed⟩

/-- A name on the way of a definition that refers to itself, and that differs from the name of the first
call, makes the next round give a different name as well. -/
theorem Hoisting.differs_step (hoisting : Hoisting model start.components)
    (hschema : hasDistinctKeys (.obj hoisting.definitions) = true) (hstop : HoldsDistinct stop)
    (hfound : hoisting.Found stop) {cyclic : String}
    (hcyclic : Relation.TransGen (RefersTo hoisting.definitions) cyclic cyclic)
    {names next : Naming} (hnames : Table.keys names = Table.keys hoisting.definitions)
    (hnext : nameAll stop.components names hoisting.definitions = .ok next) {name : String}
    (hreach : Relation.ReflTransGen (RefersTo hoisting.definitions) cyclic name)
    (hkey : name ∈ Table.keys hoisting.definitions)
    (hdiffers : Table.get? names name ≠ some (hoisting.given name)) :
    ∃ other ∈ Table.keys hoisting.definitions,
      Relation.ReflTransGen (RefersTo hoisting.definitions) cyclic other ∧
        Table.get? next other ≠ some (hoisting.given other) := by
  obtain ⟨hdistinct, hdefinitions⟩ := hasDistinctKeys_obj.1 hschema
  -- the definition that refers to the name is on the way too
  obtain ⟨other, hway, definition, hmem, href⟩ : ∃ other,
      Relation.ReflTransGen (RefersTo hoisting.definitions) cyclic other ∧
        RefersTo hoisting.definitions other name := by
    obtain ⟨other, hway, hlast⟩ := Relation.TransGen.tail'_iff.1 (hcyclic.trans_left hreach)
    exact ⟨other, hway, hlast⟩
  refine ⟨other, List.mem_map_of_mem hmem, hway, fun hsame => hdiffers ?_⟩
  obtain ⟨retargeted, hretarget, hget⟩ := get?_nameAll hdistinct hnext hmem
  rw [hsame, Option.some.injEq] at hget
  obtain ⟨renamed, hrenamed⟩ := exists_retarget_of_ok hoisting.renames hretarget
  obtain ⟨registered, hregistered, halike⟩ := hfound _ hmem renamed hrenamed
  -- found under the name of the first call, it would equal the same component under both renamings
  have hfree := isFree_vacantName stop.components retargeted other
  rw [← hget, isFree, hregistered] at hfree
  have hsameRef := renamed_eq_of_alike (hdefinitions _ hmem) (hstop _ (Table.mem_of_get? hregistered))
    hretarget hrenamed hfree halike _ href
  rw [renamed_refTo (hnames ▸ hdistinct), Hoisting.renames,
    renamed_refTo (keys_naming hoisting.names_eq ▸ hdistinct)] at hsameRef
  rw [get?_of_mem_keys (hnames ▸ hkey), refTo_injective hsameRef]
  rfl

/-- A schema whose second call comes to rest at the names of the first has no definition that refers to
itself and to a renamed one. -/
theorem Hoisting.cyclesKept_of_naming (hoisting : Hoisting model start.components)
    (hschema : hasDistinctKeys (.obj hoisting.definitions) = true) (hstop : HoldsDistinct stop)
    (hfound : hoisting.Found stop)
    (h : naming stop.components hoisting.definitions = .ok hoisting.names) : hoisting.CyclesKept := by
  intro cyclic hcyclic other hreach
  by_contra hrenamed
  -- a renamed definition has another name at the start, and the rounds never lose the last difference
  have hkeys := keys_naming hoisting.names_eq
  have hkey : other ∈ Table.keys hoisting.definitions := by
    by_contra hmissing
    rw [← hkeys, ← Table.get?_eq_none_iff] at hmissing
    exact hrenamed (by rw [Hoisting.given, Naming.given, hmissing, Option.getD_none])
  have hdiffers : Table.keys hoisting.names = Table.keys hoisting.definitions ∧
      ∃ name ∈ Table.keys hoisting.definitions,
        Relation.ReflTransGen (RefersTo hoisting.definitions) cyclic name ∧
          Table.get? hoisting.names name ≠ some (hoisting.given name) := by
    refine settle_preserves (P := fun names => Table.keys names = Table.keys hoisting.definitions ∧
      ∃ name ∈ Table.keys hoisting.definitions,
        Relation.ReflTransGen (RefersTo hoisting.definitions) cyclic name ∧
          Table.get? names name ≠ some (hoisting.given name)) ?_ _ (ownNames hoisting.definitions) _ ?_ h
    · rintro names next ⟨hnames, name, hname, hway, hdiffer⟩ hnext
      exact ⟨keys_nameAll hnext, hoisting.differs_step hschema hstop hfound hcyclic hnames hnext hway
        hname hdiffer⟩
    · refine ⟨keys_ownNames _, other, hkey, hreach, ?_⟩
      rw [get?_ownNames hkey]
      exact fun heq => hrenamed (Option.some.inj heq).symm
  obtain ⟨-, name, hname, -, hdiffer⟩ := hdiffers
  exact hdiffer (hoisting.get?_names hname)

/-- Names that are registered and at rest hold equal definitions. -/
theorem Hoisting.found_of_nameAll (hoisting : Hoisting model start.components)
    (hdistinct : (Table.keys hoisting.definitions).Nodup)
    (hregister : Yields (registerAll model.name hoisting.names hoisting.definitions) start () stop)
    (hfixed : nameAll stop.components hoisting.names hoisting.definitions = .ok hoisting.names) :
    hoisting.Found stop := by
  intro entry hentry retargeted hretarget
  obtain ⟨renamed, hrenamed, hget⟩ := get?_nameAll hdistinct hfixed hentry
  rw [show renamedTargets hoisting.names = hoisting.renames from rfl, hretarget, Except.ok.injEq]
    at hrenamed
  subst hrenamed
  have hkey : entry.1 ∈ Table.keys hoisting.definitions := List.mem_map_of_mem hentry
  rw [hoisting.get?_names hkey, Option.some.injEq] at hget
  obtain ⟨registered, hregistered⟩ :=
    Option.isSome_iff_exists.1 (has_of_registerAll hregister hkey)
  have hfree := isFree_vacantName stop.components retargeted entry.1
  rw [← hget, isFree, show stop.components.get? (hoisting.given entry.1) = some registered
    from hregistered] at hfree
  exact ⟨registered, hregistered, hfree⟩

end

/-- A second call that names the definitions alike gives the same value and registers nothing. -/
theorem Hoisting.rendersAgain {model : Model} {start stop : Assembly} {plain value : Json}
    (hoisting : Hoisting model start.components)
    (hregister : Yields (registerAll model.name hoisting.names hoisting.definitions) start () stop)
    (hplain : nullable (.obj hoisting.fields) = .ok plain)
    (hvalue : retarget hoisting.renames plain = .ok value)
    (hnaming : naming stop.components hoisting.definitions = .ok hoisting.names) :
    RendersAgain model stop value := by
  obtain ⟨again, hagain, hunchanged⟩ := exists_registerAll_taken
    (fun entry hentry => hoisting.exists_retarget hregister entry hentry (renamedTargets hoisting.names))
    (fun entry hentry => has_of_registerAll hregister (List.mem_map_of_mem hentry))
  let second : Hoisting model stop.components := ⟨hoisting.schema, hoisting.nested, hoisting.fields,
    hoisting.definitions, hoisting.names, hoisting.rendered_eq, hoisting.split_eq,
    hoisting.definitions_eq, hnaming⟩
  exact ⟨again, yields_component second hagain hplain hvalue, hunchanged⟩

/-- **When a schema can be rendered again.** In every state that rendering models reaches, a second call
gives the same value and registers nothing if the first call has left every definition under its name and
no definition that refers to itself is renamed or refers to one that is. The second call comes back to
the names of the first exactly under these conditions. -/
theorem component_repeats_iff {models : List Model} {model : Model} {stop : Assembly} {value : Json}
    (hmodels : ∀ earlier ∈ models, RendersDistinct earlier) (hmodel : RendersDistinct model)
    (hoisting : Hoisting model (assembled models {}).components)
    (h : Yields (component model) (assembled models {}) value stop) :
    (hoisting.Found stop ∧ hoisting.CyclesKept → RendersAgain model stop value) ∧
      (hoisting.FindsNames stop ↔ hoisting.Found stop ∧ hoisting.CyclesKept) := by
  obtain ⟨same, hregister, plain, hplain, hvalue⟩ := component_cases h
  obtain rfl : same = hoisting := Subsingleton.elim _ _
  have hschema : hasDistinctKeys (.obj same.definitions) = true :=
    hasDistinctKeys_definitions (hmodel _ same.rendered_eq) same.split_eq same.definitions_eq
  have hdistinct := (hasDistinctKeys_obj.1 hschema).1
  have hnames : same.Found stop ∧ same.CyclesKept → same.FindsNames stop := fun ⟨hfound, hcycles⟩ =>
    same.naming_again hdistinct hregister hfound hcycles
  refine ⟨fun hkept => same.rendersAgain hregister hplain hvalue (hnames hkept).1, ?_, hnames⟩
  rintro ⟨hnaming, hfixed⟩
  have hfound := same.found_of_nameAll hdistinct hregister hfixed
  have hstop : HoldsDistinct stop := by
    rw [← h.final_eq]
    exact keepsDistinct_component hmodel _ (hasDistinctKeys_assembled hmodels (by simp [HoldsDistinct]))
  exact ⟨hfound, same.cyclesKept_of_naming hschema hstop hfound hnaming⟩

/-! ## Schemas that are rendered twice -/

theorem rendersDistinct_given {identity : Identity} {name : String} {schema : Json}
    (h : hasDistinctKeys schema = true) : RendersDistinct (.given identity name schema) := by
  intro result hresult
  cases hresult
  exact h

/-- A node with a reference to the next one. -/
def linked : Json :=
  .obj [("properties", .obj [("next", .obj [("$ref", .str (refTo "Node"))])]), ("type", .str "object")]

/-- A model that stands for the `Node` among its definitions. -/
def noding (name : String) (nested : List (String × Json)) : Model :=
  .given default name (.obj [("$defs", .obj nested), ("$ref", .str (refTo "Node"))])

/-- Nodes beside a model `A`. -/
def nodesBeside (doc : String) : List (String × Json) := [("A", noted "A" doc), ("Node", linked)]

/-- Nodes that are there already are found, and another `A` is given the name `A2`. -/
def hoistedNodes : Hoisting (noding "Second" (nodesBeside "two"))
    (assembled [noding "First" (nodesBeside "one")] {}).components where
  schema := .obj [("$defs", .obj (nodesBeside "two")), ("$ref", .str (refTo "Node"))]
  nested := nodesBeside "two"
  fields := [("$ref", .str (refTo "Node"))]
  definitions := nodesBeside "two"
  names := [("A", "A2"), ("Node", "Node")]
  rendered_eq := rfl
  split_eq := rfl
  definitions_eq := rfl
  names_eq := rfl

theorem refersTo_nodesBeside {doc name other : String} (h : RefersTo (nodesBeside doc) name other) :
    name = "Node" ∧ other = "Node" := by
  obtain ⟨definition, hdefinition, href⟩ := h
  simp only [nodesBeside, List.mem_cons, Prod.mk.injEq, List.not_mem_nil, or_false] at hdefinition
  rcases hdefinition with ⟨-, rfl⟩ | ⟨rfl, rfl⟩
  · simp [noted, refs, entryRefs, ownRef] at href
  · simp only [linked, refs, entryRefs, ownRef, Json.str?] at href
    exact ⟨rfl, refTo_injective (by simpa using href)⟩

/-- The model is rendered again to the same value, and nothing is registered: the nodes refer to themselves,
but to nothing that is renamed. -/
theorem hoistedNodes_repeats : ∃ value stop,
    Yields (component (noding "Second" (nodesBeside "two")))
        (assembled [noding "First" (nodesBeside "one")] {}) value stop ∧
      RendersAgain (noding "Second" (nodesBeside "two")) stop value := by
  obtain ⟨value, stop, hyields⟩ : ∃ value stop,
      Yields (component (noding "Second" (nodesBeside "two")))
        (assembled [noding "First" (nodesBeside "one")] {}) value stop := ⟨_, _, rfl⟩
  refine ⟨value, stop, hyields, (component_repeats_iff ?_ (rendersDistinct_given (by decide))
    hoistedNodes hyields).1 ⟨?_, ?_⟩⟩
  · intro earlier hearlier
    rw [List.mem_singleton.1 hearlier]
    exact rendersDistinct_given (by decide)
  · intro entry hentry retargeted hretarget
    cases hyields
    simp only [hoistedNodes, nodesBeside, List.mem_cons, List.not_mem_nil, or_false] at hentry
    rcases hentry with rfl | rfl
    · cases hretarget
      exact ⟨noted "A" "two", rfl, by decide⟩
    · cases hretarget
      exact ⟨linked, rfl, by decide⟩
  · intro name hcycle other hreach
    obtain ⟨_, hfirst, -⟩ := Relation.TransGen.head'_iff.1 hcycle
    obtain ⟨rfl, -⟩ := refersTo_nodesBeside hfirst
    rcases Relation.ReflTransGen.cases_tail hreach with rfl | ⟨_, -, hlast⟩
    · rfl
    · rw [(refersTo_nodesBeside hlast).2]
      rfl

/-- Nodes that are renamed are registered once more when their schema is rendered again: among the
components they are looked for with a reference to their own name. -/
theorem renamed_nodes_registered_again :
    ∃ value stop other again,
      Yields (component (noding "Second" [("Node", linked)]))
          (assembled [noding "First" [("Node", .obj [("type", .str "string")])]] {}) value stop ∧
        Yields (component (noding "Second" [("Node", linked)])) stop other again ∧
        value = .obj [("$ref", .str (refTo "Node2"))] ∧
        other = .obj [("$ref", .str (refTo "Node3"))] ∧
        stop.components.keys = ["Node", "Node2"] ∧
        again.components.keys = ["Node", "Node2", "Node3"] :=
  ⟨_, _, _, _, rfl, rfl, rfl, rfl, rfl, rfl⟩

end RouteAtlas.OpenApi
