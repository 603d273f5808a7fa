import RouteAtlas.Proofs.Router.ImportStatements

/-!
# Runs of import statements

The import section of a definition is documented as the run of import statements directly above it. A run
goes up from statement to statement over gaps of blanks, comments and semicolons, and there is exactly one
longest run above an offset (`exists_isLongestRun`). The section is found by a walk over bindings, not over
statements, so a statement that binds no name stands in its way like any other code: what the walk takes is
bound by the statements of a run that all bind names (`mem_importsAbove_iff`). So the section has the
bindings of the longest run exactly if no statement of it that binds no name stands below one that does
(`importsAbove_covers_iff`), and a type-only import in the midst of the run cuts it short
(`typeImport_cuts_run`).
-/

set_option autoImplicit false

namespace RouteAtlas.Router

open Text Source

/-! ## Runs -/

/-- Nothing but blanks, comments and semicolons stands between two offsets. -/
structure IsGap (code : Text) (start stop : Nat) : Prop where
  le : start ≤ stop
  filling : IsFilling (stretch code start stop)

/-- A run of import statements directly above an offset, from the last statement up. -/
inductive IsRun (code : Text) : Nat → List Statement → Prop where
  | nil (stop : Nat) : IsRun code stop []
  | cons {stop : Nat} {statement : Statement} {above : List Statement} : IsImport code statement →
      IsGap code statement.stop stop → IsRun code statement.start above →
      IsRun code stop (statement :: above)

/-- The longest run above an offset. -/
structure IsLongestRun (code : Text) (stop : Nat) (run : List Statement) : Prop where
  isRun : IsRun code stop run
  longest : ∀ other, IsRun code stop other → other <+: run

section

variable {code : Text} {statement other : Statement} {stop : Nat}

theorem isImportGap_iff {start : Nat} :
    isImportGap code start stop = true ↔ IsFilling (stretch code start stop) :=
  isBlankText_residue_iff _

/-- **At most one import statement stands directly above an offset.** -/
theorem IsImport.eq_of_gap (h : IsImport code statement) (hother : IsImport code other)
    (hgap : IsGap code statement.stop stop) (hgap' : IsGap code other.stop stop) : statement = other := by
  rcases Nat.lt_trichotomy statement.start other.start with hlt | heq | hgt
  · exact absurd hgap.filling (hother.not_isFilling h.closes (h.stop_le_start hother hlt) hgap'.le)
  · exact h.eq_of_start hother heq
  · exact absurd hgap'.filling (h.not_isFilling hother.closes (hother.stop_le_start h hgt) hgap.le)

/-- **Above every offset there is a longest run.** -/
theorem exists_isLongestRun (code : Text) (stop : Nat) : ∃ run, IsLongestRun code stop run := by
  -- by the offset: only one statement can come first, and the runs above it begin further up
  induction stop using Nat.strong_induction_on with
  | _ stop ih =>
      by_cases hnext : ∃ statement, IsImport code statement ∧ IsGap code statement.stop stop
      · obtain ⟨statement, himport, hgap⟩ := hnext
        obtain ⟨above, habove⟩ := ih statement.start (himport.stands.start_lt_stop.trans_le hgap.le)
        refine ⟨statement :: above, .cons himport hgap habove.isRun, fun other hother => ?_⟩
        cases hother with
        | nil => exact List.nil_prefix
        | cons himport' hgap' hrest =>
            obtain rfl := himport'.eq_of_gap himport hgap' hgap
            exact List.cons_prefix_cons.2 ⟨rfl, habove.longest _ hrest⟩
      · refine ⟨[], .nil stop, fun other hother => ?_⟩
        cases hother with
        | nil => exact List.nil_prefix
        | cons himport hgap hrest => exact absurd ⟨_, himport, hgap⟩ hnext

/-- A run goes up. -/
theorem IsRun.sorted {run : List Statement} (h : IsRun code stop run) :
    (∀ statement ∈ run, statement.start < stop) ∧
      run.Pairwise fun below above => above.start < below.start := by
  induction h with
  | nil => exact ⟨by simp, .nil⟩
  | @cons stop statement above himport hgap _ ih =>
      have hlt : statement.start < stop := himport.stands.start_lt_stop.trans_le hgap.le
      exact ⟨List.forall_mem_cons.2 ⟨hlt, fun other hother => (ih.1 other hother).trans hlt⟩,
        List.pairwise_cons.2 ih⟩

theorem IsRun.of_prefix {run longer : List Statement} (h : IsRun code stop longer)
    (hshorter : run <+: longer) : IsRun code stop run := by
  induction h generalizing run with
  | nil stop =>
      rw [List.prefix_nil] at hshorter
      exact hshorter ▸ .nil stop
  | cons himport hgap _ ih =>
      cases run with
      | nil => exact .nil _
      | cons statement above =>
          obtain ⟨rfl, habove⟩ := List.cons_prefix_cons.1 hshorter
          exact .cons himport hgap (ih habove)

/-! ## Bindings -/

theorem IsBare.bindings_eq_nil (h : IsBare code statement) : statement.bindings = [] := by
  rw [Statement.bindings, h.clause]
  rfl

theorem mem_bindings_iff {binding : Binding} :
    binding ∈ bindings code ↔ ∃ statement ∈ statements code, binding ∈ statement.bindings :=
  List.mem_flatMap

theorem start_of_mem_bindings {binding : Binding} (h : binding ∈ statement.bindings) :
    binding.start = statement.start := by
  obtain ⟨names, -, rfl⟩ := List.mem_map.1 h
  rfl

theorem stop_of_mem_bindings {binding : Binding} (h : binding ∈ statement.bindings) :
    binding.stop = statement.stop := by
  obtain ⟨names, -, rfl⟩ := List.mem_map.1 h
  rfl

/-- A name is bound by the last statement of a run all of whose statements bind names. -/
def IsBoundAbove (code : Text) (stop : Nat) (binding : Binding) : Prop :=
  ∃ run, IsRun code stop run ∧ (∀ statement ∈ run, statement.bindings ≠ []) ∧
    ∃ last ∈ run.getLast?, binding ∈ last.bindings

theorem isBoundAbove_iff {binding : Binding} :
    IsBoundAbove code stop binding ↔ ∃ statement, IsImport code statement ∧
      IsGap code statement.stop stop ∧ statement.bindings ≠ [] ∧
      (binding ∈ statement.bindings ∨ IsBoundAbove code statement.start binding) := by
  constructor
  · rintro ⟨run, hrun, hbind, last, hlast, hbinding⟩
    cases hrun with
    | nil => cases hlast
    | @cons _ statement above himport hgap habove =>
        obtain ⟨hfirst, hothers⟩ := List.forall_mem_cons.1 hbind
        refine ⟨statement, himport, hgap, hfirst, ?_⟩
        cases habove with
        | nil =>
            cases hlast
            exact .inl hbinding
        | @cons _ next further himport' hgap' hfurther =>
            exact .inr ⟨next :: further, .cons himport' hgap' hfurther, hothers, last, hlast, hbinding⟩
  · rintro ⟨statement, himport, hgap, hbind, hbinding | ⟨above, habove, hothers, last, hlast, hbinding⟩⟩
    · exact ⟨[statement], .cons himport hgap (.nil _), by simpa using hbind, statement, rfl, hbinding⟩
    · refine ⟨statement :: above, .cons himport hgap habove, List.forall_mem_cons.2 ⟨hbind, hothers⟩, last,
        ?_, hbinding⟩
      rw [List.getLast?_cons, hlast]
      rfl

theorem isBoundAbove_of_gap {binding : Binding} (h : IsImport code statement)
    (hgap : IsGap code statement.stop stop) (hbinds : statement.bindings ≠ []) :
    IsBoundAbove code stop binding ↔
      binding ∈ statement.bindings ∨ IsBoundAbove code statement.start binding := by
  rw [isBoundAbove_iff]
  constructor
  · rintro ⟨other, hother, hgap', -, hbinding⟩
    rwa [hother.eq_of_gap h hgap' hgap] at hbinding
  · exact fun hbinding => ⟨statement, h, hgap, hbinds, hbinding⟩

/-! ## The walk -/

/-- What is left to a walk that has come up to an offset: the bindings of all statements above it, from the
last one up, behind perhaps more of the statement that begins there. -/
structure IsLeft (code : Text) (cursor : Nat) (left : List Binding) : Prop where
  source : ∀ binding ∈ left, ∃ statement, IsImport code statement ∧ binding ∈ statement.bindings
  sorted : left.Pairwise fun first second => second.start ≤ first.start
  whole : ∀ statement, IsImport code statement → statement.stop ≤ cursor →
    ∀ binding ∈ statement.bindings, binding ∈ left
  place : ∀ binding ∈ left, binding.stop ≤ cursor ∨ binding.start = cursor

section

variable {cursor : Nat} {first binding : Binding} {rest : List Binding}

theorem IsLeft.start_le (h : IsLeft code cursor (first :: rest)) (hmem : binding ∈ first :: rest) :
    binding.start ≤ first.start := by
  rcases List.mem_cons.1 hmem with rfl | hmem
  · exact le_rfl
  · exact (List.pairwise_cons.1 h.sorted).1 binding hmem

/-- All that is left of a statement is left in one place. -/
theorem IsLeft.mem_iff (h : IsLeft code cursor (first :: rest)) (himport : IsImport code statement)
    (hbinds : first ∈ statement.bindings) (hstop : first.stop ≤ cursor) :
    binding ∈ statement.bindings ↔ binding = first ∨ (binding ∈ rest ∧ binding.start = first.start) := by
  have hstart := start_of_mem_bindings hbinds
  rw [stop_of_mem_bindings hbinds] at hstop
  constructor
  · intro hbinding
    exact (List.mem_cons.1 (h.whole statement himport hstop binding hbinding)).imp_right fun hmem =>
      ⟨hmem, (start_of_mem_bindings hbinding).trans hstart.symm⟩
  · rintro (rfl | ⟨hmem, hat⟩)
    · exact hbinds
    · obtain ⟨other, hother, hbinding⟩ := h.source binding (List.mem_cons_of_mem _ hmem)
      have hsame := (start_of_mem_bindings hbinding).symm.trans (hat.trans hstart)
      rwa [hother.eq_of_start himport hsame] at hbinding

/-- Behind a binding the walk is left with the rest, at an offset above the end of the binding. -/
theorem IsLeft.next (h : IsLeft code cursor (first :: rest)) {above : Nat} (habove : above ≤ cursor)
    (hbefore : above < first.stop)
    (hplace : ∀ binding ∈ rest, binding.stop ≤ above ∨ binding.start = above) :
    IsLeft code above rest where
  source := fun binding hmem => h.source binding (List.mem_cons_of_mem _ hmem)
  sorted := (List.pairwise_cons.1 h.sorted).2
  whole := by
    intro other hother hle binding hbinding
    refine (List.mem_cons.1 (h.whole other hother (hle.trans habove) binding hbinding)).resolve_left ?_
    rintro rfl
    rw [stop_of_mem_bindings hbinding] at hbefore
    omega
  place := hplace

/-- Behind the last statement above an offset the walk goes on where the statement begins. -/
theorem IsLeft.above (h : IsLeft code cursor (first :: rest)) (himport : IsImport code statement)
    (hbinds : first ∈ statement.bindings) (hstop : first.stop ≤ cursor) :
    IsLeft code statement.start rest := by
  have hlt := himport.stands.start_lt_stop
  have hfirst := start_of_mem_bindings hbinds
  rw [stop_of_mem_bindings hbinds] at hstop
  refine h.next (hlt.le.trans hstop) (stop_of_mem_bindings hbinds ▸ hlt) fun binding hmem => ?_
  obtain ⟨other, hother, hbinding⟩ := h.source binding (List.mem_cons_of_mem _ hmem)
  have hle := h.start_le (List.mem_cons_of_mem _ hmem)
  rw [start_of_mem_bindings hbinding, hfirst] at hle
  rw [start_of_mem_bindings hbinding, stop_of_mem_bindings hbinding]
  rcases Nat.lt_or_eq_of_le hle with hlt | heq
  · exact .inl (hother.stop_le_start himport hlt)
  · exact .inr heq

/-- Where no gap is behind the last statement that binds a name, nothing is bound above. -/
theorem IsLeft.not_isBoundAbove (h : IsLeft code cursor (first :: rest)) (himport : IsImport code statement)
    (hbinds : first ∈ statement.bindings) (hstop : first.stop ≤ cursor)
    (hgap : ¬ IsGap code statement.stop cursor) : ¬ IsBoundAbove code cursor binding := by
  rw [isBoundAbove_iff]
  rintro ⟨other, hother, hgap', hother', -⟩
  obtain ⟨found, hfound⟩ := List.exists_mem_of_ne_nil _ hother'
  have hle := h.start_le (h.whole other hother hgap'.le found hfound)
  rw [start_of_mem_bindings hfound, start_of_mem_bindings hbinds] at hle
  rcases Nat.lt_or_eq_of_le hle with hlt | heq
  · rw [stop_of_mem_bindings hbinds] at hstop
    exact himport.not_isFilling hother.closes (hother.stop_le_start himport hlt) hstop hgap'.filling
  · rw [hother.eq_of_start himport heq] at hgap'
    exact hgap hgap'

end

/-- **The walk takes what is bound by a run of statements that all bind names.** -/
theorem mem_sectionFrom {cursor : Nat} {taken left : List Binding} (h : IsLeft code cursor left)
    {binding : Binding} :
    binding ∈ sectionFrom code cursor taken left ↔
      binding ∈ taken ∨ (binding ∈ left ∧ binding.start = cursor) ∨ IsBoundAbove code cursor binding := by
  -- by the bindings that are left; `IsLeft` is what the walk keeps
  induction left generalizing cursor taken with
  | nil =>
      have hnone : ¬ IsBoundAbove code cursor binding := by
        rw [isBoundAbove_iff]
        rintro ⟨statement, himport, hgap, hbinds, -⟩
        obtain ⟨first, hfirst⟩ := List.exists_mem_of_ne_nil _ hbinds
        exact absurd (h.whole statement himport hgap.le first hfirst) List.not_mem_nil
      simp [sectionFrom, hnone]
  | cons first rest ih =>
      obtain ⟨statement, himport, hbinds⟩ := h.source first List.mem_cons_self
      rw [sectionFrom]
      split
      · -- another binding of the statement that was taken last
        rename_i hbeyond
        have hat : first.start = cursor :=
          (h.place first List.mem_cons_self).resolve_left (Nat.not_le.2 hbeyond)
        rw [ih (h.next le_rfl hbeyond fun other hother => h.place other (List.mem_cons_of_mem _ hother))]
        have hfirst : binding = first → binding.start = cursor := fun heq => heq ▸ hat
        simp only [List.mem_cons]
        tauto
      · -- the first binding of the next statement that binds a name
        rename_i hbeyond
        have hstop : first.stop ≤ cursor := Nat.not_lt.1 hbeyond
        have hnotAt : ¬ (binding ∈ first :: rest ∧ binding.start = cursor) := by
          rintro ⟨hmem, hat⟩
          have hle := h.start_le hmem
          have hlt := himport.stands.start_lt_stop
          rw [start_of_mem_bindings hbinds] at hle
          rw [stop_of_mem_bindings hbinds] at hstop
          omega
        rw [or_iff_right hnotAt]
        split
        · rename_i hgap
          have hgap' : IsGap code statement.stop cursor := by
            rw [← stop_of_mem_bindings hbinds]
            exact ⟨hstop, isImportGap_iff.1 hgap⟩
          rw [start_of_mem_bindings hbinds, ih (h.above himport hbinds hstop),
            isBoundAbove_of_gap himport hgap' (List.ne_nil_of_mem hbinds), h.mem_iff himport hbinds hstop,
            start_of_mem_bindings hbinds, List.mem_cons]
          tauto
        · rename_i hgap
          have hno : ¬ IsGap code statement.stop cursor := by
            rw [← stop_of_mem_bindings hbinds]
            exact fun hgap' => hgap (isImportGap_iff.2 hgap'.filling)
          exact (or_iff_left (h.not_isBoundAbove himport hbinds hstop hno)).symm

/-! ## Import sections -/

/-- The statements above an offset that bind names begin and end outside comments and literals. -/
def StandInCode (code : Text) (start : Nat) : Prop :=
  ∀ statement ∈ statements code, statement.stop ≤ start → statement.bindings ≠ [] →
    statement.start ∈ seams code ∧ statement.stop ∈ seams code

instance (code : Text) (start : Nat) : Decidable (StandInCode code start) :=
  inferInstanceAs (Decidable (∀ statement ∈ statements code, _))

/-- The bindings above an offset, from the last statement up. -/
theorem isLeft_start {start : Nat} (hcode : StandInCode code start) :
    IsLeft code start (((bindings code).filter fun binding => binding.stop ≤ start).mergeSort
      fun a b => a.start ≥ b.start) := by
  have hmem : ∀ {found : Binding}, found ∈ ((bindings code).filter fun binding =>
      binding.stop ≤ start).mergeSort (fun a b => a.start ≥ b.start) ↔
        found ∈ bindings code ∧ found.stop ≤ start := by
    intro found
    rw [List.mem_mergeSort, List.mem_filter, decide_eq_true_iff]
  refine ⟨fun found hfound => ?_, ?_, fun statement himport hle found hfound => ?_, fun found hfound =>
    .inl (hmem.1 hfound).2⟩
  · obtain ⟨hfound, hle⟩ := hmem.1 hfound
    obtain ⟨statement, hstatement, hbinding⟩ := mem_bindings_iff.1 hfound
    rw [stop_of_mem_bindings hbinding] at hle
    obtain ⟨hopens, hcloses⟩ := hcode statement hstatement hle (List.ne_nil_of_mem hbinding)
    exact ⟨statement, ⟨.inl hstatement, hopens, hcloses⟩, hbinding⟩
  · refine (List.pairwise_mergeSort (fun a b c hab hbc => ?_) (fun a b => ?_) _).imp fun hle => ?_
    · simp only [ge_iff_le, decide_eq_true_eq] at hab hbc ⊢
      exact hbc.trans hab
    · simpa using Nat.le_total b.start a.start
    · simpa using hle
  · rcases himport.found with hstatement | hbare
    · rw [hmem, stop_of_mem_bindings hfound]
      exact ⟨mem_bindings_iff.2 ⟨statement, hstatement, hfound⟩, hle⟩
    · rw [hbare.bindings_eq_nil] at hfound
      cases hfound

/-- **The import section is what is bound by a run of statements that all bind names.** -/
theorem mem_importsAbove_iff {start : Nat} (hcode : StandInCode code start) {binding : Binding} :
    binding ∈ importsAbove code start (bindings code) ↔ IsBoundAbove code start binding := by
  have hleft := isLeft_start hcode
  have hnotAt : ∀ found : Binding, ¬ (found ∈ ((bindings code).filter fun binding =>
      binding.stop ≤ start).mergeSort (fun a b => a.start ≥ b.start) ∧ found.start = start) := by
    rintro found ⟨hfound, hat⟩
    obtain ⟨statement, himport, hbinding⟩ := hleft.source found hfound
    have hlt := himport.stands.start_lt_stop
    rw [← start_of_mem_bindings hbinding, ← stop_of_mem_bindings hbinding] at hlt
    rw [List.mem_mergeSort, List.mem_filter, decide_eq_true_iff] at hfound
    omega
  rw [importsAbove, mem_sectionFrom hleft, or_iff_right List.not_mem_nil, or_iff_right (hnotAt binding)]

/-- **The import section covers the longest run of import statements exactly if no statement of the run
that binds no name stands below one that does.** Where the statements with bindings stand in code, there is
a longest run above every offset, the section has no binding of any other statement, and it has all
bindings of the run exactly under that condition. -/
theorem importsAbove_covers_iff {start : Nat} (hcode : StandInCode code start) :
    ∃ run, IsLongestRun code start run ∧
      (∀ binding ∈ importsAbove code start (bindings code), ∃ statement ∈ run,
        binding ∈ statement.bindings) ∧
      ((∀ statement ∈ run, ∀ binding ∈ statement.bindings,
          binding ∈ importsAbove code start (bindings code)) ↔
        ∀ above ∈ run, ∀ below ∈ run, above.start < below.start → above.bindings ≠ [] →
          below.bindings ≠ []) := by
  obtain ⟨run, hrun⟩ := exists_isLongestRun code start
  obtain ⟨-, hsorted⟩ := hrun.isRun.sorted
  refine ⟨run, hrun, ?_⟩
  simp only [mem_importsAbove_iff hcode]
  refine ⟨?_, ?_, ?_⟩
  · rintro binding ⟨taken, htaken, -, last, hlast, hbinding⟩
    exact ⟨last, (hrun.longest taken htaken).subset (List.mem_of_getLast? hlast), hbinding⟩
  · -- what is bound above is taken only by way of everything below
    intro hcovers above habove below hbelow hlt hbinds
    obtain ⟨binding, hbinding⟩ := List.exists_mem_of_ne_nil _ hbinds
    obtain ⟨taken, htaken, hall, last, hlast, hbinding'⟩ := hcovers above habove binding hbinding
    have hstart := (start_of_mem_bindings hbinding').symm.trans (start_of_mem_bindings hbinding)
    obtain ⟨further, rfl⟩ := hrun.longest taken htaken
    rcases List.mem_append.1 hbelow with htaken | hfurther
    · exact hall below htaken
    · -- what was not taken stands above what was taken last
      have hhigher := (List.pairwise_append.1 hsorted).2.2 last (List.mem_of_getLast? hlast) below hfurther
      omega
  · intro hbinds statement hstatement binding hbinding
    obtain ⟨below, above, rfl⟩ := List.append_of_mem hstatement
    refine ⟨below ++ [statement], hrun.isRun.of_prefix ⟨above, by simp⟩, fun other hother => ?_, statement,
      List.getLast?_concat, hbinding⟩
    have hthis := List.ne_nil_of_mem hbinding
    rcases List.mem_append.1 hother with hbelow | hlast
    · have hlt := (List.pairwise_append.1 hsorted).2.2 other hbelow statement List.mem_cons_self
      exact hbinds statement hstatement other (List.mem_append_left _ hbelow) hlt hthis
    · rwa [List.mem_singleton.1 hlast]

end

/-! ## A type-only import in a run -/

instance (text : Text) : Decidable (IsFilling text) :=
  inferInstanceAs (Decidable (∀ lexeme ∈ lex text, lexeme.isFiller = true))

/-- Three import statements above a definition; the second one binds no name. -/
def typeImport : Text :=
  "import { a } from './a.ts';\n".toList ++ "import type { T } from './t.ts';\n".toList ++
    "import { b } from './b.ts';\n".toList ++ "const r = new Router();\n".toList

theorem statements_typeImport : statements typeImport =
    [{ clause := "{ a }".toList, module := "./a.ts".toList, start := 0, stop := 27 },
     { clause := "type { T }".toList, module := "./t.ts".toList, start := 28, stop := 60 },
     { clause := "{ b }".toList, module := "./b.ts".toList, start := 61, stop := 88 }] := by
  decide +kernel

theorem seams_typeImport : ∀ offset ∈ [0, 27, 28, 60, 61, 88], offset ∈ seams typeImport := by
  decide +kernel

theorem isImport_typeImport : ∀ statement ∈ statements typeImport, IsImport typeImport statement := by
  have hplaces : ∀ statement ∈ statements typeImport, statement.start ∈ [0, 27, 28, 60, 61, 88] ∧
      statement.stop ∈ [0, 27, 28, 60, 61, 88] := by
    rw [statements_typeImport]
    decide
  exact fun statement h => ⟨.inl h, seams_typeImport _ (hplaces statement h).1,
    seams_typeImport _ (hplaces statement h).2⟩

theorem standInCode_typeImport : StandInCode typeImport 89 := fun statement h _ _ =>
  ⟨(isImport_typeImport statement h).opens, (isImport_typeImport statement h).closes⟩

theorem typeImport_covers_iff : StandInCode typeImport 89 ∧ ∃ run, IsLongestRun typeImport 89 run ∧
    (∀ binding ∈ importsAbove typeImport 89 (bindings typeImport), ∃ statement ∈ run,
      binding ∈ statement.bindings) ∧
    ((∀ statement ∈ run, ∀ binding ∈ statement.bindings,
        binding ∈ importsAbove typeImport 89 (bindings typeImport)) ↔
      ∀ above ∈ run, ∀ below ∈ run, above.start < below.start → above.bindings ≠ [] →
        below.bindings ≠ []) :=
  ⟨standInCode_typeImport, importsAbove_covers_iff standInCode_typeImport⟩

/-- **A type-only import cuts the run short**: the first statement belongs to the longest run above the
definition, and what it binds is not in the import section. -/
theorem typeImport_cuts_run : ∃ run, IsLongestRun typeImport 89 run ∧ ∃ statement ∈ run,
    ∃ binding ∈ statement.bindings, binding ∉ importsAbove typeImport 89 (bindings typeImport) := by
  obtain ⟨run, hrun⟩ := exists_isLongestRun typeImport 89
  have himport := isImport_typeImport
  simp only [statements_typeImport, List.forall_mem_cons] at himport
  obtain ⟨hfirst, htype, hlast, -⟩ := himport
  have hbelow : IsGap typeImport 88 89 := ⟨by decide, by decide +kernel⟩
  have hmiddle : IsGap typeImport 60 61 := ⟨by decide, by decide +kernel⟩
  have habove : IsGap typeImport 27 28 := ⟨by decide, by decide +kernel⟩
  have hwhole := hrun.longest _ (.cons hlast hbelow (.cons htype hmiddle (.cons hfirst habove (.nil _))))
  refine ⟨run, hrun, _, hwhole.subset (List.mem_cons_of_mem _ (List.mem_cons_of_mem _ List.mem_cons_self)),
    { localName := ['a'], imported := ['a'], module := "./a.ts".toList, start := 0, stop := 27 },
    by decide, ?_⟩
  rw [mem_importsAbove_iff standInCode_typeImport, isBoundAbove_of_gap hlast hbelow (by decide),
    isBoundAbove_iff]
  rintro (hbinding | ⟨statement, hstatement, hgap, hbinds, -⟩)
  · exact absurd hbinding (by decide)
  · -- the statement above the last one is the one that binds no name
    obtain rfl := hstatement.eq_of_gap htype hgap hmiddle
    exact hbinds (by decide)

end RouteAtlas.Router
