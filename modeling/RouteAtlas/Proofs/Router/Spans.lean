import RouteAtlas.Proofs.Router.Locating
import RouteAtlas.Proofs.Router.Markers
import RouteAtlas.Proofs.Source.Gaps
import Mathlib.Data.List.Pairwise

/-!
# The spans of a file

The markers of a text are the ones found one behind the other, each at the first offset at which one can be
read (`successive_iff`). So what is looked for behind a marker, from its end on, is the next one of them, and
the spans of all markers are the text from the first one on, cut where each of the others starts
(`spans_partition`). Different routers that are located in one file have no character in common.
-/

set_option autoImplicit false

namespace RouteAtlas.Router

open Text Source Step

/-! ## Markers one behind the other -/

/-- The markers that are met from an offset on: each stands at the first offset at which a marker can be read,
and the next one is looked for behind it. -/
inductive Successive (code : Text) : Nat → List Marker → Prop where
  | last {start : Nat} : (∀ offset, start ≤ offset → marker? (code.drop offset) = none) →
      Successive code start []
  | next {start : Nat} {marker : Marker} {behind : Text} {rest : List Marker} : start ≤ marker.start →
      (∀ offset, start ≤ offset → offset < marker.start → marker? (code.drop offset) = none) →
      marker? (code.drop marker.start) = some (marker.name, behind) →
      marker.stop + behind.length = code.length → Successive code marker.stop rest →
      Successive code start (marker :: rest)

section

variable {code : Text} {start : Nat} {marker : Marker} {rest : List Marker}

/-- A marker is not empty. -/
theorem start_lt_stop {behind : Text} (hread : marker? (code.drop marker.start) = some (marker.name, behind))
    (hlength : marker.stop + behind.length = code.length) : marker.start < marker.stop := by
  obtain ⟨taken, hne, htext, -⟩ := marker?_append hread
  have htaken := congrArg List.length htext
  have hpositive := List.length_pos_iff.2 hne
  rw [List.length_drop, List.length_append] at htaken
  omega

/-- Where no marker can be read, the search goes on behind. -/
theorem Successive.from_before {found : List Marker} (h : Successive code (start + 1) found)
    (hnone : marker? (code.drop start) = none) : Successive code start found := by
  have hfirst : ∀ offset, start ≤ offset → (start + 1 ≤ offset → marker? (code.drop offset) = none) →
      marker? (code.drop offset) = none := by
    intro offset hle hlater
    rcases Nat.eq_or_lt_of_le hle with rfl | hlt
    · exact hnone
    · exact hlater hlt
  cases h with
  | last h => exact .last fun offset hle => hfirst offset hle (h offset)
  | next hle hbefore hread hlength hrest =>
      refine .next (Nat.le_of_succ_le hle) (fun offset hstart hlt => ?_) hread hlength hrest
      exact hfirst offset hstart fun hlater => hbefore offset hlater hlt

/-- The markers that are collected are met one behind the other. -/
theorem successive_markersFrom (skip offset : Nat) (text : Text) (htext : code.drop offset = text) :
    Successive code (offset + skip) (markersFrom skip offset text) := by
  induction text generalizing skip offset with
  | nil =>
      rw [markersFrom]
      refine .last fun later hle => ?_
      have hempty : code.drop later = [] := by
        rw [List.drop_eq_nil_iff] at htext ⊢
        omega
      rw [hempty]
      rfl
  | cons c rest ih =>
      have hnext : code.drop (offset + 1) = rest := by
        rw [← List.drop_drop, htext, List.drop_one, List.tail_cons]
      cases skip with
      | succ skip =>
          rw [markersFrom, show offset + (skip + 1) = offset + 1 + skip by omega]
          exact ih skip (offset + 1) hnext
      | zero =>
          rw [markersFrom]
          split
          · rename_i name behind hread
            -- the marker takes at least the first character, and the search goes on behind what it takes
            rw [← htext] at hread
            have hlength := congrArg List.length htext
            rw [List.length_drop, List.length_cons] at hlength
            obtain ⟨taken, hne, htaken, -⟩ := marker?_append hread
            have hpositive := List.length_pos_iff.2 hne
            replace htaken := congrArg List.length htaken
            rw [List.length_drop, List.length_append] at htaken
            refine .next (Nat.le_refl _) (fun later hle hlt => absurd hle (Nat.not_le_of_lt hlt)) hread ?_ ?_
            · simp only
              omega
            · have hbehind := ih (rest.length + 1 - behind.length - 1) (offset + 1) hnext
              rwa [show offset + 1 + (rest.length + 1 - behind.length - 1) =
                offset + (rest.length + 1 - behind.length) by omega] at hbehind
          · rename_i hread
            rw [← htext] at hread
            exact (ih 0 (offset + 1) hnext).from_before hread

/-- Markers that are met one behind the other are met in one way only. -/
theorem Successive.unique {found others : List Marker} (h : Successive code start found)
    (hothers : Successive code start others) : found = others := by
  induction h generalizing others with
  | last hnone =>
      cases hothers with
      | last => rfl
      | next hle _ hread =>
          rw [hnone _ hle] at hread
          cases hread
  | @next start marker behind rest hle hbefore hread hlength _ ih =>
      cases hothers with
      | last hnone =>
          rw [hnone _ hle] at hread
          cases hread
      | @next _ other behind' rest' hle' hbefore' hread' hlength' hrest' =>
          -- neither of the two can be read before the other one
          have hstart : marker.start = other.start := by
            rcases Nat.lt_trichotomy marker.start other.start with hlt | heq | hlt
            · rw [hbefore' _ hle hlt] at hread
              cases hread
            · exact heq
            · rw [hbefore _ hle' hlt] at hread'
              cases hread'
          rw [hstart, hread'] at hread
          obtain ⟨hname, rfl⟩ := Prod.mk.inj (Option.some.inj hread)
          have hstop : marker.stop = other.stop := by omega
          have hmarker : marker = other := by
            cases marker
            cases other
            simp_all
          rw [hstop] at ih
          rw [hmarker, ih hrest']

/-- **The markers behind an offset are those that are collected from it on.** -/
theorem successive_iff {found : List Marker} :
    Successive code start found ↔ found = markersFrom 0 start (code.drop start) := by
  have hcollected : Successive code start (markersFrom 0 start (code.drop start)) :=
    successive_markersFrom 0 start _ rfl
  constructor
  · intro h
    exact h.unique hcollected
  · rintro rfl
    exact hcollected

/-! ## Spans -/

/-- Where the span of a marker ends: where the next marker starts, or at the end of the text. -/
def spanStop (code : Text) (rest : List Marker) : Nat := (rest.head?.map Marker.start).getD code.length

/-- The span of a marker covers an offset. -/
def Covers (code : Text) (marker : Marker) (offset : Nat) : Prop :=
  marker.start ≤ offset ∧ offset < marker.start + (spanOf code marker).length

/-- **The search that starts behind a marker comes to the next one.** -/
theorem Successive.spanOf_eq (h : Successive code start (marker :: rest)) :
    spanOf code marker = stretch code marker.start (spanStop code rest) := by
  cases h with
  | next _ _ _ _ hrest =>
      rw [spanOf, ← successive_iff.1 hrest, stretch]
      cases rest with
      | nil =>
          rw [spanStop, List.head?_nil, Option.map_none, Option.getD_none, List.take_length]
      | cons following others => rfl

/-- A span ends behind its marker and within the text. -/
theorem Successive.spanStop_bounds (h : Successive code start (marker :: rest)) :
    start ≤ marker.start ∧ marker.start < spanStop code rest ∧ spanStop code rest ≤ code.length := by
  cases h with
  | next hle _ hread hlength hrest =>
      have hlt := start_lt_stop hread hlength
      cases hrest with
      | last =>
          rw [spanStop, List.head?_nil, Option.map_none, Option.getD_none]
          omega
      | next hnext _ hread' hlength' =>
          have hlt' := start_lt_stop hread' hlength'
          rw [spanStop, List.head?_cons, Option.map_some, Option.getD_some]
          omega

theorem Successive.covers_iff (h : Successive code start (marker :: rest)) (offset : Nat) :
    Covers code marker offset ↔ marker.start ≤ offset ∧ offset < spanStop code rest := by
  obtain ⟨-, hlt, hle⟩ := h.spanStop_bounds
  rw [Covers, h.spanOf_eq, stretch, List.length_drop, List.length_take]
  omega

/-- **The spans of all markers are the text from the first one on.** -/
theorem Successive.flatten_spans (h : Successive code start (marker :: rest)) :
    ((marker :: rest).map (spanOf code)).flatten = code.drop marker.start := by
  induction rest generalizing start marker with
  | nil =>
      rw [List.map_singleton, List.flatten_singleton, h.spanOf_eq, stretch, spanStop, List.head?_nil,
        Option.map_none, Option.getD_none, List.take_length]
  | cons following rest ih =>
      obtain ⟨-, hlt, hle⟩ := h.spanStop_bounds
      rw [List.map_cons, List.flatten_cons, h.spanOf_eq]
      cases h with
      | next _ _ _ _ hrest =>
          rw [ih hrest]
          -- the span of the marker ends where those of the others start
          show (code.take following.start).drop marker.start ++ code.drop following.start = _
          have hwithin : marker.start ≤ (code.take following.start).length := by
            rw [List.length_take]
            exact Nat.le_min.2 ⟨Nat.le_of_lt hlt, Nat.le_of_lt (Nat.lt_of_lt_of_le hlt hle)⟩
          rw [← List.drop_append_of_le_length hwithin, List.take_append_drop]

/-- Markers that are met from an offset on start at it or behind it. -/
theorem Successive.le_start {found : List Marker} (h : Successive code start found) :
    ∀ marker ∈ found, start ≤ marker.start := by
  induction h with
  | last => simp
  | @next start marker _ _ hle _ hread hlength _ ih =>
      intro other hother
      rcases List.mem_cons.1 hother with rfl | hother
      · exact hle
      · have hstop := start_lt_stop hread hlength
        exact (Nat.le_of_lt (Nat.lt_of_le_of_lt hle hstop)).trans (ih other hother)

/-- The span of a marker ends before those of the markers behind it start. -/
theorem Successive.spanStop_le (h : Successive code start (marker :: rest)) :
    ∀ other ∈ rest, spanStop code rest ≤ other.start := by
  intro other hother
  cases h with
  | next _ _ _ _ hrest =>
      cases hrest with
      | last => cases hother
      | @next _ following _ others _ _ hread hlength hothers =>
          rcases List.mem_cons.1 hother with rfl | hother
          · exact Nat.le_refl _
          · have hstop := start_lt_stop hread hlength
            exact (Nat.le_of_lt hstop).trans (hothers.le_start other hother)

/-- No character is covered by the spans of two markers. -/
theorem Successive.pairwise_disjoint {found : List Marker} (h : Successive code start found) :
    found.Pairwise fun first second => ∀ offset, ¬ (Covers code first offset ∧ Covers code second offset) := by
  induction found generalizing start with
  | nil => exact .nil
  | cons marker rest ih =>
      refine List.pairwise_cons.2 ⟨fun other hother offset hcovers => ?_, ?_⟩
      · have hbefore := ((h.covers_iff offset).1 hcovers.1).2
        have hbehind := h.spanStop_le other hother
        exact absurd hcovers.2.1 (Nat.not_le_of_lt (Nat.lt_of_lt_of_le hbefore hbehind))
      · cases h with
        | next _ _ _ _ hrest => exact ih hrest

/-- The markers behind some of them are met one behind the other as well. -/
theorem Successive.drop {found : List Marker} (h : Successive code start found) (index : Nat) :
    ∃ start, Successive code start (found.drop index) := by
  induction index generalizing start found with
  | zero => exact ⟨start, h⟩
  | succ index ih =>
      cases h with
      | last hnone => exact ⟨start, .last hnone⟩
      | next _ _ _ _ hrest => exact ih hrest

end

theorem successive_markers (code : Text) : Successive code 0 (markers code) :=
  successive_iff.2 rfl

/-- Spans of different markers of a text have no character in common. -/
theorem not_covers_both {code : Text} {first second : Marker} (hfirst : first ∈ markers code)
    (hsecond : second ∈ markers code) (hne : first ≠ second) (offset : Nat) :
    ¬ (Covers code first offset ∧ Covers code second offset) := by
  have hsymmetric : Std.Symm fun first second : Marker =>
      ∀ offset, ¬ (Covers code first offset ∧ Covers code second offset) :=
    ⟨fun _ _ h offset hcovers => h offset hcovers.symm⟩
  exact (successive_markers code).pairwise_disjoint.forall hfirst hsecond hne offset

/-! ## Located spans -/

theorem definition?_of_importedDefinition? {code name : Text} {binding : Binding} {marker : Marker}
    (h : importedDefinition? code name binding = some marker) :
    definition? code marker.name = some marker := by
  have hnamed : ∀ {sought : Text}, definition? code sought = some marker →
      definition? code marker.name = some marker := by
    intro sought hsought
    rwa [name_of_definition? hsought]
  simp only [importedDefinition?] at h
  split at h
  · rename_i found hfound
    cases h
    exact hnamed hfound
  · split at h
    · obtain ⟨exported, -, hexported⟩ := Option.bind_eq_some_iff.1 h
      exact hnamed hexported
    · cases h

/-- **A located router is the first definition of its name in a text that can be read.** -/
theorem exists_definition_of_located {reader : Reader} {schemaSuffix name : Text} {file : Path}
    {declaration : Declaration} (h : located reader schemaSuffix name file = .ok declaration) :
    ∃ path code marker, reader path = .ok code ∧ definition? code marker.name = some marker ∧
      declaration = sourceOf schemaSuffix code path marker := by
  rw [located] at h
  obtain ⟨code, hcode, hfound⟩ := bind_eq_ok.1 h
  split at hfound
  · rename_i marker hmarker
    cases hfound
    refine ⟨file, code, marker, read_of_textOf hcode, ?_, rfl⟩
    rwa [name_of_definition? hmarker]
  · split at hfound
    · cases hfound
    -- the router is imported from the first file that its module denotes
    · rw [imported] at hfound
      split at hfound
      · obtain ⟨found, hfirst, hfound⟩ := bind_eq_ok.1 hfound
        split at hfound
        · cases hfound
        · rename_i target text
          split at hfound
          · cases hfound
          · rename_i marker hmarker
            cases hfound
            exact ⟨target, text, marker, read_of_firstReadable hfirst,
              definition?_of_importedDefinition? hmarker, rfl⟩
      · cases hfound

/-- A router is located somewhere in a run that has read what the reader gives. -/
def IsLocated (reader : Reader) (declaration : Declaration) : Prop :=
  ∃ schemaSuffix name file session stop, Faithful reader session ∧
    Yields (locate reader schemaSuffix name file) session declaration stop

theorem IsLocated.exists_definition {reader : Reader} {declaration : Declaration}
    (h : IsLocated reader declaration) : ∃ path code marker, reader path = .ok code ∧
      definition? code marker.name = some marker ∧ declaration.name = marker.name ∧
        declaration.file = path ∧ declaration.span = spanOf code marker := by
  obtain ⟨schemaSuffix, name, file, session, stop, hfaithful, hlocate⟩ := h
  have hanswer : Answers reader (locate reader schemaSuffix name file) _ := answers_locate _ _ _
  obtain ⟨hlocated, -, -⟩ := hanswer.of_yields hfaithful hlocate
  obtain ⟨path, code, marker, hread, hdefinition, rfl⟩ := exists_definition_of_located hlocated
  exact ⟨path, code, marker, hread, hdefinition, rfl, rfl, rfl⟩

/-- **The spans of a file partition it from its first router on.** The markers of a text are those that are
met one behind the other, and none else. The span of each runs up to the next one, or to the end for the last
one; put together the spans are the text from the first marker on, and those of different markers have no
character in common. The definition of a name is the first marker with the name. A router that is located is
that definition in the text of its file, so routers of different names in one file are located at spans
that have no character in common, and the same router has one span under all names it is imported as. -/
theorem spans_partition (code : Text) :
    (∀ found, Successive code 0 found ↔ found = markers code) ∧
    (∀ (index : Nat) marker, (markers code)[index]? = some marker → spanOf code marker =
      stretch code marker.start (((markers code)[index + 1]?.map Marker.start).getD code.length)) ∧
    (∀ first ∈ (markers code).head?, ((markers code).map (spanOf code)).flatten = code.drop first.start) ∧
    (∀ first ∈ markers code, ∀ second ∈ markers code, first ≠ second →
      ∀ offset, ¬ (Covers code first offset ∧ Covers code second offset)) ∧
    (∀ name marker, definition? code name = some marker ↔ ∃ before rest,
      markers code = before ++ marker :: rest ∧ marker.name = name ∧
        ∀ earlier ∈ before, earlier.name ≠ name) ∧
    ∀ reader first second, IsLocated reader first → IsLocated reader second →
      first.file = second.file → reader first.file = .ok code →
      ∃ marker ∈ markers code, ∃ marker' ∈ markers code,
        marker.name = first.name ∧ first.span = spanOf code marker ∧
        marker'.name = second.name ∧ second.span = spanOf code marker' ∧
        (first.name = second.name → marker = marker') ∧
        (first.name ≠ second.name → ∀ offset, ¬ (Covers code marker offset ∧ Covers code marker' offset)) := by
  refine ⟨fun found => ?_, ?_, ?_, fun first hfirst second hsecond => not_covers_both hfirst hsecond, ?_, ?_⟩
  · rw [successive_iff, List.drop_zero]
    rfl
  · intro index marker hmarker
    obtain ⟨hindex, rfl⟩ := List.getElem?_eq_some_iff.1 hmarker
    obtain ⟨start, hdrop⟩ := (successive_markers code).drop index
    rw [List.drop_eq_getElem_cons hindex] at hdrop
    rw [hdrop.spanOf_eq, spanStop, List.head?_drop]
  · intro first hfirst
    obtain ⟨rest, hmarkers⟩ := List.head?_eq_some_iff.1 hfirst
    have hall := successive_markers code
    rw [hmarkers] at hall ⊢
    exact hall.flatten_spans
  · intro name marker
    rw [definition?, List.find?_eq_some_iff_append]
    simp only [beq_iff_eq, Bool.not_eq_true', beq_eq_false_iff_ne]
    constructor
    · rintro ⟨hname, before, rest, hmarkers, hbefore⟩
      exact ⟨before, rest, hmarkers, hname, hbefore⟩
    · rintro ⟨before, rest, hmarkers, hname, hbefore⟩
      exact ⟨hname, before, rest, hmarkers, hbefore⟩
  · intro reader first second hfirst hsecond hfile hread
    obtain ⟨path, text, marker, hpath, hdefinition, hname, hplace, hspan⟩ := hfirst.exists_definition
    obtain ⟨path', text', marker', hpath', hdefinition', hname', hplace', hspan'⟩ := hsecond.exists_definition
    -- both are read in the text of the one file
    rw [← hplace] at hpath
    rw [← hplace', ← hfile] at hpath'
    obtain rfl : text = code := Except.ok.inj (hpath.symm.trans hread)
    obtain rfl : text' = text := Except.ok.inj (hpath'.symm.trans hread)
    have hmarker := mem_markers_of_definition? hdefinition
    have hmarker' := mem_markers_of_definition? hdefinition'
    refine ⟨marker, hmarker, marker', hmarker', hname.symm, hspan, hname'.symm, hspan', ?_, ?_⟩
    · rw [hname, hname']
      intro hsame
      rw [hsame, hdefinition'] at hdefinition
      exact (Option.some.inj hdefinition).symm
    · rw [hname, hname']
      exact fun hother => not_covers_both hmarker hmarker' fun hsame => hother (congrArg Marker.name hsame)

/-- Two routers in one file, the second one exported and annotated. -/
def pairText : Text := "const a = new Router();a.get('/');export let b: Router = new Router();b.get('/')".toList

/-- A disk on which each file has the two routers. -/
def pairReader : Reader := fun _ => .ok pairText

theorem pair_defined : definition? pairText "a".toList = some ⟨"a".toList, 0, 21⟩ ∧
    definition? pairText "b".toList = some ⟨"b".toList, 34, 68⟩ := by
  -- the text is read character by character only once
  have htext : pairText = _ := String.toList_ofList
  rw [htext]
  decide +kernel

/-- A router of the pair is located where it is defined. -/
theorem isLocated_pair {name : Text} {marker : Marker} (h : definition? pairText name = some marker) :
    IsLocated pairReader (sourceOf [] pairText (Path.ofString "r.ts") marker) := by
  have hlocated : located pairReader [] name (Path.ofString "r.ts") =
      .ok (sourceOf [] pairText (Path.ofString "r.ts") marker) := located_of_definition? rfl h
  have hanswer : Answers pairReader (locate pairReader [] name (Path.ofString "r.ts")) _ :=
    answers_locate _ _ _
  rw [hlocated] at hanswer
  obtain ⟨stop, hyields, -, -⟩ := hanswer.yields (faithful_empty pairReader)
  exact ⟨[], name, _, {}, stop, faithful_empty pairReader, hyields⟩

/-- The routers of the pair are located apart from each other. -/
theorem pair_partitioned : ∃ first second, IsLocated pairReader first ∧ IsLocated pairReader second ∧
    first.name = "a".toList ∧ second.name = "b".toList ∧
    first.span = "const a = new Router();a.get('/');".toList ∧
    second.span = "export let b: Router = new Router();b.get('/')".toList ∧
    ∃ marker ∈ markers pairText, ∃ marker' ∈ markers pairText, first.span = spanOf pairText marker ∧
      second.span = spanOf pairText marker' ∧
      ∀ offset, ¬ (Covers pairText marker offset ∧ Covers pairText marker' offset) := by
  have hfirst := isLocated_pair pair_defined.1
  have hsecond := isLocated_pair pair_defined.2
  obtain ⟨-, -, -, -, -, hapart⟩ := spans_partition pairText
  have hfile : ∀ marker,
      (sourceOf [] pairText (Path.ofString "r.ts") marker).file = Path.ofString "r.ts" := fun _ => rfl
  obtain ⟨marker, hmarker, marker', hmarker', -, hspan, -, hspan', -, hdisjoint⟩ :=
    hapart pairReader _ _ hfirst hsecond ((hfile _).trans (hfile _).symm) rfl
  have hspans : spanOf pairText ⟨"a".toList, 0, 21⟩ = "const a = new Router();a.get('/');".toList ∧
      spanOf pairText ⟨"b".toList, 34, 68⟩ = "export let b: Router = new Router();b.get('/')".toList := by
    have htext : pairText = _ := String.toList_ofList
    rw [htext]
    repeat rw [String.toList_ofList]
    decide +kernel
  have hsource : ∀ marker,
      (sourceOf [] pairText (Path.ofString "r.ts") marker).span = spanOf pairText marker := fun _ => rfl
  have hnames : "a".toList ≠ "b".toList := by decide
  exact ⟨_, _, hfirst, hsecond, rfl, rfl, (hsource _).trans hspans.1, (hsource _).trans hspans.2, marker,
    hmarker, marker', hmarker', hspan, hspan', hdisjoint hnames⟩

end RouteAtlas.Router
