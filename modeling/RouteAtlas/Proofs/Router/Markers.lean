import RouteAtlas.Proofs.Text.Blanks
import RouteAtlas.Proofs.Text.Identifiers
import RouteAtlas.Router.Marker

/-!
# Router markers

A marker is laid out as an optional export keyword, a variable with an optional annotation, and a new
router, with blanks between. The reader finds a marker exactly where a text begins with such a layout
(`marker?_eq_some_iff`), so a marker is read alike whatever stands behind it (`marker?_append`). Every
marker of a text stands at its start, and the span of a definition begins with its marker
(`marker?_spanOf`).
-/

set_option autoImplicit false

namespace RouteAtlas.Router

open Text

/-! ## The layout of a marker -/

/-- The words that introduce a variable. -/
def variableKeywords : List Text := ["const".toList, "let".toList, "var".toList]

/-- The export keyword and the blanks behind it. -/
def exportText (exported : Option Text) : Text := exported.elim [] ("export".toList ++ ·)

/-- A router annotation and the blanks within and behind it. -/
def ascriptionText (ascription : Option (Text × Text)) : Text :=
  ascription.elim [] fun blanks => ':' :: (blanks.1 ++ ("Router".toList ++ blanks.2))

/-- How a marker is laid out: its words and the blanks between them. -/
structure Layout where
  exported : Option Text
  keyword : Text
  behindKeyword : Text
  name : Text
  behindName : Text
  ascription : Option (Text × Text)
  behindEquals : Text
  behindNew : Text
  behindRouter : Text
  spaced_export : ∀ blanks ∈ exported, IsSpacing blanks
  introduces : keyword ∈ variableKeywords
  spaced_keyword : IsSpacing behindKeyword
  identifier : IsIdentifier name
  blank_name : isBlankText behindName = true
  blank_ascription : ∀ blanks ∈ ascription, isBlankText blanks.1 = true ∧ isBlankText blanks.2 = true
  blank_equals : isBlankText behindEquals = true
  spaced_new : IsSpacing behindNew
  blank_router : isBlankText behindRouter = true

/-- What is laid out behind the variable, up to the text behind the marker. -/
def Layout.definition (layout : Layout) (behind : Text) : Text :=
  layout.behindName ++ (ascriptionText layout.ascription ++ ('=' :: (layout.behindEquals ++ ("new".toList ++
    (layout.behindNew ++ ("Router".toList ++ (layout.behindRouter ++ ('(' :: behind))))))))

/-- A text that begins with a marker. -/
def Layout.before (layout : Layout) (behind : Text) : Text :=
  exportText layout.exported ++ (layout.keyword ++ (layout.behindKeyword ++
    (layout.name ++ layout.definition behind)))

/-! ## Reading a marker -/

section

variable {text rest : Text}

theorem head?_of_introduces {keyword : Text} (h : keyword ∈ variableKeywords) :
    ∃ c, (keyword ++ rest).head? = some c ∧ isBlank c = false ∧ c ≠ 'e' := by
  simp only [variableKeywords, List.mem_cons, List.not_mem_nil, or_false] at h
  rcases h with rfl | rfl | rfl
  · exact ⟨'c', rfl, by decide, by decide⟩
  · exact ⟨'l', rfl, by decide, by decide⟩
  · exact ⟨'v', rfl, by decide, by decide⟩

theorem dropExport_eq (text : Text) : ∃ exported, text = exportText exported ++ dropExport text ∧
    ∀ blanks ∈ exported, IsSpacing blanks := by
  rw [dropExport]
  cases hdrop : (dropStart? "export".toList text).bind skipBlanks1? with
  | none => exact ⟨none, rfl, nofun⟩
  | some rest =>
      obtain ⟨behind, hexport, hskip⟩ := Option.bind_eq_some_iff.1 hdrop
      obtain ⟨blanks, rfl, hspacing, -⟩ := skipBlanks1?_eq_some_iff.1 hskip
      have htext : text = "export".toList ++ (blanks ++ rest) := dropStart?_eq_some_iff.1 hexport
      refine ⟨some blanks, htext.trans (List.append_assoc "export".toList blanks rest).symm, ?_⟩
      rintro _ ⟨⟩
      exact hspacing

theorem dropExport_exportText {exported : Option Text} {keyword : Text}
    (hexported : ∀ blanks ∈ exported, IsSpacing blanks) (hkeyword : keyword ∈ variableKeywords) :
    dropExport (exportText exported ++ (keyword ++ rest)) = keyword ++ rest := by
  obtain ⟨c, hhead, hblank, hc⟩ : ∃ c, (keyword ++ rest).head? = some c ∧ isBlank c = false ∧ c ≠ 'e' :=
    head?_of_introduces hkeyword
  cases exported with
  | none =>
      obtain ⟨behind, hbehind⟩ := List.head?_eq_some_iff.1 hhead
      have hnone : dropStart? "export".toList (c :: behind) = none := if_neg (Ne.symm hc)
      rw [exportText, Option.elim_none, List.nil_append, dropExport, hbehind, hnone]
      rfl
  | some blanks =>
      have hskip : skipBlanks1? (blanks ++ (keyword ++ rest)) = some (keyword ++ rest) := by
        refine skipBlanks1?_eq_some_iff.2 ⟨blanks, rfl, hexported blanks rfl, fun d hd => ?_⟩
        rw [hhead] at hd
        cases hd
        exact hblank
      simp only [exportText, Option.elim_some, List.append_assoc, dropExport, dropStart?_append, Option.bind_some, hskip,
        Option.getD_some]

/-- The word that introduces a variable is found behind an export keyword and without one. -/
theorem keyword_eq_some_iff :
    variableKeywords.findSome? (fun keyword => dropStart? keyword (dropExport text)) = some rest ↔
      ∃ exported, ∃ keyword ∈ variableKeywords, (∀ blanks ∈ exported, IsSpacing blanks) ∧
        text = exportText exported ++ (keyword ++ rest) := by
  constructor
  · intro h
    obtain ⟨keyword, hkeyword, hdrop⟩ := List.exists_of_findSome?_eq_some h
    obtain ⟨exported, htext, hexported⟩ := dropExport_eq text
    exact ⟨exported, keyword, hkeyword, hexported, by rwa [dropStart?_eq_some_iff.1 hdrop] at htext⟩
  · rintro ⟨exported, keyword, hkeyword, hexported, rfl⟩
    rw [dropExport_exportText hexported hkeyword]
    simp only [variableKeywords, List.mem_cons, List.not_mem_nil, or_false] at hkeyword
    rcases hkeyword with rfl | rfl | rfl
    · rfl
    · rfl
    · rfl

/-- The equals sign is found behind a router annotation and without one. -/
theorem equals_eq_some_iff : dropStart? ['='] (dropTypeMark text) = some rest ↔
    ∃ ascription, (∀ blanks ∈ ascription, isBlankText blanks.1 = true ∧ isBlankText blanks.2 = true) ∧
      text = ascriptionText ascription ++ '=' :: rest := by
  constructor
  · intro h
    have hequals := dropStart?_eq_some_iff.1 h
    rw [dropTypeMark.eq_def] at hequals
    split at hequals
    · rename_i within
      cases hascription : (dropStart? "Router".toList (trimLeft within)).map trimLeft with
      | none =>
          rw [hascription] at hequals
          cases hequals
      | some found =>
          rw [hascription] at hequals
          obtain ⟨behind, hrouter, hbehind⟩ := Option.map_eq_some_iff.1 hascription
          obtain ⟨first, rfl, hfirst⟩ := (dropStart?_trimLeft_eq_some_iff (by decide) (by decide)).1 hrouter
          obtain ⟨second, rfl, hsecond, -⟩ := trimLeft_eq_iff.1 hbehind
          refine ⟨some (first, second), ?_, ?_⟩
          · rintro _ ⟨⟩
            exact ⟨hfirst, hsecond⟩
          · have hfound : found = '=' :: rest := hequals
            simp [ascriptionText, hfound]
    · exact ⟨none, nofun, hequals⟩
  · rintro ⟨ascription, hblank, rfl⟩
    cases ascription with
    | none => rfl
    | some blanks =>
        obtain ⟨first, second⟩ := blanks
        obtain ⟨hfirst, hsecond⟩ := hblank _ rfl
        have hrouter : dropStart? "Router".toList (trimLeft (first ++ ("Router".toList ++ (second ++ '=' :: rest)))) =
            some (second ++ '=' :: rest) :=
          (dropStart?_trimLeft_eq_some_iff (by decide) (by decide)).2 ⟨first, rfl, hfirst⟩
        have hbehind : trimLeft (second ++ '=' :: rest) = '=' :: rest := by
          refine trimLeft_eq_iff.2 ⟨second, rfl, hsecond, ?_⟩
          rintro _ ⟨⟩
          decide
        simp only [ascriptionText, Option.elim_some, List.cons_append, List.append_assoc]
        rw [dropTypeMark, hrouter, Option.map_some, Option.getD_some, hbehind]
        rfl

end

/-- A name ends where blanks, an annotation or the equals sign follow. -/
theorem Layout.name_ends (layout : Layout) (behind : Text) :
    ∀ c ∈ (layout.definition behind).head?, isIdentifierPart c = false := by
  intro c hc
  rw [Bool.eq_false_iff]
  intro hpart
  rw [definition] at hc
  cases hname : layout.behindName with
  | cons d blanks =>
      rw [hname] at hc
      cases hc
      have hblank := List.all_eq_true.1 layout.blank_name c (hname ▸ List.mem_cons_self)
      exact Bool.false_ne_true ((isBlank_of_isIdentifierPart hpart).symm.trans hblank)
  | nil =>
      rw [hname, List.nil_append] at hc
      cases hascription : layout.ascription with
      | none =>
          rw [hascription] at hc
          cases hc
          exact absurd hpart (by decide)
      | some blanks =>
          rw [hascription] at hc
          cases hc
          exact absurd hpart (by decide)

/-- **A marker is read where a text begins with one.** -/
theorem marker?_eq_some_iff {text name behind : Text} : marker? text = some (name, behind) ↔
    ∃ layout : Layout, layout.name = name ∧ text = layout.before behind := by
  simp only [marker?, Option.bind_eq_bind, Option.bind_eq_some_iff]
  constructor
  · rintro ⟨_, hkeyword, _, hspacing, ⟨name', _⟩, hname, _, hequals, _, hnew, _, hnewSpacing, _, hrouter, _,
      hparenthesis, heq⟩
    -- each step of the reader gives the part of the layout that it has passed
    obtain ⟨exported, keyword, hintroduces, hexported, rfl⟩ := keyword_eq_some_iff.1 hkeyword
    obtain ⟨behindKeyword, rfl, hbehindKeyword, -⟩ := skipBlanks1?_eq_some_iff.1 hspacing
    obtain ⟨rfl, hidentifier, -⟩ := identifier?_eq_some_iff.1 hname
    obtain ⟨ascription, hascription, htrimmed⟩ := equals_eq_some_iff.1 hequals
    obtain ⟨behindName, rfl, hbehindName, -⟩ := trimLeft_eq_iff.1 htrimmed
    obtain ⟨behindEquals, rfl, hbehindEquals⟩ := (dropStart?_trimLeft_eq_some_iff (by decide) (by decide)).1 hnew
    obtain ⟨behindNew, rfl, hbehindNew, -⟩ := skipBlanks1?_eq_some_iff.1 hnewSpacing
    obtain rfl := dropStart?_eq_some_iff.1 hrouter
    obtain ⟨behindRouter, rfl, hbehindRouter⟩ := (dropStart?_trimLeft_eq_some_iff (by decide) (by decide)).1 hparenthesis
    cases heq
    exact ⟨⟨exported, keyword, behindKeyword, name', behindName, ascription, behindEquals, behindNew, behindRouter,
      hexported, hintroduces, hbehindKeyword, hidentifier, hbehindName, hascription, hbehindEquals, hbehindNew,
      hbehindRouter⟩, rfl, rfl⟩
  · rintro ⟨layout, rfl, rfl⟩
    have hname : ∀ c ∈ (layout.name ++ layout.definition behind).head?, isBlank c = false := by
      obtain ⟨⟨c, hc, hstart⟩, -⟩ := layout.identifier
      obtain ⟨more, hmore⟩ := List.head?_eq_some_iff.1 (Option.mem_def.1 hc)
      rw [hmore]
      rintro _ ⟨⟩
      exact isBlank_of_isIdentifierPart (isIdentifierPart_of_isIdentifierStart hstart)
    -- and the parts of a layout are what the steps ask for, one after the other
    refine ⟨_, keyword_eq_some_iff.2 ⟨_, _, layout.introduces, layout.spaced_export, rfl⟩,
      _, skipBlanks1?_eq_some_iff.2 ⟨_, rfl, layout.spaced_keyword, hname⟩,
      _, identifier?_eq_some_iff.2 ⟨rfl, layout.identifier, layout.name_ends behind⟩, ?_⟩
    refine ⟨_, equals_eq_some_iff.2 ⟨_, layout.blank_ascription, trimLeft_eq_iff.2 ⟨_, rfl, layout.blank_name, ?_⟩⟩,
      _, (dropStart?_trimLeft_eq_some_iff (by decide) (by decide)).2 ⟨_, rfl, layout.blank_equals⟩,
      _, skipBlanks1?_eq_some_iff.2 ⟨_, rfl, layout.spaced_new, ?_⟩, _, dropStart?_append _ _,
      _, (dropStart?_trimLeft_eq_some_iff (by decide) (by decide)).2 ⟨_, rfl, layout.blank_router⟩, rfl⟩
    · cases layout.ascription with
      | none =>
          rintro _ ⟨⟩
          decide
      | some blanks =>
          rintro _ ⟨⟩
          decide
    · rintro _ ⟨⟩
      decide

/-! ## Markers in a text -/

/-- A marker takes a part of the text that is read alike before any other text. -/
theorem marker?_append {text name behind : Text} (h : marker? text = some (name, behind)) :
    ∃ taken, taken ≠ [] ∧ text = taken ++ behind ∧ ∀ other, marker? (taken ++ other) = some (name, other) := by
  obtain ⟨layout, rfl, rfl⟩ := marker?_eq_some_iff.1 h
  have hbefore : ∀ other, layout.before other = layout.before [] ++ other := by
    intro other
    simp [Layout.before, Layout.definition]
  refine ⟨layout.before [], ?_, hbefore behind, fun other => ?_⟩
  · intro hnil
    have := congrArg List.length hnil
    simp [Layout.before, Layout.definition] at this
  · exact marker?_eq_some_iff.2 ⟨layout, rfl, (hbefore other).symm⟩

/-- A marker stands in a text at its start, and its stop is behind what it takes. -/
def MarksAt (text : Text) (offset : Nat) (marker : Marker) : Prop :=
  ∃ taken behind, text.drop (marker.start - offset) = taken ++ behind ∧ taken ≠ [] ∧
    marker.stop = marker.start + taken.length ∧ ∀ other, marker? (taken ++ other) = some (marker.name, other)

/-- Markers are found where they stand. -/
theorem markersFrom_spec (skip offset : Nat) (text : Text) :
    ∀ marker ∈ markersFrom skip offset text, offset + skip ≤ marker.start ∧ MarksAt text offset marker := by
  induction text generalizing skip offset with
  | nil => simp [markersFrom]
  | cons c rest ih =>
      have later : ∀ {skip : Nat}, ∀ marker ∈ markersFrom skip (offset + 1) rest,
          offset + 1 + skip ≤ marker.start ∧ MarksAt (c :: rest) offset marker := by
        intro skip marker hmem
        obtain ⟨hstart, hmarks⟩ := ih skip (offset + 1) marker hmem
        refine ⟨hstart, ?_⟩
        rw [MarksAt, show marker.start - offset = (marker.start - (offset + 1)) + 1 by omega, List.drop_succ_cons]
        exact hmarks
      intro marker hmem
      cases skip with
      | succ skip =>
          rw [markersFrom] at hmem
          obtain ⟨hstart, hmarks⟩ := later marker hmem
          exact ⟨by omega, hmarks⟩
      | zero =>
          rw [markersFrom] at hmem
          split at hmem
          · rename_i name behind hfound
            rcases List.mem_cons.1 hmem with rfl | hmem
            · obtain ⟨taken, hne, htext, hreads⟩ := marker?_append hfound
              have hlength := congrArg List.length htext
              rw [List.length_cons, List.length_append] at hlength
              refine ⟨le_rfl, taken, behind, ?_, hne, ?_, hreads⟩
              · rw [Nat.sub_self, List.drop_zero, htext]
              · show offset + (rest.length + 1 - behind.length) = offset + taken.length
                omega
            · obtain ⟨hstart, hmarks⟩ := later marker hmem
              exact ⟨by omega, hmarks⟩
          · obtain ⟨hstart, hmarks⟩ := later marker hmem
            exact ⟨by omega, hmarks⟩

theorem marksAt_of_mem_markers {code : Text} {marker : Marker} (h : marker ∈ markers code) :
    MarksAt code 0 marker :=
  (markersFrom_spec 0 0 code marker h).2

theorem mem_markers_of_definition? {code name : Text} {marker : Marker}
    (h : definition? code name = some marker) : marker ∈ markers code :=
  List.mem_of_find?_eq_some h

theorem name_of_definition? {code name : Text} {marker : Marker}
    (h : definition? code name = some marker) : marker.name = name := by
  simpa using List.find?_some h

/-- **The span of a definition begins with its marker.** -/
theorem marker?_spanOf {code : Text} {marker : Marker} (h : marker ∈ markers code) :
    ∃ behind, marker? (spanOf code marker) = some (marker.name, behind) := by
  obtain ⟨taken, behind, hdrop, -, hstop, hreads⟩ := marksAt_of_mem_markers h
  rw [Nat.sub_zero] at hdrop
  rw [spanOf]
  split
  · rename_i following others hfollowing
    -- the span is cut where the next marker starts, which is behind what this one takes
    obtain ⟨hstart, -⟩ := markersFrom_spec 0 marker.stop (code.drop marker.stop) following
      (hfollowing ▸ List.mem_cons_self)
    refine ⟨behind.take (following.start - marker.start - taken.length), ?_⟩
    rw [List.drop_take, hdrop, List.take_append, List.take_of_length_le (by omega)]
    exact hreads _
  · exact ⟨behind, by rw [hdrop, hreads]⟩

/-- Different definitions have different spans. -/
theorem name_eq_of_spanOf_eq {code : Text} {first second : Marker} (hfirst : first ∈ markers code)
    (hsecond : second ∈ markers code) (h : spanOf code first = spanOf code second) : first.name = second.name := by
  obtain ⟨behind, hbehind⟩ := marker?_spanOf hfirst
  obtain ⟨behind', hbehind'⟩ := marker?_spanOf hsecond
  rw [h, hbehind'] at hbehind
  exact (congrArg Prod.fst (Option.some.inj hbehind)).symm

end RouteAtlas.Router
