import RouteAtlas.Proofs.Text.Identifiers
import RouteAtlas.Route.Template

/-!
# Templates of paths

A route path is a run of stretches: characters that stand for themselves, and parameters, each with as
much of a name, a pattern in parentheses and a mark as there is (`ReadAs`). Every path is read in exactly
one way, and its template copies the characters and puts the names in braces (`template_of_readAs`). The
names in braces are read back as the parameters of the path when no brace opens outside of them, and a
template has no parameters of its own, so it is its own template (`template_shows_parameters`).
-/

set_option autoImplicit false

namespace RouteAtlas.Route

open Text

/-! ## Stretches -/

/-- A stretch of a route path: a character that stands for itself, or a parameter with what stands
between the parentheses behind it and with its mark. -/
inductive Stretch where
  | plain (c : Char)
  | parameter (name : Text) (pattern : Option Text) (mark : Option Char)
  deriving DecidableEq

/-- A pattern as it stands in a path. -/
def patternText : Option Text → Text
  | none => []
  | some inner => '(' :: (inner ++ [')'])

/-- A stretch as it stands in a path. -/
def Stretch.source : Stretch → Text
  | .plain c => [c]
  | .parameter name pattern mark => ':' :: (name ++ (patternText pattern ++ mark.toList))

/-- A stretch as it stands in a template. -/
def Stretch.shown : Stretch → Text
  | .plain c => [c]
  | .parameter name _ _ => '\x7b' :: (name ++ ['\x7d'])

/-- The name of a stretch that is a parameter. -/
def Stretch.name? : Stretch → Option Text
  | .plain _ => none
  | .parameter name _ _ => some name

/-- A character marks a parameter as optional or repeated. -/
def isMark (c : Char) : Bool := c = '?' || c = '*' || c = '+'

/-- A pattern in parentheses stands at the head of a text. -/
def BeginsPattern (text : Text) : Prop := ∃ inner rest, text = '(' :: (inner ++ ')' :: rest)

/-- A parameter takes as much of the text behind its colon as it can, and leaves the rest. -/
structure Takes (name : Text) (pattern : Option Text) (mark : Option Char) (rest : Text) : Prop where
  identifier : IsIdentifier name
  whole : ∀ c ∈ (patternText pattern ++ (mark.toList ++ rest)).head?, isIdentifierPart c = false
  closes : ∀ inner ∈ pattern, ')' ∉ inner
  unpatterned : pattern = none → ¬ BeginsPattern (mark.toList ++ rest)
  marks : ∀ c ∈ mark, isMark c = true
  unmarked : mark = none → ∀ c ∈ rest.head?, isMark c = false

/-- The stretches of a path from left to right. A colon stands for itself only where no name follows. -/
inductive ReadAs : Text → List Stretch → Prop where
  | nil : ReadAs [] []
  | plain {c : Char} {rest : Text} {stretches : List Stretch} :
      (c = ':' → ¬ BeginsName rest) → ReadAs rest stretches → ReadAs (c :: rest) (.plain c :: stretches)
  | parameter {name : Text} {pattern : Option Text} {mark : Option Char} {rest : Text}
      {stretches : List Stretch} : Takes name pattern mark rest → ReadAs rest stretches →
      ReadAs (':' :: (name ++ (patternText pattern ++ (mark.toList ++ rest))))
        (.parameter name pattern mark :: stretches)

/-! ## What a parameter takes -/

theorem patternText_injective : Function.Injective patternText := by
  rintro (_ | first) (_ | second) h
  · rfl
  · cases h
  · cases h
  · exact congrArg some (List.append_cancel_right (List.cons.inj h).2)

/-- Dropping a pattern leaves what stands behind it. -/
theorem dropPattern_append {pattern : Option Text} {behind : Text} (hcloses : ∀ inner ∈ pattern, ')' ∉ inner)
    (hnone : pattern = none → ¬ BeginsPattern behind) :
    dropPattern (patternText pattern ++ behind) = behind := by
  cases pattern with
  | some inner =>
      have hinner : ∀ c ∈ inner, decide (c ≠ ')') = true := by
        intro c hc
        exact decide_eq_true fun heq => hcloses inner rfl (heq ▸ hc)
      have hdrop : (inner ++ ')' :: behind).dropWhile (· ≠ ')') = ')' :: behind := by
        rw [List.dropWhile_append_of_pos hinner]
        rfl
      rw [patternText, List.cons_append, List.append_assoc, List.singleton_append, dropPattern, hdrop]
  | none =>
      rw [patternText, List.nil_append]
      unfold dropPattern
      split
      · rename_i rest
        split
        · rename_i c after hrest
          -- what the search stops at closes the pattern
          have hc : c = ')' := by
            have hstop := List.head?_dropWhile_not (fun c => decide (c ≠ ')')) rest
            rw [hrest] at hstop
            simpa using hstop
          have hsplit := List.takeWhile_append_dropWhile (p := fun c => decide (c ≠ ')')) (l := rest)
          rw [hrest, hc] at hsplit
          exact absurd ⟨_, _, congrArg _ hsplit.symm⟩ (hnone rfl)
        · rfl
      · rfl

theorem exists_pattern (text : Text) : ∃ pattern, text = patternText pattern ++ dropPattern text ∧
    (∀ inner ∈ pattern, ')' ∉ inner) ∧ (pattern = none → ¬ BeginsPattern (dropPattern text)) := by
  by_cases hbegins : BeginsPattern text
  · obtain ⟨inner, rest, rfl⟩ := hbegins
    obtain ⟨first, behind, hsplit, hfirst⟩ :=
      List.eq_append_cons_of_mem (List.mem_append_right inner (List.mem_cons_self (a := ')') (l := rest)))
    have hcloses : ∀ inner ∈ some first, ')' ∉ inner := by
      rintro _ ⟨⟩
      exact hfirst
    have htext : '(' :: (inner ++ ')' :: rest) = patternText (some first) ++ behind := by
      rw [hsplit, patternText, List.cons_append, List.append_assoc, List.singleton_append]
    refine ⟨some first, ?_, hcloses, nofun⟩
    rw [htext, dropPattern_append hcloses nofun]
  · have hdrop : dropPattern text = text := @dropPattern_append none text nofun fun _ => hbegins
    exact ⟨none, hdrop.symm, nofun, fun _ => hdrop.symm ▸ hbegins⟩

/-- Dropping a mark leaves what stands behind it. -/
theorem dropMark_append {mark : Option Char} {behind : Text} (hmark : ∀ c ∈ mark, isMark c = true)
    (hnone : mark = none → ∀ c ∈ behind.head?, isMark c = false) :
    dropMark (mark.toList ++ behind) = behind := by
  cases mark with
  | some c => exact if_pos (hmark c rfl)
  | none =>
      cases behind with
      | nil => rfl
      | cons c rest => exact if_neg (Bool.eq_false_iff.1 (hnone rfl c rfl))

theorem exists_mark (text : Text) : ∃ mark : Option Char, text = mark.toList ++ dropMark text ∧
    (∀ c ∈ mark, isMark c = true) ∧ (mark = none → ∀ c ∈ (dropMark text).head?, isMark c = false) := by
  cases text with
  | nil => exact ⟨none, rfl, nofun, nofun⟩
  | cons c rest =>
      by_cases hc : isMark c = true
      · have hmark : ∀ d ∈ some c, isMark d = true := by
          rintro _ ⟨⟩
          exact hc
        exact ⟨some c, congrArg (c :: ·) (@dropMark_append (some c) rest hmark nofun).symm, hmark, nofun⟩
      · have hnone : ∀ d ∈ (c :: rest).head?, isMark d = false := by
          rintro _ ⟨⟩
          exact Bool.eq_false_iff.2 hc
        have hdrop : dropMark (c :: rest) = c :: rest :=
          @dropMark_append none (c :: rest) nofun fun _ => hnone
        exact ⟨none, hdrop.symm, nofun, fun _ => hdrop.symm ▸ hnone⟩

/-- **A name is the beginning of a parameter** that takes a pattern and a mark behind it. -/
theorem exists_takes {text name behind : Text} (h : identifier? text = some (name, behind)) :
    ∃ pattern mark, text = name ++ (patternText pattern ++ (mark.toList ++ dropMark (dropPattern behind))) ∧
      Takes name pattern mark (dropMark (dropPattern behind)) := by
  obtain ⟨rfl, hname, hwhole⟩ := identifier?_eq_some_iff.1 h
  obtain ⟨pattern, hpattern, hcloses, hunpatterned⟩ := exists_pattern behind
  obtain ⟨mark, hmark, hmarks, hunmarked⟩ := exists_mark (dropPattern behind)
  have hbehind : behind = patternText pattern ++ (mark.toList ++ dropMark (dropPattern behind)) := by
    rw [← hmark, ← hpattern]
  refine ⟨pattern, mark, by rw [← hbehind], hname, ?_, hcloses, ?_, hmarks, hunmarked⟩
  · rwa [← hbehind]
  · rwa [← hmark]

/-- What a parameter takes is what is read there. -/
theorem Takes.identifier?_eq {name rest : Text} {pattern : Option Text} {mark : Option Char}
    (h : Takes name pattern mark rest) :
    identifier? (name ++ (patternText pattern ++ (mark.toList ++ rest))) =
      some (name, patternText pattern ++ (mark.toList ++ rest)) :=
  identifier?_eq_some_iff.2 ⟨rfl, h.identifier, h.whole⟩

theorem Takes.drop_eq {name rest : Text} {pattern : Option Text} {mark : Option Char}
    (h : Takes name pattern mark rest) :
    dropPattern (patternText pattern ++ (mark.toList ++ rest)) = mark.toList ++ rest ∧
      dropMark (mark.toList ++ rest) = rest :=
  ⟨dropPattern_append h.closes h.unpatterned, dropMark_append h.marks h.unmarked⟩

/-! ## Readings -/

theorem pathParts_plain {c : Char} {rest : Text} (h : c = ':' → ¬ BeginsName rest) :
    pathParts (c :: rest) = .plain c :: pathParts rest := by
  rw [pathParts]
  split
  · rename_i hc
    split
    · rename_i hname
      rw [identifier?_eq_none_iff.2 (h hc)] at hname
      cases hname
    · rfl
  · rfl

theorem pathParts_parameter {name rest : Text} {pattern : Option Text} {mark : Option Char}
    (h : Takes name pattern mark rest) :
    pathParts (':' :: (name ++ (patternText pattern ++ (mark.toList ++ rest)))) =
      .parameter name :: pathParts rest := by
  rw [pathParts, if_pos rfl]
  split
  · rename_i found behind hname
    rw [h.identifier?_eq] at hname
    cases hname
    rw [h.drop_eq.1, h.drop_eq.2]
  · rename_i hname
    rw [h.identifier?_eq] at hname
    cases hname

/-- Every path can be read. -/
theorem exists_readAs (path : Text) : ∃ stretches, ReadAs path stretches := by
  fun_induction pathParts path with
  | case1 => exact ⟨[], .nil⟩
  | case2 rest name behind hname ih =>
      obtain ⟨stretches, hrest⟩ := ih
      obtain ⟨pattern, mark, rfl, htakes⟩ := exists_takes hname
      exact ⟨_, .parameter htakes hrest⟩
  | case3 rest hname ih =>
      obtain ⟨stretches, hrest⟩ := ih
      exact ⟨_, .plain (fun _ => identifier?_eq_none_iff.1 hname) hrest⟩
  | case4 c rest hc ih =>
      obtain ⟨stretches, hrest⟩ := ih
      exact ⟨_, .plain (fun heq => absurd heq hc) hrest⟩

/-- A parameter takes the same from a text in every reading. -/
theorem Takes.unique {name name' rest rest' : Text} {pattern pattern' : Option Text}
    {mark mark' : Option Char} (h : Takes name pattern mark rest) (h' : Takes name' pattern' mark' rest')
    (heq : name ++ (patternText pattern ++ (mark.toList ++ rest)) =
      name' ++ (patternText pattern' ++ (mark'.toList ++ rest'))) :
    name = name' ∧ pattern = pattern' ∧ mark = mark' ∧ rest = rest' := by
  have hname := h.identifier?_eq
  rw [heq, h'.identifier?_eq] at hname
  obtain ⟨rfl, hbehind⟩ := Prod.mk.inj (Option.some.inj hname)
  -- what is dropped behind the name is the same, so what is left is
  have hdropped : mark.toList ++ rest = mark'.toList ++ rest' := by
    rw [← h.drop_eq.1, ← h'.drop_eq.1, hbehind]
  have hrest : rest = rest' := by
    rw [← h.drop_eq.2, ← h'.drop_eq.2, hdropped]
  subst hrest
  rw [hdropped] at hbehind
  have hmark : mark = mark' := by
    simpa using congrArg List.head? (List.append_cancel_right hdropped)
  exact ⟨rfl, patternText_injective (List.append_cancel_right hbehind).symm, hmark, rfl⟩

/-- **A path is read in one way only.** -/
theorem ReadAs.unique {path : Text} {stretches others : List Stretch} (h : ReadAs path stretches)
    (hother : ReadAs path others) : others = stretches := by
  induction h generalizing others with
  | nil =>
      cases hother
      rfl
  | plain hplain _ ih =>
      cases hother with
      | plain _ hrest => rw [ih hrest]
      | parameter htakes _ =>
          obtain ⟨c, hc, hstart⟩ := htakes.identifier.begins
          exact absurd ⟨c, List.mem_head?_append_of_mem_head? hc, hstart⟩ (hplain rfl)
  | @parameter name pattern mark rest _ htakes _ ih =>
      generalize hpath : ':' :: (name ++ (patternText pattern ++ (mark.toList ++ rest))) = path at hother
      cases hother with
      | nil => cases hpath
      | plain hplain _ =>
          obtain ⟨rfl, rfl⟩ := List.cons.inj hpath
          obtain ⟨c, hc, hstart⟩ := htakes.identifier.begins
          exact absurd ⟨c, List.mem_head?_append_of_mem_head? hc, hstart⟩ (hplain rfl)
      | parameter htakes' hrest =>
          obtain ⟨rfl, rfl, rfl, rfl⟩ := htakes.unique htakes' (List.cons.inj hpath).2
          rw [ih hrest]

/-- A reading loses nothing of the path. -/
theorem ReadAs.source_eq {path : Text} {stretches : List Stretch} (h : ReadAs path stretches) :
    stretches.flatMap Stretch.source = path := by
  induction h with
  | nil => rfl
  | plain _ _ ih => rw [List.flatMap_cons, ih, Stretch.source, List.singleton_append]
  | parameter _ _ ih =>
      rw [List.flatMap_cons, ih, Stretch.source, List.cons_append, List.append_assoc, List.append_assoc]

/-- **The template copies the characters of a path and puts the names of its parameters in braces.** -/
theorem template_of_readAs {path : Text} {stretches : List Stretch} (h : ReadAs path stretches) :
    template path = stretches.flatMap Stretch.shown := by
  rw [template]
  induction h with
  | nil => rw [pathParts, List.flatMap_nil, List.flatMap_nil]
  | plain hplain _ ih =>
      rw [pathParts_plain hplain, List.flatMap_cons, ih, List.flatMap_cons]
      rfl
  | parameter htakes _ ih =>
      rw [pathParts_parameter htakes, List.flatMap_cons, ih, List.flatMap_cons]
      rfl

theorem parameterNames_of_readAs {path : Text} {stretches : List Stretch} (h : ReadAs path stretches) :
    parameterNames path = stretches.filterMap Stretch.name? := by
  rw [parameterNames]
  induction h with
  | nil => rw [pathParts, List.filterMap_nil, List.filterMap_nil]
  | plain hplain _ ih =>
      rw [pathParts_plain hplain, List.filterMap_cons, ih]
      rfl
  | parameter htakes _ ih =>
      rw [pathParts_parameter htakes, List.filterMap_cons, ih]
      rfl

/-! ## Names in braces -/

theorem placeholders_cons {c : Char} (h : c ≠ '\x7b') (rest : Text) :
    placeholders (c :: rest) = placeholders rest := by
  rw [placeholders, if_neg h]

theorem isPlaceholderPart_of_isIdentifierPart {c : Char} (h : isIdentifierPart c = true) :
    isPlaceholderPart c = true := by
  by_contra hnot
  simp only [isPlaceholderPart, Bool.not_eq_true, Bool.not_eq_false', Bool.or_eq_true, beq_iff_eq] at hnot
  rcases hnot with rfl | rfl
  · exact absurd h (by decide)
  · exact absurd h (by decide)

/-- An identifier in braces is read back. -/
theorem placeholders_braced {name : Text} (h : IsIdentifier name) (rest : Text) :
    placeholders ('\x7b' :: (name ++ '\x7d' :: rest)) = name :: placeholders rest := by
  have hparts : ∀ c ∈ name, isPlaceholderPart c = true := fun c hc =>
    isPlaceholderPart_of_isIdentifierPart (h.parts c hc)
  have htaken : (name ++ '\x7d' :: rest).takeWhile isPlaceholderPart = name := by
    rw [List.takeWhile_append_of_pos hparts, List.takeWhile_cons_of_neg (by decide), List.append_nil]
  have hleft : (name ++ '\x7d' :: rest).dropWhile isPlaceholderPart = '\x7d' :: rest := by
    rw [List.dropWhile_append_of_pos hparts, List.dropWhile_cons_of_neg (by decide)]
  obtain ⟨c, hc, -⟩ := h.begins
  obtain ⟨behind, rfl⟩ := List.head?_eq_some_iff.1 (Option.mem_def.1 hc)
  rw [placeholders, if_pos rfl]
  split
  · rename_i first taken left htake hdrop
    obtain ⟨rfl, rfl⟩ := List.cons.inj (htaken.symm.trans htake)
    obtain ⟨-, rfl⟩ := List.cons.inj (hleft.symm.trans hdrop)
    rfl
  · rename_i hnone
    exact absurd hleft (hnone _ _ _ htaken)

/-- **The names in braces of a template are the parameters of the path**, where the path opens no brace
outside of them. -/
theorem placeholders_of_readAs {path : Text} {stretches : List Stretch} (h : ReadAs path stretches)
    (hplain : .plain '\x7b' ∉ stretches) :
    placeholders (stretches.flatMap Stretch.shown) = stretches.filterMap Stretch.name? := by
  induction h with
  | nil => rw [List.flatMap_nil, placeholders, List.filterMap_nil]
  | @plain c rest stretches _ _ ih =>
      rw [List.mem_cons, not_or] at hplain
      have hc : c ≠ '\x7b' := fun heq => hplain.1 (heq ▸ rfl)
      rw [List.flatMap_cons, Stretch.shown, List.singleton_append, placeholders_cons hc, ih hplain.2]
      rfl
  | parameter htakes _ ih =>
      rw [List.mem_cons, not_or] at hplain
      rw [List.flatMap_cons, Stretch.shown, List.cons_append, List.append_assoc, List.singleton_append,
        placeholders_braced htakes.identifier, ih hplain.2]
      rfl

/-! ## Templates of templates -/

/-- No colon of a text begins a parameter. -/
def HasNoParameter (text : Text) : Prop := ∀ before behind, text = before ++ ':' :: behind → ¬ BeginsName behind

theorem hasNoParameter_cons {c : Char} {rest : Text} :
    HasNoParameter (c :: rest) ↔ (c = ':' → ¬ BeginsName rest) ∧ HasNoParameter rest := by
  constructor
  · intro h
    refine ⟨?_, fun before behind heq => h (c :: before) behind (congrArg (c :: ·) heq)⟩
    rintro rfl
    exact h [] rest rfl
  · rintro ⟨hfirst, hrest⟩ before behind heq
    cases before with
    | nil =>
        obtain ⟨rfl, rfl⟩ := List.cons.inj heq
        exact hfirst rfl
    | cons d before => exact hrest before behind (List.cons.inj heq).2

/-- A template begins with a name exactly where the path does: a parameter begins with a brace. -/
theorem ReadAs.beginsName {path : Text} {stretches : List Stretch} (h : ReadAs path stretches)
    (hbegins : BeginsName (stretches.flatMap Stretch.shown)) : BeginsName path := by
  cases h with
  | nil => exact hbegins
  | plain => exact hbegins
  | parameter =>
      obtain ⟨c, hc, hstart⟩ := hbegins
      cases hc
      exact absurd hstart (by decide)

theorem hasNoParameter_append {before rest : Text} (hbefore : ':' ∉ before) (h : HasNoParameter rest) :
    HasNoParameter (before ++ rest) := by
  induction before with
  | nil => exact h
  | cons c before ih =>
      rw [List.mem_cons, not_or] at hbefore
      exact hasNoParameter_cons.2 ⟨fun heq => absurd heq.symm hbefore.1, ih hbefore.2⟩

/-- **A template has no parameters of its own.** -/
theorem hasNoParameter_of_readAs {path : Text} {stretches : List Stretch} (h : ReadAs path stretches) :
    HasNoParameter (stretches.flatMap Stretch.shown) := by
  induction h with
  | nil =>
      intro before behind heq
      simp at heq
  | plain hplain hrest ih => exact hasNoParameter_cons.2 ⟨fun hc hbegins => hplain hc (hrest.beginsName hbegins), ih⟩
  | @parameter name _ _ _ _ htakes _ ih =>
      rw [List.flatMap_cons, Stretch.shown]
      refine hasNoParameter_append ?_ ih
      have hname : ':' ∉ _ := htakes.identifier.not_mem (by decide)
      simp [hname]

/-- A text without parameters is read character by character. -/
theorem HasNoParameter.readAs {text : Text} (h : HasNoParameter text) : ReadAs text (text.map .plain) := by
  induction text with
  | nil => exact .nil
  | cons c rest ih =>
      obtain ⟨hfirst, hrest⟩ := hasNoParameter_cons.1 h
      exact .plain hfirst (ih hrest)

theorem HasNoParameter.template_eq {text : Text} (h : HasNoParameter text) : template text = text := by
  rw [template_of_readAs h.readAs, List.flatMap_map]
  exact List.flatMap_singleton' text

/-- **Templates show the parameters of paths.** Every path is read in exactly one way as characters and
parameters, and nothing of it is lost. Its template copies the characters and puts the names of the
parameters in braces, and where the path opens no brace outside of its parameters the names that are read
off the template are theirs, in order. No template has a parameter of its own, so it is its own
template. -/
theorem template_shows_parameters (path : Text) : ∃ stretches, ReadAs path stretches ∧
    (∀ others, ReadAs path others → others = stretches) ∧ stretches.flatMap Stretch.source = path ∧
    template path = stretches.flatMap Stretch.shown ∧
    parameterNames path = stretches.filterMap Stretch.name? ∧
    (.plain '\x7b' ∉ stretches → placeholders (template path) = parameterNames path) ∧
    HasNoParameter (template path) ∧ template (template path) = template path := by
  obtain ⟨stretches, hreads⟩ := exists_readAs path
  have htemplate := template_of_readAs hreads
  have hnames := parameterNames_of_readAs hreads
  have hnone := hasNoParameter_of_readAs hreads
  refine ⟨stretches, hreads, fun others => hreads.unique, hreads.source_eq, htemplate, hnames, ?_, ?_, ?_⟩
  · rw [htemplate, hnames]
    exact placeholders_of_readAs hreads
  · rwa [htemplate]
  · rw [htemplate]
    exact hnone.template_eq

/-- A path with braces in the pattern of its parameter. -/
def versionPath : Text := "/v:major(\\d\x7b2\x7d)?".toList

/-- The path as it is read: the braces belong to the parameter. -/
def versionStretches : List Stretch :=
  [.plain '/', .plain 'v', .parameter "major".toList (some "\\d\x7b2\x7d".toList) (some '?')]

theorem readAs_versionPath : ReadAs versionPath versionStretches := by
  have htakes : Takes "major".toList (some "\\d\x7b2\x7d".toList) (some '?') [] := by
    refine ⟨⟨⟨'m', rfl, by decide⟩, List.all_eq_true.1 rfl⟩, ?_, ?_, nofun, ?_, nofun⟩
    · rintro _ ⟨⟩
      decide
    · rintro _ ⟨⟩
      decide
    · rintro _ ⟨⟩
      decide
  exact .plain nofun (.plain nofun (.parameter htakes .nil))

/-- Braces within the pattern of a parameter do no harm. -/
theorem versionPath_shows_parameters : .plain '\x7b' ∉ versionStretches ∧
    template versionPath = "/v\x7bmajor\x7d".toList ∧
    placeholders (template versionPath) = ["major".toList] ∧
    template (template versionPath) = template versionPath := by
  have hplain : .plain '\x7b' ∉ versionStretches := by decide
  obtain ⟨stretches, -, hunique, -, htemplate, hnames, hshown, -, hagain⟩ :=
    template_shows_parameters versionPath
  obtain rfl := hunique _ readAs_versionPath
  exact ⟨hplain, htemplate, (hshown hplain).trans hnames, hagain⟩

end RouteAtlas.Route
