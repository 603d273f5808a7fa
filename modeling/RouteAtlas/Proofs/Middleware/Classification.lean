import Mathlib.Data.Nat.Find
import RouteAtlas.Middleware.Chain
import RouteAtlas.Proofs.Source.Mentions
import RouteAtlas.Proofs.Source.Nesting

/-!
# How a chain is classified

An expression is a candidate for the operation handler when it mentions a handler wrapper, or no name of
the vocabulary. The handler of a chain is the first candidate that mentions no denied name; the other
candidates stay unclassified, and every other expression has the first kind of the vocabulary one of
whose names it mentions. These rules, the texts of the expanded chain and the positions from zero on
settle the result, and the result is nothing else (`classify_chooses`).
-/

set_option autoImplicit false

namespace RouteAtlas.Middleware

open Text Source

/-! ## The rules -/

/-- The kinds that an expression has by the names it mentions, in the order in which they are looked
for, with these names. -/
def kindNames (customs : List Custom) : List (Kind × List Text) :=
  [(.validator .body, ["validateBody".toList]),
   (.validator .query, ["validateParam".toList, "validateQuery".toList]),
   (.validator .path, ["validatePath".toList]),
   (.validator .header, ["validateHeader".toList]),
   (.response, ["validateResponse".toList]),
   (.custom, customs.map fun custom => custom.name.toList)]

/-- An expression mentions one of some names. -/
def MentionsAny (expression : Text) (names : List Text) : Prop := ∃ name ∈ names, Mentions expression name

/-- An expression that can be the operation handler: it mentions a handler wrapper, or no validator and
no custom middleware. -/
def IsCandidate (customs : List Custom) (expression : Text) : Prop :=
  MentionsAny expression wrapperNames ∨
    ∀ entry ∈ kindNames customs, ¬ MentionsAny expression entry.2

/-- A candidate that mentions no denied name. -/
structure IsFree (setup : Setup) (expression : Text) : Prop where
  candidate : IsCandidate setup.customs expression
  allowed : ¬ MentionsAny expression (setup.denied.map String.toList)

/-- The expression at an index of a chain is the first free candidate. -/
structure IsFirstFree (setup : Setup) (texts : List Text) (index : Nat) : Prop where
  free : ∃ text, texts[index]? = some text ∧ IsFree setup text
  first : ∀ earlier < index, ∀ text, texts[earlier]? = some text → ¬ IsFree setup text

/-- The expressions of a chain, in order and at the positions from zero on, with their kinds. -/
structure Chooses (setup : Setup) (texts : List Text) (classified : List Expression) : Prop where
  kept : classified.map Expression.text = texts
  positions : classified.map Expression.position = List.range classified.length
  atMostOne : ∀ (i j : Nat) (first second : Expression), classified[i]? = some first →
    classified[j]? = some second → first.kind = .handler → second.kind = .handler → i = j
  first : ∀ (i : Nat) (chosen : Expression), classified[i]? = some chosen → chosen.kind = .handler →
    IsFirstFree setup texts i
  found : (∃ text ∈ texts, IsFree setup text) → ∃ chosen ∈ classified, chosen.kind = .handler
  passed : ∀ expression ∈ classified, IsCandidate setup.customs expression.text →
    expression.kind ≠ .handler → expression.kind = .unclassified
  named : ∀ expression ∈ classified, ¬ IsCandidate setup.customs expression.text →
    ∃ before names behind, kindNames setup.customs = before ++ (expression.kind, names) :: behind ∧
      MentionsAny expression.text names ∧
      ∀ earlier ∈ before, ¬ MentionsAny expression.text earlier.2

/-! ## Kinds -/

theorem any_mentions_iff {expression : Text} {names : List Text} :
    names.any (mentions expression) = true ↔ MentionsAny expression names := by
  simp only [List.any_eq_true, mentions_iff, MentionsAny]

theorem denies_iff {setup : Setup} {expression : Text} :
    setup.denies expression = true ↔ MentionsAny expression (setup.denied.map String.toList) := by
  rw [← any_mentions_iff, List.any_map]
  rfl

/-- The kind of an expression that mentions no wrapper is looked up in the vocabulary. -/
theorem kindOf_eq (customs : List Custom) (expression : Text) :
    kindOf customs expression =
      if mentionsWrapper expression then .handler
      else (((kindNames customs).find? fun entry => entry.2.any (mentions expression)).map
        Prod.fst).getD .unclassified := by
  have hcustoms : (customs.map fun custom => custom.name.toList).any (mentions expression) =
      customs.any fun custom => mentions expression custom.name.toList := List.any_map
  have hresponse : ["validateResponse".toList].any (mentions expression) =
      mentions expression responseValidator := Bool.or_false _
  unfold kindOf
  cases mentionsWrapper expression with
  | true => rfl
  | false =>
      rw [← hcustoms, ← hresponse]
      simp only [kindNames, validatedSlots, validatorNames, List.find?_cons, List.find?_nil]
      cases ["validateBody".toList].any (mentions expression) with
      | true => rfl
      | false =>
      cases ["validateParam".toList, "validateQuery".toList].any (mentions expression) with
      | true => rfl
      | false =>
      cases ["validatePath".toList].any (mentions expression) with
      | true => rfl
      | false =>
      cases ["validateHeader".toList].any (mentions expression) with
      | true => rfl
      | false =>
      cases ["validateResponse".toList].any (mentions expression) with
      | true => rfl
      | false => cases (customs.map fun custom => custom.name.toList).any (mentions expression) <;> rfl

section

variable {customs : List Custom} {setup : Setup} {expression : Text}

/-- The kinds of the vocabulary are neither the handler nor unclassified. -/
theorem ne_of_mem_kindNames {entry : Kind × List Text} (h : entry ∈ kindNames customs) :
    entry.1 ≠ .handler ∧ entry.1 ≠ .unclassified := by
  simp only [kindNames, List.mem_cons, List.not_mem_nil, or_false] at h
  rcases h with rfl | rfl | rfl | rfl | rfl | rfl <;> exact ⟨nofun, nofun⟩

/-- An expression is a candidate, or it has the first kind one of whose names it mentions. -/
theorem kindOf_cases (customs : List Custom) (expression : Text) :
    (IsCandidate customs expression ∧
        (kindOf customs expression = .handler ∨ kindOf customs expression = .unclassified)) ∨
      (¬ IsCandidate customs expression ∧ kindOf customs expression ≠ .handler ∧
        kindOf customs expression ≠ .unclassified ∧
        ∃ before names behind,
          kindNames customs = before ++ (kindOf customs expression, names) :: behind ∧
          MentionsAny expression names ∧ ∀ earlier ∈ before, ¬ MentionsAny expression earlier.2) := by
  rw [kindOf_eq]
  by_cases hwrapper : mentionsWrapper expression = true
  · rw [if_pos hwrapper]
    exact .inl ⟨.inl (any_mentions_iff.1 hwrapper), .inl rfl⟩
  · rw [if_neg hwrapper]
    cases hfind : (kindNames customs).find? fun entry => entry.2.any (mentions expression) with
    | none =>
        refine .inl ⟨.inr fun entry hentry hmentions => ?_, .inr rfl⟩
        exact List.find?_eq_none.1 hfind entry hentry (any_mentions_iff.2 hmentions)
    | some entry =>
        obtain ⟨hmentions, before, behind, hsplit, hbefore⟩ := List.find?_eq_some_iff_append.1 hfind
        have hentry : entry ∈ kindNames customs := List.mem_of_find?_eq_some hfind
        obtain ⟨hhandler, hunclassified⟩ := ne_of_mem_kindNames hentry
        refine .inr ⟨?_, hhandler, hunclassified, before, entry.2, behind, hsplit,
          any_mentions_iff.1 hmentions, fun earlier hearlier hmention => ?_⟩
        · rintro (hany | hnone)
          · exact hwrapper (any_mentions_iff.2 hany)
          · exact hnone entry hentry (any_mentions_iff.1 hmentions)
        · have hfalse := hbefore earlier hearlier
          rw [any_mentions_iff.2 hmention] at hfalse
          cases hfalse

/-! ## Chains -/

/-- The kind of an expression, where the handler may have been found before it. -/
def kindBehind (setup : Setup) (found : Bool) (expression : Text) : Kind :=
  match kindOf setup.customs expression with
  | .handler | .unclassified =>
      if found || setup.denies expression then .unclassified else .handler
  | kind => kind

theorem kindBehind_candidate (h : IsCandidate setup.customs expression) (found : Bool) :
    kindBehind setup found expression =
      if found || setup.denies expression then .unclassified else .handler := by
  unfold kindBehind
  rcases kindOf_cases setup.customs expression with ⟨-, hkind | hkind⟩ | ⟨hnone, -⟩
  · rw [hkind]
  · rw [hkind]
  · exact absurd h hnone

theorem kindBehind_named (h : ¬ IsCandidate setup.customs expression) (found : Bool) :
    kindBehind setup found expression = kindOf setup.customs expression ∧
      kindOf setup.customs expression ≠ .handler := by
  rcases kindOf_cases setup.customs expression with ⟨hcandidate, -⟩ | ⟨-, hhandler, hunclassified, -⟩
  · exact absurd hcandidate h
  · unfold kindBehind
    split
    · exact absurd ‹_› hhandler
    · exact absurd ‹_› hunclassified
    · exact ⟨rfl, hhandler⟩

/-- **The handler is the expression at which a free candidate has not been met before.** -/
theorem kindBehind_eq_handler {found : Bool} :
    kindBehind setup found expression = .handler ↔ found = false ∧ IsFree setup expression := by
  by_cases hcandidate : IsCandidate setup.customs expression
  · rw [kindBehind_candidate hcandidate]
    have hdenies := @denies_iff setup expression
    constructor
    · intro h
      split at h
      · cases h
      · rename_i hneither
        rw [Bool.or_eq_true, not_or, Bool.not_eq_true, hdenies] at hneither
        exact ⟨hneither.1, hcandidate, hneither.2⟩
    · rintro ⟨rfl, hfree⟩
      rw [if_neg]
      rw [Bool.or_eq_true, hdenies]
      rintro (h | h)
      · cases h
      · exact hfree.allowed h
  · obtain ⟨hkind, hhandler⟩ := kindBehind_named hcandidate found
    rw [hkind]
    exact iff_of_false hhandler fun h => hcandidate h.2.candidate

/-- Walking the chain goes on with the knowledge whether the handler has been met. -/
theorem classifyFrom_cons (setup : Setup) (found : Bool) (expression : Expression)
    (rest : List Expression) :
    classifyFrom setup found (expression :: rest) =
      { expression with kind := kindBehind setup found expression.text } ::
        classifyFrom setup (found || decide (kindBehind setup found expression.text = .handler)) rest := by
  unfold kindBehind
  rw [classifyFrom]
  cases kindOf setup.customs expression.text with
  | handler => cases found <;> cases setup.denies expression.text <;> rfl
  | unclassified => cases found <;> cases setup.denies expression.text <;> rfl
  | _ => simp

/-- **The expression at an index has the kind that it has behind those before it**: the handler has been
met when one of them is a free candidate. -/
theorem getElem?_classifyFrom (setup : Setup) (found : Bool) (chain : List Expression) (i : Nat) :
    ∃ met : Bool, (met = true ↔ found = true ∨
        ∃ earlier < i, ∃ text, (chain.map Expression.text)[earlier]? = some text ∧ IsFree setup text) ∧
      (classifyFrom setup found chain)[i]? =
        chain[i]?.map fun expression =>
          { expression with kind := kindBehind setup met expression.text } := by
  induction chain generalizing found i with
  | nil => exact ⟨found, by simp, by simp [classifyFrom]⟩
  | cons expression rest ih =>
      rw [classifyFrom_cons]
      cases i with
      | zero => exact ⟨found, by simp, by simp⟩
      | succ i =>
          obtain ⟨met, hmet, hentry⟩ :=
            ih (found || decide (kindBehind setup found expression.text = .handler)) i
          refine ⟨met, ?_, by simpa using hentry⟩
          rw [hmet, Bool.or_eq_true, decide_eq_true_iff, kindBehind_eq_handler]
          constructor
          · rintro ((hfound | ⟨-, hfree⟩) | ⟨earlier, hlt, hearlier⟩)
            · exact .inl hfound
            · exact .inr ⟨0, Nat.succ_pos i, expression.text, rfl, hfree⟩
            · exact .inr ⟨earlier + 1, Nat.succ_lt_succ hlt, by simpa using hearlier⟩
          · rintro (hfound | ⟨earlier, hlt, text, htext, hfree⟩)
            · exact .inl (.inl hfound)
            · cases earlier with
              | zero =>
                  obtain rfl : expression.text = text := by simpa using htext
                  cases found with
                  | true => exact .inl (.inl rfl)
                  | false => exact .inl (.inr ⟨rfl, hfree⟩)
              | succ earlier =>
                  exact .inr ⟨earlier, Nat.lt_of_succ_lt_succ hlt, text, by simpa using htext, hfree⟩

end

/-! ## The rules hold, and nothing else does -/

section

variable {setup : Setup} {texts : List Text} {chain classified : List Expression}

theorem IsFirstFree.unique {i j : Nat} (h : IsFirstFree setup texts i)
    (h' : IsFirstFree setup texts j) : i = j := by
  obtain ⟨text, htext, hfree⟩ := h.free
  obtain ⟨text', htext', hfree'⟩ := h'.free
  rcases Nat.lt_trichotomy i j with hlt | heq | hlt
  · exact absurd hfree (h'.first i hlt text htext)
  · exact heq
  · exact absurd hfree' (h.first j hlt text' htext')

/-- Where there is a free candidate, there is a first one. -/
theorem exists_firstFree {text : Text} (hmem : text ∈ texts) (hfree : IsFree setup text) :
    ∃ i, IsFirstFree setup texts i := by
  classical
  have hexists : ∃ i : Nat, ∃ text, texts[i]? = some text ∧ IsFree setup text := by
    obtain ⟨i, hi⟩ := List.mem_iff_getElem?.1 hmem
    exact ⟨i, text, hi, hfree⟩
  refine ⟨Nat.find hexists, Nat.find_spec hexists, fun earlier hlt text htext hfree => ?_⟩
  exact Nat.find_min hexists hlt ⟨text, htext, hfree⟩

/-- An expression of a classified chain, and its text. -/
theorem exists_text (hkept : classified.map Expression.text = texts) {i : Nat} {expression : Expression}
    (h : classified[i]? = some expression) : texts[i]? = some expression.text := by
  rw [← hkept, List.getElem?_map, h]
  rfl

/-- An expression of a classified chain stands at its position. -/
theorem Chooses.position_eq (h : Chooses setup texts classified) {i : Nat} {expression : Expression}
    (hentry : classified[i]? = some expression) : expression.position = i := by
  have hplace := congrArg (·[i]?) h.positions
  rw [List.getElem?_map, hentry, List.getElem?_range (List.getElem?_eq_some_iff.1 hentry).1] at hplace
  exact Option.some.inj hplace

/-- What the walk over a chain makes of the expression at an index. -/
theorem kind_classifyFrom {i : Nat} {expression : Expression}
    (h : (classifyFrom setup false chain)[i]? = some expression) :
    (expression.kind = .handler ↔ IsFirstFree setup (chain.map Expression.text) i) ∧
      (IsCandidate setup.customs expression.text → expression.kind ≠ .handler →
        expression.kind = .unclassified) ∧
      (¬ IsCandidate setup.customs expression.text →
        expression.kind = kindOf setup.customs expression.text) := by
  obtain ⟨met, hmet, hentry⟩ := getElem?_classifyFrom setup false chain i
  rw [h] at hentry
  obtain ⟨given, hgiven, rfl⟩ := Option.map_eq_some_iff.1 hentry.symm
  have htext : (chain.map Expression.text)[i]? = some given.text := by
    rw [List.getElem?_map, hgiven]
    rfl
  refine ⟨?_, fun hcandidate hne => ?_, fun hnamed => (kindBehind_named hnamed met).1⟩
  · show kindBehind setup met given.text = .handler ↔ _
    rw [kindBehind_eq_handler, ← Bool.not_eq_true, hmet]
    constructor
    · rintro ⟨hnone, hfree⟩
      refine ⟨⟨given.text, htext, hfree⟩, fun earlier hlt other hother hfree' => hnone (.inr ?_)⟩
      exact ⟨earlier, hlt, other, hother, hfree'⟩
    · rintro ⟨⟨other, hother, hfree⟩, hfirst⟩
      obtain rfl : given.text = other := Option.some.inj (htext.symm.trans hother)
      refine ⟨?_, hfree⟩
      rintro (hfound | ⟨earlier, hlt, other, hother, hfree'⟩)
      · cases hfound
      · exact hfirst earlier hlt other hother hfree'
  · have hkind := kindBehind_candidate hcandidate met
    rw [hkind] at hne ⊢
    split
    · rfl
    · rename_i hneither
      exact absurd (if_neg hneither) hne

/-- Classifying changes nothing but the kinds. -/
theorem map_classifyFrom {α : Type} (read : Expression → α)
    (hread : ∀ (expression : Expression) (kind : Kind),
      read { expression with kind := kind } = read expression)
    (setup : Setup) (found : Bool) (chain : List Expression) :
    (classifyFrom setup found chain).map read = chain.map read := by
  induction chain generalizing found with
  | nil => rfl
  | cons expression rest ih => rw [classifyFrom_cons, List.map_cons, ih, hread, List.map_cons]

theorem map_text_classifyFrom (setup : Setup) (found : Bool) (chain : List Expression) :
    (classifyFrom setup found chain).map Expression.text = chain.map Expression.text :=
  map_classifyFrom Expression.text (fun _ _ => rfl) setup found chain

theorem map_position_classifyFrom (setup : Setup) (found : Bool) (chain : List Expression) :
    (classifyFrom setup found chain).map Expression.position = chain.map Expression.position :=
  map_classifyFrom Expression.position (fun _ _ => rfl) setup found chain

/-- **A chain at the positions from zero on is classified by the rules.** -/
theorem chooses_classifyFrom (setup : Setup)
    (hpositions : chain.map Expression.position = List.range chain.length) :
    Chooses setup (chain.map Expression.text) (classifyFrom setup false chain) := by
  refine ⟨map_text_classifyFrom setup false chain, ?_, ?_, ?_, ?_, ?_, ?_⟩
  · have hlength := congrArg List.length (map_position_classifyFrom setup false chain)
    rw [List.length_map, List.length_map] at hlength
    rw [map_position_classifyFrom, hpositions, hlength]
  · intro i j first second hfirst hsecond hhandler hhandler'
    exact ((kind_classifyFrom hfirst).1.1 hhandler).unique ((kind_classifyFrom hsecond).1.1 hhandler')
  · intro i chosen hchosen hhandler
    exact (kind_classifyFrom hchosen).1.1 hhandler
  · rintro ⟨text, hmem, hfree⟩
    obtain ⟨i, hi⟩ := exists_firstFree hmem hfree
    obtain ⟨text, htext, -⟩ := hi.free
    rw [List.getElem?_map, Option.map_eq_some_iff] at htext
    obtain ⟨given, hgiven, -⟩ := htext
    obtain ⟨met, -, hentry⟩ := getElem?_classifyFrom setup false chain i
    rw [hgiven] at hentry
    exact ⟨_, List.mem_of_getElem? hentry, (kind_classifyFrom hentry).1.2 hi⟩
  · intro expression hmem hcandidate hne
    obtain ⟨i, hi⟩ := List.mem_iff_getElem?.1 hmem
    exact (kind_classifyFrom hi).2.1 hcandidate hne
  · intro expression hmem hnamed
    obtain ⟨i, hi⟩ := List.mem_iff_getElem?.1 hmem
    rw [(kind_classifyFrom hi).2.2 hnamed]
    rcases kindOf_cases setup.customs expression.text with ⟨hcandidate, -⟩ | ⟨-, -, -, hfirst⟩
    · exact absurd hcandidate hnamed
    · exact hfirst

/-- The first entry of a list with some property is one only. -/
theorem first_unique {α : Type} (holds : α → Prop) {before before' behind behind' : List α}
    {entry entry' : α} (h : before ++ entry :: behind = before' ++ entry' :: behind')
    (hentry : holds entry) (hentry' : holds entry') (hbefore : ∀ e ∈ before, ¬ holds e)
    (hbefore' : ∀ e ∈ before', ¬ holds e) : entry = entry' := by
  rcases List.append_eq_append_iff.1 h with ⟨middle, rfl, hmiddle⟩ | ⟨middle, rfl, hmiddle⟩
  · cases middle with
    | nil => exact (List.cons.inj hmiddle).1
    | cons other middle =>
        obtain ⟨rfl, -⟩ := List.cons.inj hmiddle
        exact absurd hentry (hbefore' _ (List.mem_append_right _ List.mem_cons_self))
  · cases middle with
    | nil => exact (List.cons.inj hmiddle).1.symm
    | cons other middle =>
        obtain ⟨rfl, -⟩ := List.cons.inj hmiddle
        exact absurd hentry' (hbefore _ (List.mem_append_right _ List.mem_cons_self))

/-- The rules leave no choice. -/
theorem Chooses.kind_eq {other : List Expression} (h : Chooses setup texts classified)
    (h' : Chooses setup texts other) {i : Nat} {expression expression' : Expression}
    (hentry : classified[i]? = some expression) (hentry' : other[i]? = some expression') :
    expression.kind = expression'.kind := by
  have htext : expression.text = expression'.text :=
    Option.some.inj ((exists_text h.kept hentry).symm.trans (exists_text h'.kept hentry'))
  -- an expression that is the handler in one is the first free candidate, so it is in the other
  have handler : ∀ {first second : List Expression} {entry entry' : Expression},
      Chooses setup texts first → Chooses setup texts second → first[i]? = some entry →
      second[i]? = some entry' → entry.kind = .handler → entry'.kind = .handler := by
    intro first second entry entry' hfirst hsecond hentry hentry' hkind
    have hfree := hfirst.first i entry hentry hkind
    obtain ⟨text, htext, hcandidate⟩ := hfree.free
    obtain ⟨chosen, hchosen, hhandler⟩ := hsecond.found ⟨text, List.mem_of_getElem? htext, hcandidate⟩
    obtain ⟨j, hj⟩ := List.mem_iff_getElem?.1 hchosen
    obtain rfl := hfree.unique (hsecond.first j chosen hj hhandler)
    obtain rfl := Option.some.inj (hentry'.symm.trans hj)
    exact hhandler
  by_cases hcandidate : IsCandidate setup.customs expression.text
  · by_cases hkind : expression.kind = .handler
    · rw [hkind, handler h h' hentry hentry' hkind]
    · have hkind' : expression'.kind ≠ .handler := fun hhandler =>
        hkind (handler h' h hentry' hentry hhandler)
      rw [h.passed _ (List.mem_of_getElem? hentry) hcandidate hkind,
        h'.passed _ (List.mem_of_getElem? hentry') (htext ▸ hcandidate) hkind']
  · obtain ⟨before, names, behind, hsplit, hmentions, hbefore⟩ :=
      h.named _ (List.mem_of_getElem? hentry) hcandidate
    obtain ⟨before', names', behind', hsplit', hmentions', hbefore'⟩ :=
      h'.named _ (List.mem_of_getElem? hentry') (htext ▸ hcandidate)
    rw [← htext] at hmentions' hbefore'
    have hsame := first_unique (fun entry => MentionsAny expression.text entry.2)
      (hsplit.symm.trans hsplit') hmentions hmentions' hbefore hbefore'
    exact congrArg Prod.fst hsame

theorem Chooses.unique {other : List Expression} (h : Chooses setup texts classified)
    (h' : Chooses setup texts other) : classified = other := by
  have hlength : classified.length = other.length := by
    have hmap := congrArg List.length (h.kept.trans h'.kept.symm)
    rwa [List.length_map, List.length_map] at hmap
  refine List.ext_getElem hlength fun i hi hi' => ?_
  have hentry := List.getElem?_eq_getElem hi
  have hentry' := List.getElem?_eq_getElem hi'
  have htext : classified[i].text = other[i].text :=
    Option.some.inj ((exists_text h.kept hentry).symm.trans (exists_text h'.kept hentry'))
  have hkind := h.kind_eq h' hentry hentry'
  have hposition := (h.position_eq hentry).trans (h'.position_eq hentry').symm
  cases hone : classified[i]
  cases hother : other[i]
  rw [hone, hother] at htext hkind hposition
  exact Expression.mk.injEq .. ▸ ⟨hposition, htext, hkind⟩

end

/-- An expanded chain stands at the positions from zero on. -/
theorem positions_of_expand {chain expanded : List Expression} (h : expand chain = .ok expanded) :
    expanded.map Expression.position = List.range expanded.length := by
  obtain ⟨texts, -, rfl⟩ := eq_ok_of_map h
  exact map_position_chainOf texts

/-- **The handler of a chain is chosen uniquely, and the chain is kept**: whenever a chain can be
expanded, it is classified, and the outcome is the one list that keeps the texts of the expanded chain
in order, puts them at the positions from zero on and gives every expression its kind by the rules. -/
theorem classify_chooses (setup : Setup) (chain : List Expression) :
    (∀ classified, classify setup chain = .ok classified ↔
      ∃ expanded, expand chain = .ok expanded ∧
        Chooses setup (expanded.map Expression.text) classified) ∧
    ∀ fault, classify setup chain = .error fault ↔ expand chain = .error fault := by
  rw [classify]
  cases hexpand : expand chain with
  | error fault => simp [Except.map]
  | ok expanded =>
      refine ⟨fun classified => ?_, by simp [Except.map]⟩
      have hchooses := chooses_classifyFrom setup (positions_of_expand hexpand)
      simp only [Except.map, Except.ok.injEq, exists_eq_left']
      constructor
      · rintro rfl
        exact hchooses
      · exact hchooses.unique

/-- A setup with a custom middleware and a denied name. -/
def accountSetup : Setup where
  customs := [{ name := "auth" }]
  denied := ["logRequest"]

/-- A chain with a composite validator between other expressions. -/
def accountChain : List Text :=
  ["logRequest".toList, "auth(s.key)".toList,
   "validator(\x7bbody: s.name, param: s.page, usecase: createUser, ".toList ++
     "useWrappedUsecase: true, response: [\x7bstatus: 201, schema: s.user\x7d]\x7d)".toList,
   "audit".toList]

/-- The expressions of the chain, written out, with their positions and kinds. -/
def accountKinds : List Expression :=
  [⟨0, "logRequest".toList, .unclassified⟩,
   ⟨1, "auth(s.key)".toList, .custom⟩,
   ⟨2, "validateBody(s.name)".toList, .validator .body⟩,
   ⟨3, "validateParam(s.page)".toList, .validator .query⟩,
   ⟨4, "usecaseWrapper(createUser)".toList, .handler⟩,
   ⟨5, "validateResponse([\x7bstatus: 201, schema: s.user\x7d])".toList, .response⟩,
   ⟨6, "audit".toList, .unclassified⟩]

/-- The composite validator is written out, what follows it moves to the positions behind it, and the
wrapper that it contains is the handler. -/
theorem accountChain_chosen : ∃ expanded,
    classify accountSetup (chainOf accountChain) = .ok accountKinds ∧
      expand (chainOf accountChain) = .ok expanded ∧
      expanded.map Expression.position = [0, 1, 2, 3, 4, 5, 6] ∧
      Chooses accountSetup (expanded.map Expression.text) accountKinds := by
  have hclassify : classify accountSetup (chainOf accountChain) = .ok accountKinds := by
    -- the texts are read character by character only once
    unfold accountSetup accountChain accountKinds
    repeat rw [String.toList_ofList]
    decide +kernel
  obtain ⟨expanded, hexpand, hchooses⟩ :=
    ((classify_chooses accountSetup (chainOf accountChain)).1 accountKinds).1 hclassify
  refine ⟨expanded, hclassify, hexpand, ?_, hchooses⟩
  have hlength : expanded.length = accountKinds.length := by
    rw [← List.length_map Expression.text, ← hchooses.kept, List.length_map]
  rw [positions_of_expand hexpand, hlength]
  rfl

end RouteAtlas.Middleware
