import RouteAtlas.Proofs.Source.Joining
import RouteAtlas.Route.Token

/-!
# The head of a route call

Between the dot and the parenthesis of a route call stands the name of a verb among blanks. No name of
a verb starts another one, so the head of a call is read in one way only (`verbAt?_eq_some_iff`). What
the scan does at a dot follows from there: it passes the dot, or it takes the call, which is found in
the same way when more lexemes follow. Lexemes that cannot complete the head of a call bar the scan
(`Bars`): in front of them it sees the calls that it sees without them.
-/

set_option autoImplicit false

namespace RouteAtlas.Route

open Text Source

/-! ## Steps of the scan -/

theorem callAt?_eq_some_iff {receiver : Option Text} {seen : Text} {gap : Option Text} {c : Char}
    {rest inner : List Lexeme} {verb : Verb} :
    callAt? receiver seen gap c rest = some (verb, inner) ↔
      c = '.' ∧ verbAt? rest = some (verb, inner) ∧ countsFor receiver seen gap = true := by
  unfold callAt?
  by_cases hc : c = '.'
  · cases hverb : verbAt? rest with
    | none => simp [hc]
    | some call =>
        by_cases hcounts : countsFor receiver seen gap = true
        · simp [hc, hcounts]
        · simp [hc, hcounts]
  · simp [hc]

section

variable {receiver : Option Text} {gap : Option Text}

/-- A character that starts no call is passed. -/
theorem tokensFrom_pass {c : Char} {seen : Text} {rest : List Lexeme}
    (hnone : callAt? receiver seen gap c rest = none) :
    tokensFrom receiver seen gap (.code c :: rest) =
      tokensFrom receiver (c :: seen) (gap.map (c :: ·)) rest := by
  rw [tokensFrom]
  split
  · rfl
  · rename_i hsome
    cases hnone.symm.trans hsome

theorem tokensFrom_code {c : Char} (hc : c ≠ '.') (seen : Text) (rest : List Lexeme) :
    tokensFrom receiver seen gap (.code c :: rest) =
      tokensFrom receiver (c :: seen) (gap.map (c :: ·)) rest := by
  apply tokensFrom_pass
  rw [callAt?, if_neg hc]

/-- Code without dots is passed. -/
theorem tokensFrom_codes {text : Text} (h : '.' ∉ text) (seen : Text) (gap : Option Text)
    (rest : List Lexeme) :
    tokensFrom receiver seen gap (codes text ++ rest) =
      tokensFrom receiver (text.reverse ++ seen) (gap.map (text.reverse ++ ·)) rest := by
  induction text generalizing seen gap with
  | nil => simp [codes]
  | cons c text ih =>
      have hc : c ≠ '.' := fun hsame => h (hsame ▸ List.mem_cons_self)
      show tokensFrom receiver seen gap (.code c :: (codes text ++ rest)) = _
      rw [tokensFrom_code hc, ih fun hmem => h (List.mem_cons_of_mem _ hmem), Option.map_map]
      simp [Function.comp_def]

/-- A dot that no route call follows is passed. -/
theorem tokensFrom_dot {rest : List Lexeme} (h : verbAt? rest = none) (seen : Text) :
    tokensFrom receiver seen gap (.code '.' :: rest) =
      tokensFrom receiver ('.' :: seen) (gap.map ('.' :: ·)) rest := by
  apply tokensFrom_pass
  rw [callAt?, if_pos rfl, h]

/-- A route call that counts and is closed is found, and the scan goes on behind it. -/
theorem tokensFrom_call {rest inner inside behind : List Lexeme} {verb : Verb} {seen : Text}
    (hverb : verbAt? rest = some (verb, inner)) (hcounts : countsFor receiver seen gap = true)
    (hcloses : Closes 0 inner inside behind) :
    tokensFrom receiver seen gap (.code '.' :: rest) =
      (tokensFrom receiver ((raw (rest.take (rest.length - behind.length))).reverse ++ '.' :: seen)
        (some []) behind).cons { verb := verb, arguments := raw inside, note := note? behind } := by
  have hcall : callAt? receiver seen gap '.' rest = some (verb, inner) :=
    callAt?_eq_some_iff.2 ⟨rfl, hverb, hcounts⟩
  rw [tokensFrom]
  split
  · rename_i hnone
    cases hcall.symm.trans hnone
  · rename_i found lexemes hsome
    cases hcall.symm.trans hsome
    have hclose := hcloses (seen.length + 1 + (rest.length - inner.length) : Nat)
      (seen.length + 1 + (rest.length - inner.length))
    dsimp only
    split
    · rename_i fault hfault
      cases hclose.symm.trans hfault
    · rename_i found lexemes hfound
      cases hclose.symm.trans hfound
      rfl

/-- A route call that counts and is not closed ends the scan. -/
theorem tokensFrom_unclosed {rest inner : List Lexeme} {verb : Verb} {seen : Text}
    (hverb : verbAt? rest = some (verb, inner)) (hcounts : countsFor receiver seen gap = true)
    (hopen : ∀ inside behind, ¬ Closes 0 inner inside behind) :
    (tokensFrom receiver seen gap (.code '.' :: rest)).tokens = [] := by
  have hcall : callAt? receiver seen gap '.' rest = some (verb, inner) :=
    callAt?_eq_some_iff.2 ⟨rfl, hverb, hcounts⟩
  rw [tokensFrom]
  split
  · rename_i hnone
    cases hcall.symm.trans hnone
  · rename_i found lexemes hsome
    cases hcall.symm.trans hsome
    dsimp only
    split
    · rfl
    · rename_i inside behind hfound
      rw [← append_of_splitAtCloser hfound] at hopen
      exact absurd (closes_of_splitAtCloser hfound behind) (hopen inside behind)

end

/-! ## Names of verbs -/

theorem dropCode?_eq_some_iff {word : Text} {lexemes behind : List Lexeme} :
    dropCode? word lexemes = some behind ↔ lexemes = codes word ++ behind := by
  fun_induction dropCode? word lexemes with
  | case1 lexemes => simp [codes]
  | case2 word c rest ih => simp [codes] at ih ⊢; exact ih
  | case3 c word d rest hne =>
      simp only [codes, List.map_cons, List.cons_append, List.cons.injEq, Lexeme.code.injEq]
      simp [Ne.symm hne]
  | case4 c word lexemes hcode =>
      simp only [codes, List.map_cons, List.cons_append, reduceCtorEq, false_iff]
      rintro rfl
      exact hcode c (codes word ++ behind) rfl

/-- Blanks are dropped up to the first lexeme that is none. -/
theorem skipBlankCode_codes {blanks : Text} (h : isBlankText blanks = true) {c : Char}
    (hc : isBlank c = false) (rest : List Lexeme) :
    skipBlankCode (codes blanks ++ .code c :: rest) = .code c :: rest := by
  induction blanks with
  | nil => simp [codes, skipBlankCode, hc]
  | cons d blanks ih =>
      rw [isBlankText_cons, Bool.and_eq_true] at h
      show skipBlankCode (.code d :: (codes blanks ++ .code c :: rest)) = _
      rw [skipBlankCode, if_pos h.1, ih h.2]

theorem exists_skipBlankCode (lexemes : List Lexeme) :
    ∃ blanks, isBlankText blanks = true ∧ lexemes = codes blanks ++ skipBlankCode lexemes := by
  fun_induction skipBlankCode lexemes with
  | case1 c rest hc ih =>
      obtain ⟨blanks, hblanks, hrest⟩ := ih
      refine ⟨c :: blanks, ?_, ?_⟩
      · rw [isBlankText_cons, hc, hblanks]
        rfl
      · show _ = .code c :: (codes blanks ++ skipBlankCode rest)
        rw [← hrest]
  | case2 c rest _ => exact ⟨[], rfl, rfl⟩
  | case3 lexemes _ => exact ⟨[], rfl, rfl⟩

/-- A character that can stand between the dot and the parenthesis of a call. -/
def isHeadPart (c : Char) : Bool :=
  isBlank c || Verb.all.any fun verb => verb.name.toList.contains c

/-- The text between the dot and the parenthesis of a call: the name of a verb among blanks. -/
def Spells (verb : Verb) (text : Text) : Prop :=
  ∃ before behind, isBlankText before = true ∧ isBlankText behind = true ∧
    text = before ++ verb.name.toList ++ behind

theorem Spells.isHeadPart {verb : Verb} {text : Text} (h : Spells verb text) :
    ∀ c ∈ text, Route.isHeadPart c = true := by
  obtain ⟨before, behind, hbefore, hbehind, rfl⟩ := h
  intro c hc
  rw [List.mem_append, List.mem_append] at hc
  rw [Route.isHeadPart, Bool.or_eq_true]
  rcases hc with (hc | hc) | hc
  · exact .inl (List.all_eq_true.1 hbefore c hc)
  · exact .inr (List.any_eq_true.2 ⟨verb, verb.mem_all, by simpa using hc⟩)
  · exact .inl (List.all_eq_true.1 hbehind c hc)

/-- No name of a verb starts another one. -/
theorem Verb.eq_of_prefix {verb other : Verb} (h : verb.name.toList <+: other.name.toList) :
    verb = other := by
  revert h
  cases verb <;> cases other <;> decide

theorem Verb.head_name (verb : Verb) :
    ∃ c rest, verb.name.toList = c :: rest ∧ isBlank c = false := by
  cases verb <;> exact ⟨_, _, rfl, by decide⟩

/-- What the head of a call must be for one verb. -/
theorem headOf_eq_some_iff {verb : Verb} {lexemes inner : List Lexeme} :
    (dropCode? verb.name.toList (skipBlankCode lexemes)).map skipBlankCode =
        some (.code '(' :: inner) ↔
      ∃ text, Spells verb text ∧ lexemes = codes text ++ .code '(' :: inner := by
  constructor
  · intro h
    obtain ⟨dropped, hdropped, hskip⟩ := Option.map_eq_some_iff.1 h
    obtain ⟨before, hbefore, hlexemes⟩ := exists_skipBlankCode lexemes
    obtain ⟨behind, hbehind, hrest⟩ := exists_skipBlankCode dropped
    rw [dropCode?_eq_some_iff] at hdropped
    refine ⟨_, ⟨before, behind, hbefore, hbehind, rfl⟩, ?_⟩
    rw [hlexemes, hdropped, hrest, hskip]
    simp [codes_append]
  · rintro ⟨_, ⟨before, behind, hbefore, hbehind, rfl⟩, rfl⟩
    obtain ⟨c, rest, hname, hc⟩ := verb.head_name
    have hfirst : skipBlankCode (codes (before ++ verb.name.toList ++ behind) ++ .code '(' :: inner) =
        codes verb.name.toList ++ (codes behind ++ .code '(' :: inner) := by
      rw [codes_append, codes_append, hname, List.append_assoc, List.append_assoc]
      exact skipBlankCode_codes hbefore hc _
    rw [hfirst, dropCode?_eq_some_iff.2 rfl, Option.map_some,
      skipBlankCode_codes hbehind (by decide)]

/-- A text spells one verb only. -/
theorem Spells.unique {verb other : Verb} {text : Text} (h : Spells verb text)
    (h' : Spells other text) : verb = other := by
  have hdrop : ∀ {verb : Verb} {text : Text}, Spells verb text →
      verb.name.toList <+: text.dropWhile isBlank := by
    rintro verb _ ⟨before, behind, hbefore, -, rfl⟩
    obtain ⟨c, rest, hname, hc⟩ := verb.head_name
    rw [List.append_assoc, List.dropWhile_append_of_pos (List.all_eq_true.1 hbefore), hname,
      List.cons_append, List.dropWhile_cons_of_neg (by simp [hc])]
    exact ⟨behind, rfl⟩
  rcases List.prefix_or_prefix_of_prefix (hdrop h) (hdrop h') with hprefix | hprefix
  · exact Verb.eq_of_prefix hprefix
  · exact (Verb.eq_of_prefix hprefix).symm

/-- The first parenthesis behind the head of a call ends the head. -/
theorem codes_append_cancel {first second : Text} {inner other : List Lexeme}
    (hfirst : '(' ∉ first) (hsecond : '(' ∉ second)
    (h : codes first ++ .code '(' :: inner = codes second ++ .code '(' :: other) :
    first = second ∧ inner = other := by
  induction first generalizing second with
  | nil =>
      cases second with
      | nil =>
          cases h
          exact ⟨rfl, rfl⟩
      | cons d second =>
          cases h
          exact absurd List.mem_cons_self hsecond
  | cons c first ih =>
      cases second with
      | nil =>
          cases h
          exact absurd List.mem_cons_self hfirst
      | cons d second =>
          rw [List.mem_cons, not_or] at hfirst hsecond
          obtain ⟨hcode, hrest⟩ := List.cons.inj h
          cases hcode
          obtain ⟨rfl, rfl⟩ := ih hfirst.2 hsecond.2 hrest
          exact ⟨rfl, rfl⟩

/-- **A call is read where the name of a verb stands among blanks before a parenthesis.** -/
theorem verbAt?_eq_some_iff {verb : Verb} {lexemes inner : List Lexeme} :
    verbAt? lexemes = some (verb, inner) ↔
      ∃ text, Spells verb text ∧ lexemes = codes text ++ .code '(' :: inner := by
  have hread : ∀ {verb : Verb} {inner : List Lexeme}, verbAt? lexemes = some (verb, inner) →
      ∃ text, Spells verb text ∧ lexemes = codes text ++ .code '(' :: inner := by
    intro verb inner h
    obtain ⟨candidate, -, hcandidate⟩ := List.exists_of_findSome?_eq_some h
    split at hcandidate
    · rename_i behind hbehind
      cases hcandidate
      exact headOf_eq_some_iff.1 hbehind
    · cases hcandidate
  refine ⟨hread, ?_⟩
  rintro ⟨text, hspells, hlexemes⟩
  have hparen : ∀ {verb : Verb} {text : Text}, Spells verb text → '(' ∉ text := by
    intro verb text hspells hmem
    exact absurd (hspells.isHeadPart _ hmem) (by decide)
  cases hfound : verbAt? lexemes with
  | none =>
      have hnone := List.findSome?_eq_none_iff.1 hfound verb verb.mem_all
      simp only [headOf_eq_some_iff.2 ⟨text, hspells, hlexemes⟩] at hnone
      cases hnone
  | some call =>
      -- a verb is read, and no other verb can be
      obtain ⟨text', hspells', hlexemes'⟩ := hread hfound
      rw [hlexemes] at hlexemes'
      obtain ⟨rfl, hinner⟩ := codes_append_cancel (hparen hspells) (hparen hspells') hlexemes'
      rw [hspells.unique hspells', hinner]

/-- The name of a verb and a parenthesis behind it are read back. -/
theorem verbAt?_name (verb : Verb) (rest : List Lexeme) :
    verbAt? (codes verb.name.toList ++ .code '(' :: rest) = some (verb, rest) :=
  verbAt?_eq_some_iff.2 ⟨_, ⟨[], [], rfl, rfl, rfl⟩, by simp⟩

/-! ## Lexemes behind a call -/

theorem verbAt?_append {lexemes inner : List Lexeme} {verb : Verb}
    (h : verbAt? lexemes = some (verb, inner)) (more : List Lexeme) :
    verbAt? (lexemes ++ more) = some (verb, inner ++ more) := by
  obtain ⟨text, hspells, rfl⟩ := verbAt?_eq_some_iff.1 h
  exact verbAt?_eq_some_iff.2 ⟨text, hspells, by simp⟩

/-- Behind a head that more lexemes complete there is nothing but the characters of a head. -/
theorem verbAt?_completed {lexemes more inner : List Lexeme} {verb : Verb}
    (h : verbAt? (lexemes ++ more) = some (verb, inner)) :
    (∃ before, verbAt? lexemes = some (verb, before) ∧ inner = before ++ more) ∨
      ∃ text other, (∀ c ∈ text ++ other, isHeadPart c = true) ∧ lexemes = codes text ∧
        more = codes other ++ .code '(' :: inner := by
  obtain ⟨text, hspells, hlexemes⟩ := verbAt?_eq_some_iff.1 h
  rcases List.append_eq_append_iff.1 hlexemes with ⟨middle, htext, hmore⟩ | ⟨middle, hfront, hrest⟩
  · -- the lexemes end inside the head
    obtain ⟨front, back, rfl, rfl, rfl⟩ := List.map_eq_append_iff.1 htext
    exact .inr ⟨front, back, hspells.isHeadPart, rfl, hmore⟩
  · cases middle with
    | nil =>
        rw [List.append_nil] at hfront
        refine .inr ⟨text, [], ?_, hfront, hrest.symm⟩
        rw [List.append_nil]
        exact hspells.isHeadPart
    | cons first before =>
        obtain ⟨rfl, rfl⟩ := List.cons.inj hrest
        exact .inl ⟨before, verbAt?_eq_some_iff.2 ⟨text, hspells, hfront⟩, rfl⟩

/-- Lexemes that cannot complete the head of a call. -/
def Bars (lexemes : List Lexeme) : Prop :=
  ∀ (text : Text) (inner : List Lexeme), (∀ c ∈ text, isHeadPart c = true) →
    lexemes ≠ codes text ++ .code '(' :: inner

/-- In front of a bar the scan sees the calls that it sees without it. -/
theorem Bars.verbAt?_eq_none {lexemes more : List Lexeme} (hbars : Bars more)
    (h : verbAt? lexemes = none) : verbAt? (lexemes ++ more) = none := by
  cases hcall : verbAt? (lexemes ++ more) with
  | none => rfl
  | some call =>
      rcases verbAt?_completed hcall with ⟨before, hbefore, -⟩ | ⟨text, other, hparts, -, hmore⟩
      · cases h.symm.trans hbefore
      · exact absurd hmore (hbars other call.2 fun c hc => hparts c (List.mem_append_right _ hc))

theorem Bars.callAt?_eq_none {receiver : Option Text} {seen : Text} {gap : Option Text} {c : Char}
    {rest more : List Lexeme} (hbars : Bars more) (h : callAt? receiver seen gap c rest = none) :
    callAt? receiver seen gap c (rest ++ more) = none := by
  rw [Option.eq_none_iff_forall_ne_some] at h ⊢
  rintro ⟨verb, inner⟩ hcall
  obtain ⟨rfl, hverb, hcounts⟩ := callAt?_eq_some_iff.1 hcall
  cases hrest : verbAt? rest with
  | none => cases (hbars.verbAt?_eq_none hrest).symm.trans hverb
  | some call => exact h call (callAt?_eq_some_iff.2 ⟨rfl, hrest, hcounts⟩)

/-- A closed call is found in the same way when more lexemes follow. -/
theorem tokensFrom_call_append {receiver : Option Text} {seen : Text} {gap : Option Text}
    {rest inner inside behind : List Lexeme} {verb : Verb} {start : Int} {offset : Nat}
    (hverb : verbAt? rest = some (verb, inner)) (hcounts : countsFor receiver seen gap = true)
    (hclose : splitAtCloser .round start offset 0 inner = .ok (inside, behind))
    (more : List Lexeme) :
    tokensFrom receiver seen gap (.code '.' :: (rest ++ more)) =
      (tokensFrom receiver ((raw (rest.take (rest.length - behind.length))).reverse ++ '.' :: seen)
        (some []) (behind ++ more)).cons
        { verb := verb, arguments := raw inside, note := note? (behind ++ more) } := by
  have hinner := append_of_splitAtCloser hclose
  have hcloses : Closes 0 (inner ++ more) inside (behind ++ more) := by
    rw [← hinner, List.append_assoc]
    exact closes_of_splitAtCloser hclose (behind ++ more)
  have htake : (rest ++ more).take ((rest ++ more).length - (behind ++ more).length) =
      rest.take (rest.length - behind.length) := by
    rw [List.length_append, List.length_append, Nat.add_sub_add_right,
      List.take_append_of_le_length (Nat.sub_le _ _)]
  rw [tokensFrom_call (verbAt?_append hverb more) hcounts hcloses, htake]

end RouteAtlas.Route
