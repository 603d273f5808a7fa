import RouteAtlas.Proofs.Route.Ownership
import RouteAtlas.Proofs.Router.MountCalls

/-!
# The mounts on a router

Routes and mounts are looked for by two rules. Route calls count when they are calls of the router: made
on it or chained onto a call of it. A mount counts when the identifier before its dot is the name of the
router. The two rules agree on a mount exactly if it is neither chained onto a call of the router nor made
on a member that has the name of the router (`mounts_owned_iff`): the first kind is lost, the second is
taken for a mount on the router.
-/

set_option autoImplicit false

namespace RouteAtlas.Router

open Text Source Route

/-- A lexeme other than a comment that has no dot unless it is one. -/
def hasNoHiddenDot : Lexeme → Bool
  | .code _ => true
  | .literal text => !text.contains '.'
  | .broken text => !text.contains '.'
  | .comment _ => false

/-- A text has no comments, and its literals have no dots. -/
def DotsInCode (span : Text) : Prop := ∀ lexeme ∈ lex span, hasNoHiddenDot lexeme = true

/-- The identifier before a dot is the name of the router, and another dot stands before it. -/
def OnMember (router span : Text) (dot : Nat) : Prop :=
  ∃ before, lastIdentifier? (span.take dot).reverse = some (router, before) ∧
    (before.dropWhile isBlank).head? = some '.'

theorem DotsInCode.no_comment {span : Text} (h : DotsInCode span) (text : Text) :
    Lexeme.comment text ∉ lex span := by
  intro hmem
  cases h _ hmem

/-- Where the dots of literals are missing and comments too, every dot stands in code. -/
theorem DotsInCode.codeAt {span : Text} (h : DotsInCode span) {dot : Nat} (hdot : span[dot]? = some '.') :
    CodeAt span 0 dot '.' := by
  have hlt : dot < (raw (lex span)).length := by
    rw [raw_lex]
    exact (List.getElem?_eq_some_iff.1 hdot).1
  obtain ⟨done, lexeme, rest, hlex, hfrom, hto⟩ := exists_lexeme hlt
  have hinside : '.' ∈ lexeme.raw := by
    have hspan := raw_lex span
    rw [hlex, raw_append, raw_cons] at hspan
    rw [← hspan, List.getElem?_append_right hfrom, List.getElem?_append_left (by omega)] at hdot
    exact List.mem_of_getElem? hdot
  -- the lexeme has a dot in it, so it is the dot itself
  have hmem := h lexeme (by rw [hlex]; simp)
  cases lexeme with
  | code c =>
      obtain rfl := List.mem_singleton.1 hinside
      simp only [Lexeme.raw, List.length_singleton] at hto
      exact codeAt_iff.2 ⟨done, rest, hlex, unbroken_before hlex, by omega⟩
  | literal text =>
      exact absurd hinside (by simpa [hasNoHiddenDot, Lexeme.raw] using hmem)
  | broken text =>
      exact absurd hinside (by simpa [hasNoHiddenDot, Lexeme.raw] using hmem)
  | comment text => cases hmem

/-! ## Receivers -/

/-- The name of a router before a dot is the router itself or a member. -/
theorem isReceiver_iff {router span : Text} {dot : Nat} :
    isReceiver (some router) (span.take dot).reverse = true ↔
      endsWithReceiver router (span.take dot).reverse = true ∨ OnMember router span dot := by
  rw [isReceiver, endsWithReceiver, OnMember]
  cases hlast : lastIdentifier? (span.take dot).reverse with
  | none => simp
  | some found =>
      obtain ⟨name, before⟩ := found
      by_cases hname : name = router
      · subst hname
        by_cases hhead : (before.dropWhile isBlank).head? = some '.'
        · simp [hhead]
        · simp [hhead]
      · simp [hname]

theorem OnMember.not_endsWithReceiver {router span : Text} {dot : Nat} (h : OnMember router span dot) :
    endsWithReceiver router (span.take dot).reverse = false := by
  obtain ⟨before, hlast, hhead⟩ := h
  simp [endsWithReceiver, hlast, hhead]

/-! ## Calls that declare mounts -/

theorem exists_head_of_behindUse? {text inner : Text} (h : behindUse? text = some inner) :
    ∃ head, AmongBlanks "use".toList head ∧ text = head ++ '(' :: inner := by
  rw [behindUse?] at h
  split at h
  · rename_i found hfound
    cases h
    obtain ⟨rest, hname, hrest⟩ := Option.map_eq_some_iff.1 hfound
    have hblanks : ∀ text : Text, isBlankText (text.takeWhile isBlank) = true := fun text =>
      List.all_eq_true.2 fun _ hc => List.mem_takeWhile_imp hc
    refine ⟨_, ⟨text.takeWhile isBlank, rest.takeWhile isBlank, hblanks text, hblanks rest, rfl⟩, ?_⟩
    rw [List.append_assoc, List.append_assoc, ← hrest, trimLeft, List.takeWhile_append_dropWhile,
      append_of_dropStart? hname, trimLeft, List.takeWhile_append_dropWhile]
  · cases h

/-- The arguments of a call are those of the text up to the closer that matches. -/
theorem argumentsAt_eq_ok_iff {start : Nat} {inner : Text} {given : List Text} :
    argumentsAt start inner = .ok given ↔ ∃ inside behind,
      lex inner = inside ++ .code Bracket.round.closer :: behind ∧ Levels .round 0 inside ∧
        arguments (raw inside) = .ok given := by
  rw [argumentsAt]
  cases hsplit : splitAtCloser .round start start 0 (lex inner) with
  | error fault =>
      refine iff_of_false (fun h => nomatch h) ?_
      rintro ⟨inside, behind, hlex, hlevels, -⟩
      cases hsplit.symm.trans (splitAtCloser_eq_ok_iff.2 ⟨hlex, hlevels⟩)
  | ok found =>
      obtain ⟨inside, behind⟩ := found
      obtain ⟨hlex, hlevels⟩ := splitAtCloser_eq_ok_iff.1 hsplit
      constructor
      · intro h
        exact ⟨inside, behind, hlex, hlevels, h⟩
      · rintro ⟨other, more, hlex', hlevels', hgiven⟩
        cases hsplit.symm.trans (splitAtCloser_eq_ok_iff.2 ⟨hlex', hlevels'⟩)
        exact hgiven

/-- A call in code that declares a mount is closed. -/
theorem isCall_of_mountAt? {basePath span : Text} {receiver : Option Text} {dot : Nat} {mount : Mount}
    (hcode : CodeAt span 0 dot '.') (h : mountAt? basePath receiver span dot = some mount) :
    ∃ arguments stop, IsCall span "use".toList dot arguments stop := by
  obtain ⟨rest, inner, given, hdrop, hinner, -, hgiven, -⟩ := mountHere?_eq_some_iff.1 h
  obtain ⟨head, hhead, rfl⟩ := exists_head_of_behindUse? hinner
  obtain ⟨inside, behind, hlex, hlevels, -⟩ := argumentsAt_eq_ok_iff.1 hgiven
  have hbehind : span.drop (dot + 1) = head ++ '(' :: inner := by
    rw [← List.drop_drop, hdrop, List.drop_one, List.tail_cons]
  have hstart : span.drop (dot + 1 + head.length + 1) = inner := by
    rw [← List.drop_drop, ← List.drop_drop, hbehind, List.drop_left, List.drop_one, List.tail_cons]
  have hclosed : delimited span (dot + 1 + head.length + 1) .round =
      .ok ⟨raw inside, dot + 1 + head.length + 1 + (raw inside).length + 1⟩ :=
    delimited_eq_ok_iff.2 ⟨inside, behind, by rw [hstart, hlex], hlevels, rfl, rfl⟩
  exact ⟨raw inside, _, hcode, head, inner, hhead, hbehind, hclosed⟩

/-- **When mounts are attributed as routes are.** In a text without comments and without dots in
literals, the mounts on a router are declared by the calls at its dots, and every route call extracted for
the router is a call of it. A call that declares a mount is taken for the router exactly if it is a call of
the router, unless it is chained onto one or made on a member with the name of the router. -/
theorem mounts_owned_iff {span : Text} (hdots : DotsInCode span) (basePath router : Text) :
    (mounts span basePath (some router)).mounts =
        (List.range span.length).filterMap (mountAt? basePath (some router) span) ∧
      (∀ token ∈ (tokens span (some router)).tokens, ∃ dot stop,
        IsCall span token.verb.name.toList dot token.arguments stop ∧ CallOf router span dot stop) ∧
      ∀ dot mount, mountAt? basePath none span dot = some mount →
        ((mountAt? basePath (some router) span dot = some mount ↔ ∃ stop, CallOf router span dot stop) ↔
          ¬ IsChained router span dot ∧ ¬ OnMember router span dot) := by
  refine ⟨mounts_eq_filterMap span basePath (some router), fun _ => exists_callOf_of_mem_tokens, ?_⟩
  intro dot mount hmount
  have hcode := hdots.codeAt (dot_of_mountAt? hmount)
  obtain ⟨arguments, stop, hcall⟩ := isCall_of_mountAt? hcode hmount
  -- the scan for mounts takes the calls on the router and on members, the rule of routes takes those on
  -- the router and the chained ones
  have hyields : mountAt? basePath (some router) span dot = some mount ↔
      endsWithReceiver router (span.take dot).reverse = true ∨ OnMember router span dot := by
    rw [← isReceiver_iff]
    exact mountHere?_receiver.trans (and_iff_right hmount)
  have howned : (∃ stop, CallOf router span dot stop) ↔
      endsWithReceiver router (span.take dot).reverse = true ∨ IsChained router span dot :=
    ⟨fun ⟨_, hof⟩ => hof.place, fun hplace => ⟨stop, hcall.callOf List.mem_cons_self hplace⟩⟩
  -- no identifier stands before the dot of a chained call, so the two kinds exclude each other
  have hchained : IsChained router span dot → endsWithReceiver router (span.take dot).reverse = false ∧
      ¬ OnMember router span dot := by
    intro h
    have hnone := lastIdentifier?_of_chained hdots.no_comment hcode h
    refine ⟨by rw [endsWithReceiver, hnone], ?_⟩
    rintro ⟨before, hlast, -⟩
    cases hnone.symm.trans hlast
  rw [hyields, howned]
  constructor
  · intro hsame
    constructor
    · intro h
      obtain ⟨hown, hmember⟩ := hchained h
      rcases hsame.2 (.inr h) with hother | hother
      · cases hown.symm.trans hother
      · exact hmember hother
    · intro h
      rcases hsame.1 (.inr h) with hother | hother
      · cases h.not_endsWithReceiver.symm.trans hother
      · exact (hchained hother).2 h
  · rintro ⟨hchain, hmember⟩
    rw [or_iff_left hmember, or_iff_left hchain]

/-! ## A chained mount and a mount on a member -/

/-- Two mounts on a router, the second chained onto the first. -/
def chainedMounts : Text := "r.use('/a', a.routes()).use('/b', b.routes());".toList

/-- A mount on a member that has the name of a router. -/
def memberMount : Text := "other.r.use('/x', x.routes());".toList

theorem dotsInCode_chainedMounts : DotsInCode chainedMounts := by
  unfold DotsInCode
  decide +kernel

theorem dotsInCode_memberMount : DotsInCode memberMount := by
  unfold DotsInCode
  decide +kernel

/-- The first of the two mounts is found as the calls of the router ask for. -/
theorem chainedMounts_owned :
    DotsInCode chainedMounts ∧
      mountAt? [] none chainedMounts 1 = some { router := "a".toList, path := "a".toList } ∧
      ((mountAt? [] (some "r".toList) chainedMounts 1 = some { router := "a".toList, path := "a".toList } ↔
          ∃ stop, CallOf "r".toList chainedMounts 1 stop) ↔
        ¬ IsChained "r".toList chainedMounts 1 ∧ ¬ OnMember "r".toList chainedMounts 1) := by
  have hfirst : mountAt? [] none chainedMounts 1 = some { router := "a".toList, path := "a".toList } := by
    decide +kernel
  exact ⟨dotsInCode_chainedMounts, hfirst,
    (mounts_owned_iff dotsInCode_chainedMounts [] "r".toList).2.2 1 _ hfirst⟩

/-- The chained mount is a call of the router and is lost. The mount on a member is none, and is taken for
one. -/
theorem chained_lost_member_taken :
    (DotsInCode chainedMounts ∧
      mountAt? [] none chainedMounts 23 = some { router := "b".toList, path := "b".toList } ∧
      (∃ stop, CallOf "r".toList chainedMounts 23 stop) ∧
      (mounts chainedMounts [] (some "r".toList)).mounts = [{ router := "a".toList, path := "a".toList }]) ∧
    (DotsInCode memberMount ∧
      mountAt? [] none memberMount 7 = some { router := "x".toList, path := "x".toList } ∧
      (∀ stop, ¬ CallOf "r".toList memberMount 7 stop) ∧
      (mounts memberMount [] (some "r".toList)).mounts = [{ router := "x".toList, path := "x".toList }]) := by
  have hsecond : mountAt? [] none chainedMounts 23 = some { router := "b".toList, path := "b".toList } := by
    decide +kernel
  have hmember : mountAt? [] none memberMount 7 = some { router := "x".toList, path := "x".toList } := by
    decide +kernel
  have hname : "use".toList ∈ callNames := List.mem_cons_self
  refine ⟨⟨dotsInCode_chainedMounts, hsecond, ?_, by decide +kernel⟩,
    ⟨dotsInCode_memberMount, hmember, ?_, by decide +kernel⟩⟩
  · have hclosed : delimited chainedMounts 6 .round = .ok ⟨"'/a', a.routes()".toList, 23⟩ := by
      decide +kernel
    have hcall : IsCall chainedMounts "use".toList 1 "'/a', a.routes()".toList 23 :=
      ⟨by decide +kernel, "use".toList, chainedMounts.drop 6, ⟨[], [], rfl, rfl, rfl⟩, by decide +kernel,
        hclosed⟩
    have hfirst : CallOf "r".toList chainedMounts 1 23 := .own hname hcall (by decide +kernel)
    obtain ⟨arguments, stop, hchained⟩ :=
      isCall_of_mountAt? (dotsInCode_chainedMounts.codeAt (dot_of_mountAt? hsecond)) hsecond
    exact ⟨stop, .chained hname hchained hfirst (Nat.le_refl _) (by decide +kernel)⟩
  · intro stop hof
    have hcode := dotsInCode_memberMount.codeAt (dot_of_mountAt? hmember)
    -- the receiver is a member, and an identifier before the dot rules out a chain
    rcases hof.place with hown | hchained
    · exact absurd hown (by decide +kernel)
    · have hnone := lastIdentifier?_of_chained dotsInCode_memberMount.no_comment hcode hchained
      exact absurd hnone (by decide +kernel)

end RouteAtlas.Router
