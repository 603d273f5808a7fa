import RouteAtlas.Proofs.Route.Calls
import RouteAtlas.Proofs.Source.Gaps
import RouteAtlas.Proofs.Source.Matching

/-!
# The calls of a router

A call belongs to a router when it is made on the router itself, which is not a member of something else,
or when it is chained onto a call that belongs to it, with nothing but blanks and comments between
(`CallOf`). Every route call that is extracted for a router is a call of the router
(`exists_callOf_of_mem_tokens`). In a text without comments no identifier stands before the dot of a
chained call (`lastIdentifier?_of_chained`).
-/

set_option autoImplicit false

namespace RouteAtlas.Route

open Text Source

/-- A name with blanks around it. -/
def AmongBlanks (name text : Text) : Prop :=
  ∃ before behind, isBlankText before = true ∧ isBlankText behind = true ∧ text = before ++ name ++ behind

/-- A closed call: a dot in code, a name among blanks, and arguments in parentheses that end before an
offset. -/
structure IsCall (span name : Text) (dot : Nat) (arguments : Text) (stop : Nat) : Prop where
  code : CodeAt span 0 dot '.'
  closed : ∃ head rest, AmongBlanks name head ∧ span.drop (dot + 1) = head ++ '(' :: rest ∧
    delimited span (dot + 1 + head.length + 1) .round = .ok ⟨arguments, stop⟩

/-- The names of the calls that a router has: mounts and routes. -/
def callNames : List Text := "use".toList :: Verb.all.map fun verb => verb.name.toList

/-- The calls of a router, each with its dot and the offset behind it. -/
inductive CallOf (router span : Text) : Nat → Nat → Prop where
  | own {name arguments : Text} {dot stop : Nat} : name ∈ callNames →
      IsCall span name dot arguments stop → endsWithReceiver router (span.take dot).reverse = true →
      CallOf router span dot stop
  | chained {name arguments : Text} {previous middle dot stop : Nat} : name ∈ callNames →
      IsCall span name dot arguments stop → CallOf router span previous middle → middle ≤ dot →
      isChainGap (stretch span middle dot).reverse = true → CallOf router span dot stop

/-- A call of a router ends right before a dot, but for blanks and comments. -/
def IsChained (router span : Text) (dot : Nat) : Prop :=
  ∃ previous middle, CallOf router span previous middle ∧ middle ≤ dot ∧
    isChainGap (stretch span middle dot).reverse = true

theorem verb_mem_callNames (verb : Verb) : verb.name.toList ∈ callNames :=
  List.mem_cons_of_mem _ (List.mem_map_of_mem verb.mem_all)

/-- A closed call that stands on a router or is chained onto one of its calls is a call of it. -/
theorem IsCall.callOf {router span name arguments : Text} {dot stop : Nat}
    (h : IsCall span name dot arguments stop) (hname : name ∈ callNames)
    (hplace : endsWithReceiver router (span.take dot).reverse = true ∨ IsChained router span dot) :
    CallOf router span dot stop := by
  rcases hplace with hown | ⟨previous, middle, hprevious, hle, hgap⟩
  · exact .own hname h hown
  · exact .chained hname h hprevious hle hgap

theorem CallOf.place {router span : Text} {dot stop : Nat} (h : CallOf router span dot stop) :
    endsWithReceiver router (span.take dot).reverse = true ∨ IsChained router span dot := by
  cases h with
  | own _ _ hown => exact .inl hown
  | chained _ _ hprevious hle hgap => exact .inr ⟨_, _, hprevious, hle, hgap⟩

theorem CallOf.isCall {router span : Text} {dot stop : Nat} (h : CallOf router span dot stop) :
    ∃ name ∈ callNames, ∃ arguments, IsCall span name dot arguments stop := by
  cases h with
  | own hname hcall _ => exact ⟨_, hname, _, hcall⟩
  | chained hname hcall _ _ _ => exact ⟨_, hname, _, hcall⟩

/-! ## Calls among the lexemes -/

theorem all_isPlain_of_amongBlanks {name head : Text} (hname : name ∈ callNames)
    (h : AmongBlanks name head) : head.all isPlain = true := by
  have hnames : ∀ name ∈ callNames, name.all isPlain = true := by decide
  obtain ⟨before, behind, hbefore, hbehind, rfl⟩ := h
  have hblanks : ∀ {blanks : Text}, isBlankText blanks = true → blanks.all isPlain = true := by
    intro blanks hblanks
    exact List.all_eq_true.2 fun c hc => isPlain_of_isBlank (List.all_eq_true.1 hblanks c hc)
  rw [List.all_append, List.all_append, hblanks hbefore, hblanks hbehind, hnames name hname]
  rfl

/-- The lexemes of a call behind its dot, up to its closer. -/
def callLexemes (head : Text) (inside : List Lexeme) : List Lexeme :=
  codes head ++ .code '(' :: (inside ++ [.code ')'])

/-- **The call that the scan passes over**: its receiver counts, and from its dot to its closer it is a verb
and its arguments in brackets. -/
theorem scanned_call {receiver : Option Text} {seen : Text} {gap : Option Text} {c : Char}
    {rest inner inside behind : List Lexeme} {verb : Verb} {start : Int} {offset : Nat}
    (hcall : callAt? receiver seen gap c rest = some (verb, inner))
    (hclose : splitAtCloser .round start offset 0 inner = .ok (inside, behind)) :
    c = '.' ∧ countsFor receiver seen gap = true ∧ ∃ head, Spells verb head ∧ Levels .round 0 inside ∧
      rest = callLexemes head inside ++ behind ∧
      rest.take (rest.length - behind.length) = callLexemes head inside := by
  obtain ⟨rfl, hverb, hcounts⟩ := callAt?_eq_some_iff.1 hcall
  obtain ⟨head, hhead, rfl⟩ := verbAt?_eq_some_iff.1 hverb
  obtain ⟨rfl, hlevels⟩ := splitAtCloser_eq_ok_iff.1 hclose
  have hrest : codes head ++ .code '(' :: (inside ++ .code Bracket.round.closer :: behind) =
      callLexemes head inside ++ behind := by
    simp [callLexemes, Bracket.closer]
  refine ⟨rfl, hcounts, head, hhead, hlevels, hrest, ?_⟩
  rw [hrest, List.length_append, Nat.add_sub_cancel, List.take_left]

theorem length_raw_call (done : List Lexeme) (head : Text) (inside : List Lexeme) :
    (raw (done ++ .code '.' :: callLexemes head inside)).length =
      (raw done).length + 1 + head.length + 1 + (raw inside).length + 1 := by
  have hempty : (raw []).length = 0 := rfl
  simp only [callLexemes, raw_append, raw_cons, raw_codes, Lexeme.raw, List.length_append,
    List.length_singleton, hempty]
  omega

theorem unbroken_call {done inside : List Lexeme} (hdone : Unbroken done) (hinside : Unbroken inside)
    (head : Text) : Unbroken (done ++ .code '.' :: callLexemes head inside) := by
  have hcodes : Unbroken (codes head) := by simp [Unbroken, codes, Lexeme.isBroken]
  have hcloser : Unbroken [.code ')'] := by simp [Unbroken, Lexeme.isBroken]
  have hcall : Unbroken (callLexemes head inside) :=
    unbroken_append.2 ⟨hcodes, unbroken_cons.2 ⟨rfl, unbroken_append.2 ⟨hinside, hcloser⟩⟩⟩
  exact unbroken_append.2 ⟨hdone, unbroken_cons.2 ⟨rfl, hcall⟩⟩

/-- A closed call among the lexemes of a text: a dot, its head, and the arguments between parentheses that
match. -/
theorem IsCall.exists_lexemes {span name arguments : Text} {dot stop : Nat} (hname : name ∈ callNames)
    (h : IsCall span name dot arguments stop) : ∃ done head inside behind,
      lex span = (done ++ .code '.' :: callLexemes head inside) ++ behind ∧ AmongBlanks name head ∧
        Levels .round 0 inside ∧ arguments = raw inside ∧ dot = (raw done).length ∧
        stop = (raw (done ++ .code '.' :: callLexemes head inside)).length := by
  obtain ⟨hcode, head, rest, hhead, hdrop, hclosed⟩ := h
  obtain ⟨done, hlex, rfl⟩ := hcode.exists_lex
  obtain ⟨inside, behind, hinside, hlevels, rfl, rfl⟩ := delimited_eq_ok_iff.1 hclosed
  have hrest : span.drop ((raw done).length + 1 + head.length + 1) = rest := by
    rw [← List.drop_drop, ← List.drop_drop, hdrop, List.drop_left, List.drop_one, List.tail_cons]
  -- behind the dot stand the head, which is plain, and then what is delimited
  rw [hdrop, lex_append_plain (all_isPlain_of_amongBlanks hname hhead), lex_cons_plain (by decide),
    ← hrest, hinside] at hlex
  refine ⟨done, head, inside, behind, ?_, hhead, hlevels, rfl, rfl, (length_raw_call done head inside).symm⟩
  rw [hlex]
  simp [callLexemes, Bracket.closer]

/-- Lexemes of this form are a closed call. -/
theorem isCall_of_lexemes {span name head : Text} {done inside behind : List Lexeme}
    (hlex : lex span = (done ++ .code '.' :: callLexemes head inside) ++ behind) (hdone : Unbroken done)
    (hhead : AmongBlanks name head) (hinside : Levels .round 0 inside) :
    IsCall span name (raw done).length (raw inside)
      (raw (done ++ .code '.' :: callLexemes head inside)).length := by
  have hdot : lex (span.drop 0) = (done ++ [.code '.']) ++
      (codes head ++ .code '(' :: (inside ++ .code Bracket.round.closer :: behind)) := by
    rw [List.drop_zero, hlex]
    simp [callLexemes, Bracket.closer]
  have hopener : lex (span.drop 0) = (done ++ .code '.' :: (codes head ++ [.code '('])) ++
      (inside ++ .code Bracket.round.closer :: behind) := by
    rw [hdot]
    simp
  have hstart : 0 + (raw (done ++ .code '.' :: (codes head ++ [.code '(']))).length =
      (raw done).length + 1 + head.length + 1 := by
    have hempty : (raw []).length = 0 := rfl
    simp only [raw_append, raw_cons, raw_codes, Lexeme.raw, List.length_append, List.length_singleton,
      hempty]
    omega
  have hbehind := drop_of_lex hdot
  rw [Nat.zero_add, length_raw_concat, raw_append, raw_codes, raw_cons] at hbehind
  have hcode : CodeAt span 0 (raw done).length '.' := by
    rw [List.append_assoc, List.singleton_append] at hdot
    exact codeAt_iff.2 ⟨done, _, hdot, hdone, (Nat.zero_add _).symm⟩
  refine ⟨hcode, head, _, hhead, hbehind, ?_⟩
  rw [delimited_eq_ok_iff, ← hstart]
  refine ⟨inside, behind, lex_drop hopener, hinside, rfl, ?_⟩
  rw [length_raw_call, hstart]

/-- A closed call ends between two lexemes, behind its closer. -/
theorem IsCall.ends {span name arguments : Text} {dot stop : Nat} (hname : name ∈ callNames)
    (h : IsCall span name dot arguments stop) :
    stop ∈ seams span ∧ ∃ before, span.take stop = before ++ [')'] := by
  obtain ⟨done, head, inside, behind, hlex, -, -, -, -, rfl⟩ := h.exists_lexemes hname
  refine ⟨mem_seams_iff.2 ⟨_, _, hlex, rfl⟩, raw (done ++ .code '.' :: (codes head ++ .code '(' :: inside)), ?_⟩
  have hcloser : done ++ .code '.' :: callLexemes head inside =
      (done ++ .code '.' :: (codes head ++ .code '(' :: inside)) ++ [.code ')'] := by
    simp [callLexemes]
  rw [take_of_lex hlex, hcloser, raw_append]
  rfl

/-- In a text without comments nothing but blanks stands in a gap between two lexemes. -/
theorem isBlankText_of_isChainGap {span : Text} {start stop : Nat}
    (hcomments : ∀ text, Lexeme.comment text ∉ lex span) (hstart : start ∈ seams span)
    (hstop : stop ∈ seams span) (hle : start ≤ stop)
    (h : isChainGap (stretch span start stop).reverse = true) :
    isBlankText (stretch span start stop) = true := by
  obtain ⟨gap, rest, hgap, hlength⟩ := exists_between_seams hstart hstop hle
  have hstretch : stretch span start stop = raw gap := by
    rw [stretch, ← take_drop_of_lex hgap, hlength, show start + (stop - start) = stop by omega]
  obtain ⟨done, behind, hlex, rfl⟩ := mem_seams_iff.1 hstart
  have hbehind : lex (span.drop (raw done).length) = behind := by
    have hdrop : lex (span.drop 0) = done ++ behind := hlex
    simpa using lex_drop hdrop
  -- read by itself the gap has the lexemes it has in the span, and no comment is among them
  have hgapComments : ∀ text, Lexeme.comment text ∉ lex (raw gap) := by
    intro text hmem
    rw [ lex_raw_of_prefix ⟨rest, hgap.symm⟩] at hmem
    refine hcomments text ?_
    rw [hlex, ← hbehind, hgap]
    exact List.mem_append_right _ (List.mem_append_left _ hmem)
  rw [isChainGap, List.reverse_reverse, hstretch] at h
  rw [hstretch]
  exact isBlankText_of_noComment hgapComments h

/-- **No identifier stands before the dot of a chained call** in a text without comments: the closer of
the call before it does. -/
theorem lastIdentifier?_of_chained {router span : Text} {dot : Nat}
    (hcomments : ∀ text, Lexeme.comment text ∉ lex span) (hdot : CodeAt span 0 dot '.')
    (h : IsChained router span dot) : lastIdentifier? (span.take dot).reverse = none := by
  obtain ⟨previous, middle, hprevious, hle, hgap⟩ := h
  obtain ⟨name, hname, arguments, hcall⟩ := hprevious.isCall
  obtain ⟨hmiddle, before, hbefore⟩ := hcall.ends hname
  obtain ⟨done, hdone, rfl⟩ := hdot.exists_lex
  have hblank := isBlankText_of_isChainGap hcomments hmiddle (mem_seams_iff.2 ⟨_, _, hdone, rfl⟩) hle hgap
  have htake : span.take (raw done).length = before ++ [')'] ++ stretch span middle (raw done).length := by
    rw [← hbefore]
    exact stretch_append (Nat.zero_le middle) hle
  have hblanks : ∀ c ∈ (stretch span middle (raw done).length).reverse, isBlank c = true := fun c hc =>
    List.all_eq_true.1 hblank c (List.mem_reverse.1 hc)
  have hdrop : (span.take (raw done).length).reverse.dropWhile isBlank = ')' :: before.reverse := by
    rw [htake, List.reverse_append, List.reverse_concat, List.dropWhile_append_of_pos hblanks]
    rfl
  rw [lastIdentifier?, hdrop]
  rfl

/-! ## Extracted calls -/

/-- The extraction stands between two lexemes of a span: what is done and what is left make up the span,
what is kept of the text is the text before, and the gap starts behind a call of the router. -/
structure StandsAt (router span seen : Text) (gap : Option Text) (done rest : List Lexeme) : Prop where
  lexed : lex span = done ++ rest
  whole : Unbroken done
  before : seen = (raw done).reverse
  since : ∀ text ∈ gap, ∃ dot stop, CallOf router span dot stop ∧ stop ≤ (raw done).length ∧
    text = (stretch span stop (raw done).length).reverse

section

variable {router span seen : Text} {gap : Option Text} {done rest : List Lexeme}

theorem standsAt_start (router span : Text) : StandsAt router span [] none [] (lex span) :=
  ⟨rfl, by simp [Unbroken], rfl, by simp⟩

/-- A lexeme that is passed goes over from what is left to what is done. -/
theorem StandsAt.pass {lexeme : Lexeme} (h : StandsAt router span seen gap done (lexeme :: rest))
    (hlexeme : lexeme.isBroken = false) :
    StandsAt router span (lexeme.raw.reverse ++ seen) (gap.map (lexeme.raw.reverse ++ ·))
      (done ++ [lexeme]) rest := by
  have hraw : raw [lexeme] = lexeme.raw := List.append_nil _
  have hlex : lex span = (done ++ [lexeme]) ++ rest := by
    rw [h.lexed]
    simp
  have hlonger : (raw done).length ≤ (raw (done ++ [lexeme])).length := by
    rw [length_raw_concat]
    omega
  refine ⟨hlex, unbroken_append.2 ⟨h.whole, unbroken_cons.2 ⟨hlexeme, by simp [Unbroken]⟩⟩, ?_, ?_⟩
  · rw [h.before, raw_append, hraw, List.reverse_append]
  · -- the gap grows by the lexeme and still starts behind the same call
    intro text htext
    obtain ⟨earlier, hearlier, rfl⟩ := Option.map_eq_some_iff.1 htext
    obtain ⟨dot, stop, hcall, hle, rfl⟩ := h.since earlier hearlier
    refine ⟨dot, stop, hcall, hle.trans hlonger, ?_⟩
    rw [stretch_append hle hlonger, stretch_of_lex hlex, hraw, List.reverse_append]

/-- What counts for the router is made on the router or chained onto a call of it. -/
theorem StandsAt.place (h : StandsAt router span seen gap done rest)
    (hcounts : countsFor (some router) seen gap = true) :
    endsWithReceiver router (span.take (raw done).length).reverse = true ∨
      IsChained router span (raw done).length := by
  rw [take_of_lex h.lexed, ← h.before]
  rw [countsFor, Bool.or_eq_true] at hcounts
  rcases hcounts with hgap | hown
  · cases gap with
    | none => cases hgap
    | some text =>
        obtain ⟨dot, stop, hcall, hle, rfl⟩ := h.since text rfl
        exact .inr ⟨dot, stop, hcall, hle, hgap⟩
  · exact .inl hown

/-- A closed call that counts is a call of the router, and the gap starts anew behind it. -/
theorem StandsAt.call {verb : Verb} {head : Text} {inside behind : List Lexeme}
    (h : StandsAt router span seen gap done (.code '.' :: (callLexemes head inside ++ behind)))
    (hcounts : countsFor (some router) seen gap = true) (hhead : Spells verb head)
    (hinside : Levels .round 0 inside) :
    (∃ dot stop, IsCall span verb.name.toList dot (raw inside) stop ∧ CallOf router span dot stop) ∧
      StandsAt router span ((raw (callLexemes head inside)).reverse ++ '.' :: seen) (some [])
        (done ++ .code '.' :: callLexemes head inside) behind := by
  have hlex : lex span = (done ++ .code '.' :: callLexemes head inside) ++ behind := by
    rw [h.lexed]
    simp
  have hcall := isCall_of_lexemes hlex h.whole hhead hinside
  have hof := hcall.callOf (verb_mem_callNames verb) (h.place hcounts)
  refine ⟨⟨_, _, hcall, hof⟩, hlex, unbroken_call h.whole hinside.whole head, ?_, ?_⟩
  · rw [h.before]
    simp [raw_append, raw_cons, Lexeme.raw]
  · rintro text htext
    cases htext
    exact ⟨_, _, hof, Nat.le_refl _, by simp [stretch]⟩

theorem exists_callOf_of_mem_tokensFrom (h : StandsAt router span seen gap done rest) :
    ∀ token ∈ (tokensFrom (some router) seen gap rest).tokens, ∃ dot stop,
      IsCall span token.verb.name.toList dot token.arguments stop ∧ CallOf router span dot stop := by
  -- along the scan: what is passed keeps the state, and a call that counts starts a new gap
  fun_induction tokensFrom (some router) seen gap rest generalizing done with
  | case1 => simp
  | case2 => simp
  | case3 seen gap text rest ih =>
      simp only [List.unattach_reverse, List.unattach_attach] at ih
      simpa using ih (h.pass rfl)
  | case4 seen gap text rest ih =>
      simp only [List.unattach_reverse, List.unattach_attach] at ih
      simpa using ih (h.pass rfl)
  | case5 seen gap c rest hnone ih => exact ih (h.pass rfl)
  | case6 => simp
  | case7 seen gap c rest verb inner hcall start inside behind hclose call =>
      rename_i ih
      obtain ⟨rfl, hcounts, head, hhead, hlevels, hrest, htaken⟩ := scanned_call hcall hclose
      -- the state behind the call is the one the scan goes on with
      rw [hrest] at h
      obtain ⟨hfound, hstands⟩ := h.call hcounts hhead hlevels
      intro token htoken
      rcases List.mem_cons.1 htoken with rfl | htoken
      · exact hfound
      · rw [← htaken] at hstands
        exact ih hstands token htoken

/-- **Every route call that is extracted for a router is a call of it.** -/
theorem exists_callOf_of_mem_tokens {token : Token}
    (h : token ∈ (tokens span (some router)).tokens) : ∃ dot stop,
      IsCall span token.verb.name.toList dot token.arguments stop ∧ CallOf router span dot stop :=
  exists_callOf_of_mem_tokensFrom (standsAt_start router span) token h

end

end RouteAtlas.Route
