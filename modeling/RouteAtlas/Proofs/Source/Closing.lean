import RouteAtlas.Proofs.Source.Cutting
import RouteAtlas.Source.Arguments
import RouteAtlas.Source.Standing
import Mathlib.Data.List.Induction

/-!
# Matching closers

Code positions are the offsets at which a code character stands when every literal and comment from some
offset on is skipped whole. The closer that matches the bracket opened before that offset is the first
code position at which the closers of its kind outnumber the openers, and nothing is found where there is
none (`delimited_closes`). What is found depends on the text up to the closer only, and the content has
the same lexemes by itself as in its place, so an argument list made of it has no open literal.
-/

set_option autoImplicit false

namespace RouteAtlas.Source

open Text

/-! ## Code positions -/

/-- The offsets reached from a first one on when every literal and comment is skipped whole. -/
inductive Reached (text : Text) (start : Nat) : Nat → Prop where
  | start : Reached text start start
  | pass {offset : Nat} : Reached text start offset → standingFromStart text offset = .code →
      Reached text start (offset + 1)
  | skip {offset behind : Nat} : Reached text start offset →
      standingFromStart text offset = .skipped behind → Reached text start behind

/-- A code character stands at an offset that is reached. -/
structure CodeAt (text : Text) (start offset : Nat) (c : Char) : Prop where
  reached : Reached text start offset
  code : standingFromStart text offset = .code
  char : text[offset]? = some c

/-- The code characters of lexemes with their offsets, up to a literal that is never closed. -/
def marksFrom (offset : Nat) : List Lexeme → List (Nat × Char)
  | [] => []
  | .code c :: rest => (offset, c) :: marksFrom (offset + 1) rest
  | .literal raw :: rest => marksFrom (offset + raw.length) rest
  | .comment raw :: rest => marksFrom (offset + raw.length) rest
  | .broken _ :: _ => []

/-- The code positions from an offset on, with their characters. -/
def codeMarks (text : Text) (start : Nat) : List (Nat × Char) := marksFrom start (lex (text.drop start))

/-- How often a character stands at the code positions before an offset. -/
def codeCount (text : Text) (start stop : Nat) (c : Char) : Nat :=
  (codeMarks text start).countP fun mark => mark.1 < stop && mark.2 == c

/-- The closer at an offset matches the bracket opened before another one: up to it openers and closers
are balanced, and at no code position before it do the closers outnumber the openers. -/
structure ClosesAt (text : Text) (start : Nat) (bracket : Bracket) (offset : Nat) : Prop where
  code : CodeAt text start offset bracket.closer
  balanced : codeCount text start offset bracket.closer = codeCount text start offset bracket.opener
  first : ∀ earlier c, CodeAt text start earlier c → earlier < offset →
    codeCount text start (earlier + 1) bracket.closer ≤ codeCount text start (earlier + 1) bracket.opener

/-! ## Lexemes at their offsets -/

/-- A lexeme is a literal that is never closed. -/
def Lexeme.isBroken : Lexeme → Bool
  | .broken _ => true
  | _ => false

/-- No literal among lexemes is left open. -/
def Unbroken (lexemes : List Lexeme) : Prop := ∀ lexeme ∈ lexemes, lexeme.isBroken = false

theorem unbroken_cons {lexeme : Lexeme} {rest : List Lexeme} :
    Unbroken (lexeme :: rest) ↔ lexeme.isBroken = false ∧ Unbroken rest := List.forall_mem_cons

theorem unbroken_append {first rest : List Lexeme} :
    Unbroken (first ++ rest) ↔ Unbroken first ∧ Unbroken rest := List.forall_mem_append

/-- What a lexeme is for a reader who comes to it at an offset. -/
def Lexeme.standing (offset : Nat) : Lexeme → Standing
  | .code _ => .code
  | .literal raw => .skipped (offset + raw.length)
  | .comment raw => .skipped (offset + raw.length)
  | .broken _ => .broken (.unterminated offset)

theorem standingFromStart_eq {text : Text} {offset : Nat} {lexeme : Lexeme} {rest : List Lexeme}
    (h : lex (text.drop offset) = lexeme :: rest) :
    standingFromStart text offset = lexeme.standing offset := by
  unfold standingFromStart
  cases hdrop : text.drop offset with
  | nil =>
      rw [hdrop, lex] at h
      cases h
  | cons c inner =>
      rw [hdrop, lex_cons, List.cons.injEq] at h
      obtain ⟨rfl, -⟩ := h
      simp only
      cases (next c inner).1 with
      | _ => rfl

theorem standingFromStart_outside {text : Text} {offset : Nat} (h : lex (text.drop offset) = []) :
    standingFromStart text offset = .outside := by
  rw [standingFromStart]
  cases hdrop : text.drop offset with
  | nil => rfl
  | cons c inner =>
      rw [hdrop, lex_cons] at h
      cases h

theorem drop_of_lex {text : Text} {start : Nat} {done rest : List Lexeme}
    (h : lex (text.drop start) = done ++ rest) : text.drop (start + (raw done).length) = raw rest := by
  rw [← List.drop_drop, ← raw_lex (text.drop start), h, raw_append, List.drop_left]

theorem lex_drop {text : Text} {start : Nat} {done rest : List Lexeme}
    (h : lex (text.drop start) = done ++ rest) :
    lex (text.drop (start + (raw done).length)) = rest := by
  rw [drop_of_lex h]
  exact lex_raw_of_suffix ⟨done, h.symm⟩

theorem length_raw_concat (done : List Lexeme) (lexeme : Lexeme) :
    (raw (done ++ [lexeme])).length = (raw done).length + lexeme.raw.length := by
  rw [raw_append, List.length_append]
  simp [raw]

/-- Behind a lexeme that is reached stands the next one, unless the lexeme is a literal that is never
closed. -/
theorem Reached.next {text : Text} {start offset : Nat} {lexeme : Lexeme} {rest : List Lexeme}
    (h : Reached text start offset) (hlex : lex (text.drop offset) = lexeme :: rest)
    (hwhole : lexeme.isBroken = false) : Reached text start (offset + lexeme.raw.length) := by
  have hstanding := standingFromStart_eq hlex
  cases lexeme with
  | code c => exact h.pass hstanding
  | literal text => exact h.skip (by rw [hstanding]; rfl)
  | comment text => exact h.skip (by rw [hstanding]; rfl)
  | broken text => cases hwhole

/-- An offset lies between two lexemes of the text from another one on, behind no broken literal. -/
def Between (text : Text) (start offset : Nat) : Prop :=
  ∃ done rest, lex (text.drop start) = done ++ rest ∧ Unbroken done ∧ offset = start + (raw done).length

/-- What stands between two lexemes leads over the second one. -/
theorem Between.next {text : Text} {start offset behind : Nat} (h : Between text start offset)
    (hbehind : standingFromStart text offset = .code ∧ behind = offset + 1 ∨
      standingFromStart text offset = .skipped behind) : Between text start behind := by
  obtain ⟨done, rest, hlex, hdone, rfl⟩ := h
  cases rest with
  | nil => simp [standingFromStart_outside (lex_drop hlex)] at hbehind
  | cons lexeme rest =>
      rw [standingFromStart_eq (lex_drop hlex)] at hbehind
      have hnext : lexeme.isBroken = false ∧
          behind = start + (raw done).length + lexeme.raw.length := by
        cases lexeme with
        | code c => exact ⟨rfl, by simpa [Lexeme.standing, Lexeme.raw] using hbehind⟩
        | broken text => simp [Lexeme.standing] at hbehind
        | _ =>
            simp only [Lexeme.standing, reduceCtorEq, false_and, Standing.skipped.injEq,
              false_or] at hbehind
            exact ⟨rfl, by simp only [Lexeme.raw]; omega⟩
      refine ⟨done ++ [lexeme], rest, by rw [hlex, List.append_assoc]; rfl, ?_, ?_⟩
      · exact unbroken_append.2 ⟨hdone, unbroken_cons.2 ⟨hnext.1, by simp [Unbroken]⟩⟩
      · rw [length_raw_concat, ← Nat.add_assoc]
        exact hnext.2

/-- **The offsets that are reached are those between two lexemes**, up to a literal that is never
closed. -/
theorem reached_iff_between {text : Text} {start offset : Nat} :
    Reached text start offset ↔ Between text start offset := by
  constructor
  · intro h
    induction h with
    | start => exact ⟨[], _, rfl, by simp [Unbroken], rfl⟩
    | pass _ hcode ih => exact ih.next (.inl ⟨hcode, rfl⟩)
    | skip _ hskip ih => exact ih.next (.inr hskip)
  · rintro ⟨done, rest, hlex, hdone, rfl⟩
    induction done using List.reverseRecOn generalizing rest with
    | nil => exact .start
    | append_singleton done lexeme ih =>
        rw [List.append_assoc] at hlex
        obtain ⟨hdone, hlexeme⟩ := unbroken_append.1 hdone
        rw [length_raw_concat, ← Nat.add_assoc]
        exact (ih _ hlex hdone).next (lex_drop hlex) (unbroken_cons.1 hlexeme).1

/-- **A code position is the place of a code lexeme.** -/
theorem codeAt_iff {text : Text} {start offset : Nat} {c : Char} :
    CodeAt text start offset c ↔ ∃ done rest, lex (text.drop start) = done ++ .code c :: rest ∧
      Unbroken done ∧ offset = start + (raw done).length := by
  constructor
  · rintro ⟨hreached, hcode, hchar⟩
    obtain ⟨done, rest, hlex, hdone, rfl⟩ := reached_iff_between.1 hreached
    cases rest with
    | nil =>
        rw [standingFromStart_outside (lex_drop hlex)] at hcode
        cases hcode
    | cons lexeme rest =>
        rw [standingFromStart_eq (lex_drop hlex)] at hcode
        cases lexeme with
        | code d =>
            rw [← List.head?_drop, drop_of_lex hlex, raw_cons] at hchar
            cases hchar
            exact ⟨done, rest, hlex, hdone, rfl⟩
        | _ => cases hcode
  · rintro ⟨done, rest, hlex, hdone, rfl⟩
    refine ⟨reached_iff_between.2 ⟨done, _, hlex, hdone, rfl⟩, standingFromStart_eq (lex_drop hlex), ?_⟩
    rw [← List.head?_drop, drop_of_lex hlex, raw_cons]
    rfl

/-! ## Counting -/

/-- The code characters of lexemes. -/
def codeText (lexemes : List Lexeme) : Text :=
  lexemes.filterMap fun
    | .code c => some c
    | _ => none

theorem codeText_append (first rest : List Lexeme) :
    codeText (first ++ rest) = codeText first ++ codeText rest := List.filterMap_append

theorem marksFrom_append {first : List Lexeme} (h : Unbroken first) (offset : Nat)
    (rest : List Lexeme) :
    marksFrom offset (first ++ rest) =
      marksFrom offset first ++ marksFrom (offset + (raw first).length) rest := by
  induction first generalizing offset with
  | nil => rfl
  | cons lexeme first ih =>
      obtain ⟨hlexeme, hfirst⟩ := unbroken_cons.1 h
      cases lexeme with
      | broken text => cases hlexeme
      | _ => simp [marksFrom, ih hfirst, raw_cons, Lexeme.raw, Nat.add_assoc, Nat.add_comm 1]

/-- The code characters of lexemes stand within the text of the lexemes. -/
theorem marksFrom_bounds {lexemes : List Lexeme} {offset : Nat} {mark : Nat × Char}
    (h : mark ∈ marksFrom offset lexemes) :
    offset ≤ mark.1 ∧ mark.1 < offset + (raw lexemes).length := by
  induction lexemes generalizing offset with
  | nil => cases h
  | cons lexeme rest ih =>
      cases lexeme with
      | code c =>
          rw [marksFrom, List.mem_cons] at h
          rw [raw_cons, List.length_append]
          rcases h with rfl | h
          · simp only [Lexeme.raw, List.length_cons, List.length_nil]
            omega
          · have := ih h
            simp only [Lexeme.raw, List.length_cons, List.length_nil]
            omega
      | broken text => cases h
      | _ =>
          rw [marksFrom] at h
          have := ih h
          simp only [raw_cons, Lexeme.raw, List.length_append]
          omega

theorem mem_marksFrom_iff {lexemes : List Lexeme} {start offset : Nat} {c : Char} :
    (offset, c) ∈ marksFrom start lexemes ↔ ∃ done rest, lexemes = done ++ .code c :: rest ∧
      Unbroken done ∧ offset = start + (raw done).length := by
  constructor
  · intro h
    induction lexemes generalizing start with
    | nil => cases h
    | cons lexeme rest ih =>
        cases lexeme with
        | code d =>
            rw [marksFrom, List.mem_cons] at h
            rcases h with heq | h
            · cases heq
              exact ⟨[], rest, rfl, by simp [Unbroken], rfl⟩
            · obtain ⟨done, behind, rfl, hdone, rfl⟩ := ih h
              exact ⟨.code d :: done, behind, rfl, unbroken_cons.2 ⟨rfl, hdone⟩, by
                simp only [raw_cons, Lexeme.raw, List.length_append, List.length_singleton]
                omega⟩
        | broken text => cases h
        | _ =>
            obtain ⟨done, behind, rfl, hdone, rfl⟩ := ih h
            exact ⟨_ :: done, behind, rfl, unbroken_cons.2 ⟨rfl, hdone⟩, by
              simp only [raw_cons, Lexeme.raw, List.length_append]
              omega⟩
  · rintro ⟨done, rest, rfl, hdone, rfl⟩
    rw [marksFrom_append hdone]
    exact List.mem_append_right _ List.mem_cons_self

/-- **The code positions are the ones listed.** -/
theorem mem_codeMarks_iff {text : Text} {start offset : Nat} {c : Char} :
    (offset, c) ∈ codeMarks text start ↔ CodeAt text start offset c :=
  mem_marksFrom_iff.trans codeAt_iff.symm

instance (text : Text) (start offset : Nat) (c : Char) : Decidable (CodeAt text start offset c) :=
  decidable_of_iff _ mem_codeMarks_iff

theorem countP_marksFrom {lexemes : List Lexeme} (h : Unbroken lexemes) (offset : Nat) (c : Char) :
    (marksFrom offset lexemes).countP (fun mark => mark.2 == c) = (codeText lexemes).count c := by
  induction lexemes generalizing offset with
  | nil => rfl
  | cons lexeme rest ih =>
      obtain ⟨hlexeme, hrest⟩ := unbroken_cons.1 h
      cases lexeme with
      | broken text => cases hlexeme
      | code d => simp [marksFrom, codeText, List.countP_cons, List.count_cons, ih hrest]
      | _ => simpa [marksFrom, codeText] using ih hrest _

/-- **Up to a place between two lexemes, code positions are counted by the lexemes before it.** -/
theorem codeCount_eq {text : Text} {start : Nat} {done rest : List Lexeme}
    (h : lex (text.drop start) = done ++ rest) (hdone : Unbroken done) (c : Char) :
    codeCount text start (start + (raw done).length) c = (codeText done).count c := by
  rw [codeCount, codeMarks, h, marksFrom_append hdone, List.countP_append]
  have hbefore : ∀ mark ∈ marksFrom start done,
      (decide (mark.1 < start + (raw done).length) && mark.2 == c) = (mark.2 == c) := by
    intro mark hmark
    simp [(marksFrom_bounds hmark).2]
  have hbehind : ∀ mark ∈ marksFrom (start + (raw done).length) rest,
      ¬ (decide (mark.1 < start + (raw done).length) && mark.2 == c) = true := by
    intro mark hmark
    simp [Nat.not_lt.2 (marksFrom_bounds hmark).1]
  rw [List.countP_congr fun mark hmark => by rw [hbefore mark hmark], countP_marksFrom hdone,
    List.countP_eq_zero.2 hbehind, Nat.add_zero]

/-- A code position itself is counted behind it. -/
theorem codeCount_succ_eq {text : Text} {start : Nat} {c : Char} {done rest : List Lexeme}
    (h : lex (text.drop start) = done ++ .code c :: rest) (hdone : Unbroken done) (d : Char) :
    codeCount text start (start + (raw done).length + 1) d =
      (codeText (done ++ [.code c])).count d := by
  have hlex : lex (text.drop start) = (done ++ [.code c]) ++ rest := by simp [h]
  have hwhole : Unbroken (done ++ [.code c]) :=
    unbroken_append.2 ⟨hdone, unbroken_cons.2 ⟨rfl, by simp [Unbroken]⟩⟩
  rw [← codeCount_eq hlex hwhole, length_raw_concat, ← Nat.add_assoc]
  rfl

/-! ## The first closer too many -/

/-- With `depth` further openers open before them, lexemes close as many brackets as they and those
openers open, and none of their beginnings closes more. -/
structure Levels (bracket : Bracket) (depth : Nat) (inside : List Lexeme) : Prop where
  whole : Unbroken inside
  balanced : (codeText inside).count bracket.closer = depth + (codeText inside).count bracket.opener
  above : ∀ first, first <+: inside →
    (codeText first).count bracket.closer ≤ depth + (codeText first).count bracket.opener

theorem count_codeText_cons (c : Char) (lexeme : Lexeme) (rest : List Lexeme) :
    (codeText (lexeme :: rest)).count c = (codeText [lexeme]).count c + (codeText rest).count c := by
  rw [← List.singleton_append, codeText_append, List.count_append]

section

variable {bracket : Bracket} {depth : Nat}

theorem levels_nil : Levels bracket depth [] ↔ depth = 0 := by
  constructor
  · intro h
    simpa [codeText] using h.balanced.symm
  · rintro rfl
    refine ⟨by simp [Unbroken], rfl, fun first hfirst => ?_⟩
    rw [List.prefix_nil.1 hfirst]
    exact Nat.zero_le _

/-- What the first lexeme opens and closes is counted to the depth of the others. -/
theorem levels_cons {lexeme : Lexeme} {rest : List Lexeme} :
    Levels bracket depth (lexeme :: rest) ↔ lexeme.isBroken = false ∧
      (codeText [lexeme]).count bracket.closer ≤ depth + (codeText [lexeme]).count bracket.opener ∧
      Levels bracket (depth + (codeText [lexeme]).count bracket.opener -
        (codeText [lexeme]).count bracket.closer) rest := by
  constructor
  · rintro ⟨hwhole, hbalanced, habove⟩
    have hfirst := habove [lexeme] (by simp)
    rw [count_codeText_cons, count_codeText_cons bracket.opener] at hbalanced
    refine ⟨(unbroken_cons.1 hwhole).1, hfirst, (unbroken_cons.1 hwhole).2, by omega, ?_⟩
    intro first hprefix
    have hlonger := habove (lexeme :: first) ((List.prefix_cons_inj lexeme).2 hprefix)
    rw [count_codeText_cons, count_codeText_cons bracket.opener] at hlonger
    omega
  · rintro ⟨hlexeme, hfirst, hwhole, hbalanced, habove⟩
    refine ⟨unbroken_cons.2 ⟨hlexeme, hwhole⟩, ?_, ?_⟩
    · rw [count_codeText_cons, count_codeText_cons bracket.opener]
      omega
    · intro first hprefix
      rcases List.prefix_cons_iff.1 hprefix with rfl | ⟨tail, rfl, htail⟩
      · exact Nat.zero_le _
      · have hshorter := habove tail htail
        rw [count_codeText_cons, count_codeText_cons bracket.opener]
        omega

/-- Looking on behind a lexeme finds the closer that the lexeme and those behind it ask for. -/
theorem found_behind {lexeme : Lexeme} {rest inside behind : List Lexeme} {level : Nat}
    {outcome : Except Fault (List Lexeme × List Lexeme)}
    (hlexeme : depth = 0 → lexeme ≠ .code bracket.closer)
    (hlevels : ∀ tail, Levels bracket depth (lexeme :: tail) ↔ Levels bracket level tail)
    (h : ∀ {tail}, outcome = .ok (tail, behind) ↔
      rest = tail ++ .code bracket.closer :: behind ∧ Levels bracket level tail) :
    outcome.map (fun (inside, behind) => (lexeme :: inside, behind)) = .ok (inside, behind) ↔
      lexeme :: rest = inside ++ .code bracket.closer :: behind ∧ Levels bracket depth inside := by
  rw [map_cons_eq_ok]
  constructor
  · rintro ⟨tail, htail, rfl⟩
    obtain ⟨rfl, hinside⟩ := h.1 htail
    exact ⟨rfl, (hlevels tail).2 hinside⟩
  · rintro ⟨happend, hinside⟩
    cases inside with
    | nil => exact absurd (List.cons.inj happend).1 (hlexeme (levels_nil.1 hinside))
    | cons first tail =>
        obtain ⟨rfl, hrest⟩ := List.cons.inj happend
        exact ⟨tail, h.2 ⟨hrest, (hlevels tail).1 hinside⟩, rfl⟩

theorem opener_ne_closer (a b : Bracket) : a.opener ≠ b.closer := by
  cases a <;> cases b <;> decide

/-- **What lies before the closer that is found**: lexemes that close what they open, and the closer is
the first one too many. -/
theorem splitAtCloser_eq_ok_iff {start : Int} {offset : Nat} {lexemes inside behind : List Lexeme} :
    splitAtCloser bracket start offset depth lexemes = .ok (inside, behind) ↔
      lexemes = inside ++ .code bracket.closer :: behind ∧ Levels bracket depth inside := by
  have hne := opener_ne_closer bracket bracket
  fun_induction splitAtCloser bracket start offset depth lexemes generalizing inside with
  | case1 => simp
  | case2 offset depth text rest =>
      -- a broken literal would have to be among the lexemes before the closer
      simp only [reduceCtorEq, false_iff, not_and]
      intro happend hlevels
      cases inside with
      | nil => cases happend
      | cons lexeme inside =>
          obtain ⟨rfl, -⟩ := List.cons.inj happend
          cases (levels_cons.1 hlevels).1
  | case3 offset rest =>
      simp only [Except.ok.injEq, Prod.mk.injEq]
      constructor
      · rintro ⟨rfl, rfl⟩
        exact ⟨rfl, levels_nil.2 rfl⟩
      · rintro ⟨happend, hlevels⟩
        cases inside with
        | nil => exact ⟨rfl, (List.cons.inj happend).2⟩
        | cons lexeme inside =>
            -- the closer comes first, and nothing is open before it
            obtain ⟨rfl, -⟩ := List.cons.inj happend
            have hfirst := (levels_cons.1 hlevels).2.1
            simp [codeText, hne.symm] at hfirst
  | case4 offset rest depth ih =>
      refine found_behind (by simp) (fun tail => ?_) ih
      rw [levels_cons]
      simp [codeText, hne.symm, Lexeme.isBroken]
  | case5 offset depth c rest hc ih =>
      refine found_behind (by simp [hc]) (fun tail => ?_) ih
      rw [levels_cons]
      by_cases hopen : c = bracket.opener
      · simp [codeText, hopen, hne, Lexeme.isBroken]
      · simp [codeText, hopen, hc, Lexeme.isBroken]
  | case6 offset depth text rest ih =>
      refine found_behind (by simp) (fun tail => ?_) ih
      rw [levels_cons]
      simp [codeText, Lexeme.isBroken]
  | case7 offset depth text rest ih =>
      refine found_behind (by simp) (fun tail => ?_) ih
      rw [levels_cons]
      simp [codeText, Lexeme.isBroken]

end

/-- Of two ways to cut lexemes, the one that comes first in the text leaves its lexeme to the other. -/
theorem prefix_of_shorter {done rest inside behind : List Lexeme} {lexeme closer : Lexeme}
    (h : done ++ lexeme :: rest = inside ++ closer :: behind)
    (hlt : (raw done).length < (raw inside).length) : done ++ [lexeme] <+: inside := by
  rcases List.append_eq_append_iff.1 h with ⟨middle, rfl, hmiddle⟩ | ⟨middle, rfl, -⟩
  · cases middle with
    | nil => simp at hlt
    | cons first middle =>
        obtain ⟨rfl, -⟩ := List.cons.inj hmiddle
        exact ⟨middle, by simp⟩
  · rw [raw_append, List.length_append] at hlt
    omega

/-- **The matching closer is the first one too many among the lexemes.** -/
theorem closesAt_iff {text : Text} {start offset : Nat} {bracket : Bracket} :
    ClosesAt text start bracket offset ↔ ∃ inside behind,
      lex (text.drop start) = inside ++ .code bracket.closer :: behind ∧ Levels bracket 0 inside ∧
        offset = start + (raw inside).length := by
  constructor
  · rintro ⟨hcode, hbalanced, hfirst⟩
    obtain ⟨inside, behind, hlex, hwhole, rfl⟩ := codeAt_iff.1 hcode
    rw [codeCount_eq hlex hwhole, codeCount_eq hlex hwhole] at hbalanced
    refine ⟨inside, behind, hlex, ⟨hwhole, by omega, fun first hprefix => ?_⟩, rfl⟩
    rw [Nat.zero_add]
    -- only a code character at the end of a beginning changes what was counted before it
    induction first using List.reverseRecOn with
    | nil => exact Nat.zero_le _
    | append_singleton first lexeme ih =>
        obtain ⟨rest, rfl⟩ := hprefix
        have hbefore := ih ⟨lexeme :: rest, by simp⟩
        cases lexeme with
        | code c =>
            rw [List.append_assoc, List.append_assoc] at hlex
            have hwholeFirst := (unbroken_append.1 (unbroken_append.1 hwhole).1).1
            have hcount := hfirst _ c (codeAt_iff.2 ⟨first, _, hlex, hwholeFirst, rfl⟩) (by
              simp only [raw_append, List.length_append, raw_cons, Lexeme.raw, List.length_cons]
              omega)
            rwa [codeCount_succ_eq hlex hwholeFirst, codeCount_succ_eq hlex hwholeFirst] at hcount
        | _ => simpa [codeText_append, codeText] using hbefore
  · rintro ⟨inside, behind, hlex, ⟨hwhole, hbalanced, habove⟩, rfl⟩
    refine ⟨codeAt_iff.2 ⟨inside, behind, hlex, hwhole, rfl⟩, ?_, ?_⟩
    · rw [codeCount_eq hlex hwhole, codeCount_eq hlex hwhole]
      omega
    · intro earlier c hcode hlt
      obtain ⟨done, rest, hdone, hwholeDone, rfl⟩ := codeAt_iff.1 hcode
      rw [codeCount_succ_eq hdone hwholeDone, codeCount_succ_eq hdone hwholeDone]
      have hprefix := prefix_of_shorter (hdone.symm.trans hlex) (by omega)
      simpa using habove _ hprefix

/-! ## Delimited texts -/

theorem delimited_eq_ok_iff {text content : Text} {start behind : Nat} {bracket : Bracket} :
    delimited text start bracket = .ok ⟨content, behind⟩ ↔ ∃ inside rest,
      lex (text.drop start) = inside ++ .code bracket.closer :: rest ∧ Levels bracket 0 inside ∧
        content = raw inside ∧ behind = start + (raw inside).length + 1 := by
  rw [delimited]
  cases hsplit : splitAtCloser bracket start start 0 (lex (text.drop start)) with
  | error fault =>
      simp only [Except.map, reduceCtorEq, false_iff, not_exists, not_and]
      intro inside rest hlex hlevels
      rw [splitAtCloser_eq_ok_iff.2 ⟨hlex, hlevels⟩] at hsplit
      cases hsplit
  | ok pair =>
      obtain ⟨hlex, hlevels⟩ := splitAtCloser_eq_ok_iff.1 hsplit
      simp only [Except.map, Except.ok.injEq, Delimited.mk.injEq]
      constructor
      · rintro ⟨rfl, rfl⟩
        exact ⟨pair.1, pair.2, hlex, hlevels, rfl, rfl⟩
      · rintro ⟨inside, rest, hlex', hlevels', rfl, rfl⟩
        cases hsplit.symm.trans (splitAtCloser_eq_ok_iff.2 ⟨hlex', hlevels'⟩)
        exact ⟨rfl, rfl⟩

theorem take_drop_of_lex {text : Text} {start : Nat} {inside rest : List Lexeme}
    (h : lex (text.drop start) = inside ++ rest) :
    (text.take (start + (raw inside).length)).drop start = raw inside := by
  rw [List.drop_take, Nat.add_sub_cancel_left, ← raw_lex (text.drop start), h, raw_append,
    List.take_left]

/-- The lexemes before a closer stay where the closer stays. -/
theorem lex_before_closer {text : Text} {bracket : Bracket} {inside rest : List Lexeme}
    (h : lex text = inside ++ .code bracket.closer :: rest) (after : Text) :
    lex (raw inside ++ bracket.closer :: after) = inside ++ .code bracket.closer :: lex after := by
  have hplain : isPlain bracket.closer = true := by cases bracket <;> decide
  rw [lex_raw_append h (by simp [raw_cons, Lexeme.raw]), lex_cons_plain hplain]

theorem map_ne_error {α β : Type} {outcome : Except Fault α} {fault : Fault} {f : α → β}
    (h : outcome ≠ .error fault) : outcome.map f ≠ .error fault := by
  cases outcome with
  | ok value => exact fun heq => nomatch heq
  | error other =>
      intro heq
      exact h (congrArg Except.error (Except.error.inj heq))

/-- Lexemes without a broken literal are cut into parts without meeting one. -/
theorem outerParts_ne_unterminated {lexemes : List Lexeme} (h : Unbroken lexemes) (offset : Nat)
    (stack : List Bracket) (place : Int) :
    outerParts offset stack lexemes ≠ .error (.unterminated place) := by
  fun_induction outerParts offset stack lexemes with
  | case1 => exact fun heq => nomatch heq
  | case2 => exact fun heq => nomatch heq
  | case3 offset stack text rest => cases (unbroken_cons.1 h).1
  | case4 offset stack text rest ih => exact map_ne_error (ih (unbroken_cons.1 h).2)
  | case5 offset stack text rest ih => exact map_ne_error (ih (unbroken_cons.1 h).2)
  | case6 offset stack c rest bracket _ ih => exact map_ne_error (ih (unbroken_cons.1 h).2)
  | case7 => exact fun heq => nomatch heq
  | case8 offset c rest _ bracket below _ ih => exact map_ne_error (ih (unbroken_cons.1 h).2)
  | case9 => exact fun heq => nomatch heq
  | case10 offset stack c rest _ _ _ ih => exact map_ne_error (ih (unbroken_cons.1 h).2)
  | case11 offset stack c rest _ _ _ ih => exact map_ne_error (ih (unbroken_cons.1 h).2)

/-- **The text between brackets ends at the first closer too many**, there is none without such a
closer, and nothing but the text up to the closer counts. The content has the lexemes that it has in its
place, so cutting it into arguments meets no open literal. -/
theorem delimited_closes (text : Text) (start : Nat) (bracket : Bracket) :
    (∀ content behind, delimited text start bracket = .ok ⟨content, behind⟩ ↔
      ∃ offset, ClosesAt text start bracket offset ∧ behind = offset + 1 ∧
        content = (text.take offset).drop start) ∧
    ((∃ fault, delimited text start bracket = .error fault) ↔
      ∀ offset, ¬ ClosesAt text start bracket offset) ∧
    ∀ content behind, delimited text start bracket = .ok ⟨content, behind⟩ →
      (∀ before after, delimited (before ++ content ++ bracket.closer :: after) before.length bracket =
        .ok ⟨content, before.length + content.length + 1⟩) ∧
      (∃ rest, lex (text.drop start) = lex content ++ .code bracket.closer :: rest) ∧
      ∀ offset, arguments content ≠ .error (.unterminated offset) := by
  have hfound : ∀ content behind, delimited text start bracket = .ok ⟨content, behind⟩ ↔
      ∃ offset, ClosesAt text start bracket offset ∧ behind = offset + 1 ∧
        content = (text.take offset).drop start := by
    intro content behind
    rw [delimited_eq_ok_iff]
    constructor
    · rintro ⟨inside, rest, hlex, hlevels, rfl, rfl⟩
      exact ⟨_, closesAt_iff.2 ⟨inside, rest, hlex, hlevels, rfl⟩, rfl, (take_drop_of_lex hlex).symm⟩
    · rintro ⟨offset, hcloses, rfl, rfl⟩
      obtain ⟨inside, rest, hlex, hlevels, rfl⟩ := closesAt_iff.1 hcloses
      exact ⟨inside, rest, hlex, hlevels, take_drop_of_lex hlex, rfl⟩
  refine ⟨hfound, ?_, ?_⟩
  · cases hdelimited : delimited text start bracket with
    | error fault =>
        refine iff_of_true ⟨fault, rfl⟩ fun offset hcloses => ?_
        rw [(hfound _ _).2 ⟨offset, hcloses, rfl, rfl⟩] at hdelimited
        cases hdelimited
    | ok found =>
        obtain ⟨offset, hcloses, -⟩ := (hfound _ _).1 hdelimited
        exact iff_of_false (by simp) fun hnone => hnone offset hcloses
  · intro content behind hdelimited
    obtain ⟨inside, rest, hlex, hlevels, rfl, rfl⟩ := delimited_eq_ok_iff.1 hdelimited
    have hcontent : lex (raw inside) = inside := lex_raw_of_prefix ⟨_, hlex.symm⟩
    refine ⟨fun before after => ?_, ⟨rest, by rw [hcontent, hlex]⟩, fun offset => ?_⟩
    · rw [delimited_eq_ok_iff]
      refine ⟨inside, lex after, ?_, hlevels, rfl, rfl⟩
      rw [List.append_assoc, List.drop_left, lex_before_closer hlex]
    · rw [arguments, hcontent]
      exact map_ne_error (outerParts_ne_unterminated hlevels.whole 0 [] offset)

/-- The arguments of a call with parentheses in a literal, in a comment and around another call. -/
theorem route_call_closes :
    delimited "get('/x', a(\")\"), /* ) */ b) tail".toList 4 .round =
        .ok ⟨"'/x', a(\")\"), /* ) */ b".toList, 28⟩ ∧
      (∀ before after,
        delimited (before ++ "'/x', a(\")\"), /* ) */ b".toList ++ ')' :: after) before.length .round =
          .ok ⟨"'/x', a(\")\"), /* ) */ b".toList, before.length + 23 + 1⟩) ∧
      ∀ offset, arguments "'/x', a(\")\"), /* ) */ b".toList ≠ .error (.unterminated offset) := by
  have hfound : delimited "get('/x', a(\")\"), /* ) */ b) tail".toList 4 .round =
      .ok ⟨"'/x', a(\")\"), /* ) */ b".toList, 28⟩ := by
    decide +kernel
  obtain ⟨-, -, hcontent⟩ := delimited_closes "get('/x', a(\")\"), /* ) */ b) tail".toList 4 .round
  obtain ⟨hlocal, -, harguments⟩ := hcontent _ _ hfound
  exact ⟨hfound, hlocal, harguments⟩

end RouteAtlas.Source
