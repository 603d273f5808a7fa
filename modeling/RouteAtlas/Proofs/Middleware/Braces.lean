import RouteAtlas.Proofs.Middleware.Composites
import RouteAtlas.Proofs.Middleware.Declarations
import RouteAtlas.Proofs.Source.Matching

/-!
# Braces in literals and comments

Responses are looked for from brace to brace, and a brace counts wherever it stands: what comes behind it
is read as if it were code, even where the brace stands in a literal or a comment. Such a brace is met
unless it lies inside an object literal of the code that declares a response. So literals and comments
have no part in the responses of an expression exactly if every brace that is met in one is closed from
there on, encloses no response, and a response validator that is called there can be read
(`ignoresSkipped_iff`). The responses are then those of the outermost objects of the code.
-/

set_option autoImplicit false

namespace RouteAtlas.Middleware

open Text Source

/-! ## The walk from brace to brace -/

/-- A brace opens an object literal that declares a response. -/
structure OpensResponse (expression : Text) (start : Nat) (found : Delimited) (entry : ResponseEntry) : Prop where
  brace : expression[start]? = some '\x7b'
  closed : delimited expression (start + 1) .curly = .ok found
  entry : responseOf? (literalEntries found.content) = some entry

/-- What stands behind an offset is closed and declares no response. -/
def EnclosesNone (expression : Text) (offset : Nat) : Prop :=
  ∃ found, delimited expression (offset + 1) .curly = .ok found ∧
    responseOf? (literalEntries found.content) = none

theorem EnclosesNone.not_opens {expression : Text} {offset : Nat} (h : EnclosesNone expression offset)
    {found : Delimited} {entry : ResponseEntry} : ¬ OpensResponse expression offset found entry := by
  rintro ⟨-, hclosed, hentry⟩
  obtain ⟨other, hother, hnone⟩ := h
  cases hclosed.symm.trans hother
  cases hentry.symm.trans hnone

theorem not_opens_of_ne {expression : Text} {offset : Nat} {c : Char} (hchar : expression[offset]? = some c)
    (hc : c ≠ '\x7b') {found : Delimited} {entry : ResponseEntry} :
    ¬ OpensResponse expression offset found entry :=
  fun hopens => hc (Option.some.inj (hchar.symm.trans hopens.brace))

/-- The walk from an offset on meets these responses, each at the brace of its object. -/
inductive Walks (expression : Text) : Nat → List (Nat × ResponseEntry) → Prop where
  | done {offset : Nat} : expression.length ≤ offset → Walks expression offset []
  | other {offset : Nat} {c : Char} {placed : List (Nat × ResponseEntry)} :
      expression[offset]? = some c → c ≠ '\x7b' → Walks expression (offset + 1) placed →
        Walks expression offset placed
  | passing {offset : Nat} {placed : List (Nat × ResponseEntry)} :
      expression[offset]? = some '\x7b' → EnclosesNone expression offset →
        Walks expression (offset + 1) placed → Walks expression offset placed
  | declaring {offset : Nat} {found : Delimited} {entry : ResponseEntry}
      {placed : List (Nat × ResponseEntry)} :
      OpensResponse expression offset found entry → Walks expression found.behind placed →
        Walks expression offset ((offset, entry) :: placed)

section

variable {expression : Text} {offset : Nat}

theorem drop_of_getElem? {c : Char} (h : expression[offset]? = some c) :
    expression.drop offset = c :: expression.drop (offset + 1) := by
  obtain ⟨hlt, rfl⟩ := List.getElem?_eq_some_iff.1 h
  exact List.drop_eq_getElem_cons hlt

/-- What is delimited behind a brace, as the walk finds it. -/
theorem delimited_curly_iff {found : Delimited} :
    delimited expression (offset + 1) .curly = .ok found ↔ ∃ inside behind,
      splitAtCloser .curly (offset + 1) (offset + 1) 0 (lex (expression.drop (offset + 1))) =
        .ok (inside, behind) ∧ found = ⟨raw inside, offset + (raw inside).length + 2⟩ := by
  obtain ⟨content, stop⟩ := found
  rw [delimited_eq_ok_iff]
  refine exists_congr fun inside => exists_congr fun behind => ?_
  rw [splitAtCloser_eq_ok_iff, Delimited.mk.injEq, and_assoc,
    show offset + 1 + (raw inside).length + 1 = offset + (raw inside).length + 2 by omega]

theorem raw_behind {inside behind : List Lexeme}
    (h : splitAtCloser .curly (offset + 1) (offset + 1) 0 (lex (expression.drop (offset + 1))) =
      .ok (inside, behind)) : raw behind = expression.drop (offset + (raw inside).length + 2) := by
  have hlex : lex (expression.drop (offset + 1)) = (inside ++ [.code '\x7d']) ++ behind := by
    rw [← append_of_splitAtCloser h, List.append_assoc]
    rfl
  rw [← drop_of_lex hlex, length_raw_concat]
  congr 1
  simp only [Lexeme.raw, List.length_singleton]
  omega

theorem OpensResponse.lt_behind {found : Delimited} {entry : ResponseEntry}
    (h : OpensResponse expression offset found entry) : offset < found.behind := by
  obtain ⟨inside, behind, -, rfl⟩ := delimited_curly_iff.1 h.closed
  simp only
  omega

/-- What a walk meets is read. -/
theorem Walks.literalResponses_eq {placed : List (Nat × ResponseEntry)} (h : Walks expression offset placed) :
    literalResponses 0 offset (expression.drop offset) = .ok (placed.map Prod.snd) := by
  induction h with
  | done hend => rw [List.drop_of_length_le hend, literalResponses]; rfl
  | other hchar hc _ ih => rw [drop_of_getElem? hchar, literalResponses_other hc, ih]
  | passing hbrace hpasses _ ih =>
      obtain ⟨found, hfound, hnone⟩ := hpasses
      obtain ⟨inside, behind, hsplit, rfl⟩ := delimited_curly_iff.1 hfound
      rw [drop_of_getElem? hbrace, literalResponses_passing hsplit hnone, ih]
  | declaring hopens _ ih =>
      obtain ⟨inside, behind, hsplit, rfl⟩ := delimited_curly_iff.1 hopens.closed
      rw [drop_of_getElem? hopens.brace, literalResponses_declaring hsplit hopens.entry,
        raw_behind hsplit, ih]
      rfl

/-- What is read has been met on a walk. -/
theorem exists_walks_of_read {entries : List ResponseEntry}
    (h : literalResponses 0 offset (expression.drop offset) = .ok entries) :
    ∃ placed, Walks expression offset placed ∧ placed.map Prod.snd = entries := by
  -- the walk may jump over an object, so the induction is on what is left of the expression
  induction hleft : expression.length - offset using Nat.strong_induction_on generalizing offset entries with
  | _ left ih =>
      cases hchar : expression[offset]? with
      | none =>
          have hend := List.getElem?_eq_none_iff.1 hchar
          rw [List.drop_of_length_le hend, literalResponses] at h
          exact ⟨[], .done hend, Except.ok.inj h⟩
      | some c =>
          have hlt := (List.getElem?_eq_some_iff.1 hchar).1
          rw [drop_of_getElem? hchar] at h
          by_cases hc : c = '\x7b'
          · subst hc
            cases hsplit : splitAtCloser .curly (offset + 1) (offset + 1) 0
                (lex (expression.drop (offset + 1))) with
            | error fault =>
                rw [literalResponses, if_pos rfl, hsplit] at h
                cases h
            | ok pair =>
                obtain ⟨inside, behind⟩ := pair
                have hfound := delimited_curly_iff.2 ⟨inside, behind, hsplit, rfl⟩
                cases hentry : responseOf? (literalEntries (raw inside)) with
                | none =>
                    rw [literalResponses_passing hsplit hentry] at h
                    obtain ⟨placed, hwalks, hplaced⟩ := ih _ (by omega) h rfl
                    exact ⟨placed, .passing hchar ⟨_, hfound, hentry⟩ hwalks, hplaced⟩
                | some entry =>
                    rw [literalResponses_declaring hsplit hentry, raw_behind hsplit] at h
                    obtain ⟨others, hothers, rfl⟩ := eq_ok_of_map h
                    obtain ⟨placed, hwalks, rfl⟩ := ih _ (by omega) hothers rfl
                    exact ⟨_, .declaring ⟨hchar, hfound, hentry⟩ hwalks, rfl⟩
          · rw [literalResponses_other hc] at h
            obtain ⟨placed, hwalks, hplaced⟩ := ih _ (by omega) h rfl
            exact ⟨placed, .other hchar hc hwalks, hplaced⟩

/-- **The responses that are read are those that are met.** -/
theorem literalResponses_eq_ok_iff {entries : List ResponseEntry} :
    literalResponses 0 offset (expression.drop offset) = .ok entries ↔
      ∃ placed, Walks expression offset placed ∧ placed.map Prod.snd = entries :=
  ⟨exists_walks_of_read, fun ⟨_, hwalks, hplaced⟩ => hplaced ▸ hwalks.literalResponses_eq⟩

end

namespace Walks

variable {expression : Text} {offset : Nat} {placed : List (Nat × ResponseEntry)}

/-- What is met stands where the walk has not been before. -/
theorem le_of_mem (h : Walks expression offset placed) {start : Nat} {entry : ResponseEntry}
    (hmem : (start, entry) ∈ placed) : offset ≤ start := by
  induction h with
  | done => cases hmem
  | other _ _ _ ih => exact Nat.le_of_succ_le (ih hmem)
  | passing _ _ _ ih => exact Nat.le_of_succ_le (ih hmem)
  | declaring hopens _ ih =>
      rcases List.mem_cons.1 hmem with hsame | hlater
      · cases hsame
        exact le_rfl
      · exact (hopens.lt_behind.le).trans (ih hlater)

/-- What is met declares a response. -/
theorem opens_of_mem (h : Walks expression offset placed) {start : Nat} {entry : ResponseEntry}
    (hmem : (start, entry) ∈ placed) : ∃ found, OpensResponse expression start found entry := by
  induction h with
  | done => cases hmem
  | other _ _ _ ih => exact ih hmem
  | passing _ _ _ ih => exact ih hmem
  | declaring hopens _ ih =>
      rcases List.mem_cons.1 hmem with hsame | hlater
      · cases hsame
        exact ⟨_, hopens⟩
      · exact ih hlater

/-- Every brace outside of what is met has been looked at. -/
theorem encloses_or_mem (h : Walks expression offset placed) {brace : Nat} (hle : offset ≤ brace)
    (hbrace : expression[brace]? = some '\x7b')
    (hfree : ∀ start found entry, (start, entry) ∈ placed → OpensResponse expression start found entry →
      ¬ (start < brace ∧ brace < found.behind)) :
    EnclosesNone expression brace ∨ ∃ entry, (brace, entry) ∈ placed := by
  induction h with
  | done hend =>
      have hlt := (List.getElem?_eq_some_iff.1 hbrace).1
      omega
  | @other offset c placed hchar hc _ ih =>
      have hne : offset ≠ brace := by
        rintro rfl
        exact hc (Option.some.inj (hchar.symm.trans hbrace))
      exact ih (by omega) hfree
  | @passing offset placed hchar hnone _ ih =>
      rcases hle.eq_or_lt with rfl | hlt
      · exact .inl hnone
      · exact ih hlt hfree
  | @declaring offset found entry placed hopens _ ih =>
      rcases hle.eq_or_lt with rfl | hlt
      · exact .inr ⟨entry, List.mem_cons_self⟩
      · -- the brace is not inside the object that is passed, so it stands behind it
        have houtside := hfree offset found entry List.mem_cons_self hopens
        have hlater := ih (by omega) fun start other later hmem =>
          hfree start other later (List.mem_cons_of_mem _ hmem)
        exact hlater.imp_right fun ⟨later, hmem⟩ => ⟨later, List.mem_cons_of_mem _ hmem⟩

/-- The responses are met in the order of their braces. -/
theorem sorted (h : Walks expression offset placed) : (placed.map Prod.fst).Pairwise (· < ·) := by
  induction h with
  | done => exact .nil
  | other _ _ _ ih => exact ih
  | passing _ _ _ ih => exact ih
  | declaring hopens hwalks ih =>
      refine List.pairwise_cons.2 ⟨fun start hstart => ?_, ih⟩
      obtain ⟨⟨start, entry⟩, hmem, rfl⟩ := List.mem_map.1 hstart
      exact hopens.lt_behind.trans_le (hwalks.le_of_mem hmem)

end Walks

/-! ## Braces of the code -/

/-- An offset lies inside an object literal of the code that declares a response. -/
def IsShielded (expression : Text) (offset : Nat) : Prop :=
  ∃ start found entry, CodeAt expression 0 start '\x7b' ∧ OpensResponse expression start found entry ∧
    start < offset ∧ offset < found.behind

/-- A brace in a literal or a comment, outside of the objects that declare responses. -/
structure IsStrayBrace (expression : Text) (offset : Nat) : Prop where
  brace : expression[offset]? = some '\x7b'
  skipped : InSkipped expression offset
  free : ¬ IsShielded expression offset

section

variable {expression : Text} {offset : Nat}

theorem not_isShielded_zero : ¬ IsShielded expression 0 :=
  fun ⟨_, _, _, _, _, hstart, _⟩ => absurd hstart (Nat.not_lt_zero _)

/-- Behind a place at which no response is declared, no object has been entered. -/
theorem not_isShielded_succ (h : ¬ IsShielded expression offset)
    (hnone : ∀ found entry, ¬ OpensResponse expression offset found entry) :
    ¬ IsShielded expression (offset + 1) := by
  rintro ⟨start, found, entry, hcode, hopens, hstart, hend⟩
  rcases (Nat.lt_succ_iff.1 hstart).eq_or_lt with rfl | hlt
  · exact hnone found entry hopens
  · exact h ⟨start, found, entry, hcode, hopens, hlt, by omega⟩

/-- Behind an object of the code that declares a response, all objects are left that were not entered
before. -/
theorem not_isShielded_behind (h : ¬ IsShielded expression offset)
    (hcode : CodeAt expression 0 offset '\x7b') {found : Delimited} {entry : ResponseEntry}
    (hopens : OpensResponse expression offset found entry) : ¬ IsShielded expression found.behind := by
  rintro ⟨start, outer, other, hstart, houter, hlt, hend⟩
  have hbehind := hopens.lt_behind
  rcases Nat.lt_trichotomy start offset with hbefore | rfl | hinside
  · exact h ⟨start, outer, other, hstart, houter, hbefore, by omega⟩
  · cases houter.closed.symm.trans hopens.closed
    omega
  · -- an object that was entered on the way is closed before the one around it
    have hinner := delimited_behind_lt hcode hopens.closed hstart houter.closed hinside hlt
    omega

/-- The walk enters no object of the code that declares a response. -/
theorem Walks.free_of_mem {placed : List (Nat × ResponseEntry)} (h : Walks expression offset placed)
    (hcode : ∀ start entry, (start, entry) ∈ placed → ¬ IsShielded expression start →
      CodeAt expression 0 start '\x7b')
    (hfree : ¬ IsShielded expression offset) {start : Nat} {entry : ResponseEntry}
    (hmem : (start, entry) ∈ placed) : ¬ IsShielded expression start := by
  induction h with
  | done => cases hmem
  | other hchar hc _ ih =>
      exact ih hcode (not_isShielded_succ hfree fun _ _ => not_opens_of_ne hchar hc) hmem
  | passing _ hnone _ ih =>
      exact ih hcode (not_isShielded_succ hfree fun _ _ => hnone.not_opens) hmem
  | declaring hopens _ ih =>
      rcases List.mem_cons.1 hmem with hsame | hlater
      · cases hsame
        exact hfree
      · refine ih (fun other later hmem => hcode other later (List.mem_cons_of_mem _ hmem)) ?_ hlater
        exact not_isShielded_behind hfree (hcode _ _ List.mem_cons_self hfree) hopens

/-- **What is met in code is what the outermost objects declare.** -/
theorem Walks.mem_iff {placed : List (Nat × ResponseEntry)} (h : Walks expression offset placed)
    (hcode : ∀ start entry, (start, entry) ∈ placed → CodeAt expression 0 start '\x7b')
    (hfree : ¬ IsShielded expression offset) {start : Nat} {entry : ResponseEntry} :
    (start, entry) ∈ placed ↔ offset ≤ start ∧ CodeAt expression 0 start '\x7b' ∧
      ¬ IsShielded expression start ∧ ∃ found, OpensResponse expression start found entry := by
  constructor
  · exact fun hmem => ⟨h.le_of_mem hmem, hcode start entry hmem,
      h.free_of_mem (fun other later hlater _ => hcode other later hlater) hfree hmem, h.opens_of_mem hmem⟩
  · rintro ⟨hle, hstart, hshield, found, hopens⟩
    have hmet := h.encloses_or_mem hle hopens.brace fun other inner later hmem hlater hinside =>
      hshield ⟨other, inner, later, hcode other later hmem, hlater, hinside⟩
    obtain ⟨later, hmem⟩ := hmet.resolve_left fun hnone => hnone.not_opens hopens
    -- a brace has one closer and declares one response
    obtain ⟨inner, hlater⟩ := h.opens_of_mem hmem
    cases hopens.closed.symm.trans hlater.closed
    cases hopens.entry.symm.trans hlater.entry
    exact hmem

/-- What declares a response stands in code, where stray braces enclose none. -/
theorem OpensResponse.codeAt {found : Delimited} {entry : ResponseEntry}
    (h : OpensResponse expression offset found entry) (hwhole : Unbroken (lex expression))
    (hstray : ∀ brace, IsStrayBrace expression brace → EnclosesNone expression brace)
    (hfree : ¬ IsShielded expression offset) : CodeAt expression 0 offset '\x7b' :=
  (codeAt_or_inSkipped hwhole h.brace).resolve_right fun hskipped =>
    (hstray offset ⟨h.brace, hskipped, hfree⟩).not_opens h

/-- **Where stray braces enclose no response, the walk comes to the end.** -/
theorem exists_walks (hwhole : Unbroken (lex expression))
    (hnested : Nested (brackets (codeText (lex expression))))
    (hstray : ∀ brace, IsStrayBrace expression brace → EnclosesNone expression brace)
    (hfree : ¬ IsShielded expression offset) : ∃ placed, Walks expression offset placed := by
  induction hleft : expression.length - offset using Nat.strong_induction_on generalizing offset with
  | _ left ih =>
      cases hchar : expression[offset]? with
      | none => exact ⟨[], .done (List.getElem?_eq_none_iff.1 hchar)⟩
      | some c =>
          have hlt := (List.getElem?_eq_some_iff.1 hchar).1
          by_cases hc : c = '\x7b'
          · subst hc
            -- the braces are closed: those of the code are well nested, the others enclose no response
            have hbraces : EnclosesNone expression offset ∨
                ∃ found entry, OpensResponse expression offset found entry := by
              rcases codeAt_or_inSkipped hwhole hchar with hcode | hskipped
              · obtain ⟨found, -, hfound, -⟩ :=
                  @exists_delimited_of_codeAt _ hwhole hnested _ .curly hcode
                cases hentry : responseOf? (literalEntries found.content) with
                | none => exact .inl ⟨found, hfound, hentry⟩
                | some entry => exact .inr ⟨found, entry, hchar, hfound, hentry⟩
              · exact .inl (hstray offset ⟨hchar, hskipped, hfree⟩)
            rcases hbraces with hnone | ⟨found, entry, hopens⟩
            · obtain ⟨placed, hwalks⟩ := ih _ (by omega)
                (not_isShielded_succ hfree fun _ _ => hnone.not_opens) rfl
              exact ⟨placed, .passing hchar hnone hwalks⟩
            · have hbehind := hopens.lt_behind
              obtain ⟨placed, hwalks⟩ := ih _ (by omega)
                (not_isShielded_behind hfree (hopens.codeAt hwhole hstray hfree) hopens) rfl
              exact ⟨_, .declaring hopens hwalks⟩
          · obtain ⟨placed, hwalks⟩ := ih _ (by omega)
              (not_isShielded_succ hfree fun _ _ => not_opens_of_ne hchar hc) rfl
            exact ⟨placed, .other hchar hc hwalks⟩

end

/-! ## The positional form -/

/-- Where no object declares a response, the arguments of the response validator can be read if its first
call opens in a literal or a comment. -/
def IsFallbackRead (expression : Text) : Prop :=
  literalResponses 0 0 expression = .ok [] → mentions expression responseValidator = true →
    ∀ start, callStart? responseValidator none expression = some (start + 1) →
      InSkipped expression start → ∃ given, argumentsOfCall expression responseValidator = .ok given

section

variable {expression : Text}

/-- The parenthesis of the call that is found. -/
theorem paren_of_callStart? {callee : Text} {start : Nat}
    (h : callStart? callee none expression = some start) :
    ∃ paren, start = paren + 1 ∧ expression[paren]? = some '(' := by
  obtain ⟨before, behind, ⟨blanks, rfl, -⟩, rfl, -⟩ := opensFrom_of_callStart? h
  refine ⟨(before ++ callee ++ blanks).length, ?_, ?_⟩
  · simp only [List.length_append, List.length_cons]
    omega
  · rw [List.getElem?_append_right le_rfl, Nat.sub_self]
    rfl

/-- The arguments of a call can be read where it opens in the code of a well-nested text. -/
theorem argumentsOfCall_of_codeAt (hwhole : Unbroken (lex expression))
    (hnested : Nested (brackets (codeText (lex expression)))) {callee : Text} {paren : Nat}
    (hstart : callStart? callee none expression = some (paren + 1)) (hcode : CodeAt expression 0 paren '(') :
    ∃ given, argumentsOfCall expression callee = .ok given := by
  obtain ⟨found, parts, hfound, hparts⟩ := @exists_delimited_of_codeAt _ hwhole hnested _ .round hcode
  refine ⟨some parts, ?_⟩
  rw [argumentsOfCall, hstart]
  simp only [hfound, hparts, bind, Except.bind]
  rfl

/-- **What is read of an expression**: the responses of its objects, and where there is none, those of the
positional form. -/
theorem declaredResponses_isOk_iff :
    (∃ entries, declaredResponses expression = .ok entries) ↔
      ∃ entries, literalResponses 0 0 expression = .ok entries ∧
        (entries = [] → mentions expression responseValidator = true →
          ∃ given, argumentsOfCall expression responseValidator = .ok given) := by
  rw [declaredResponses]
  cases literalResponses 0 0 expression with
  | error fault => simp [bind, Except.bind]
  | ok entries =>
      cases entries with
      | cons entry entries => simp [bind, Except.bind, pure, Except.pure]
      | nil =>
          by_cases hmentions : mentions expression responseValidator = true
          · cases argumentsOfCall expression responseValidator with
            | error fault => simp [bind, Except.bind, hmentions]
            | ok given => simp [bind, Except.bind, hmentions, pure, Except.pure]
          · simp [bind, Except.bind, hmentions, pure, Except.pure]

end

/-! ## Opaque literals and comments -/

/-- Literals and comments have no part in the responses of an expression: the responses can be read, and
none that is met begins at a brace in a literal or a comment. -/
structure IgnoresSkipped (expression : Text) : Prop where
  read : ∃ entries, declaredResponses expression = .ok entries
  outside : ∀ placed, Walks expression 0 placed → ∀ start entry, (start, entry) ∈ placed →
    ¬ InSkipped expression start

/-- Where literals and comments have no part in the responses, stray braces enclose none. -/
theorem IgnoresSkipped.enclosesNone {expression : Text} (h : IgnoresSkipped expression)
    (hwhole : Unbroken (lex expression)) {brace : Nat} (hstray : IsStrayBrace expression brace) :
    EnclosesNone expression brace := by
  obtain ⟨entries, hentries, -⟩ := declaredResponses_isOk_iff.1 h.read
  obtain ⟨placed, hwalks, -⟩ := literalResponses_eq_ok_iff.1 hentries
  -- what is met opens in code, and no stray brace lies inside an object of the code
  have hmet := hwalks.encloses_or_mem (Nat.zero_le brace) hstray.brace fun start found entry hmem hopens hin =>
    hstray.free ⟨start, found, entry, (codeAt_or_inSkipped hwhole hopens.brace).resolve_right
      (h.outside placed hwalks start entry hmem), hopens, hin⟩
  exact hmet.resolve_right fun ⟨entry, hmem⟩ => h.outside placed hwalks brace entry hmem hstray.skipped

/-- A fallback that is read in literals and comments is read everywhere. -/
theorem IsFallbackRead.exists_given {expression : Text} (h : IsFallbackRead expression)
    (hwhole : Unbroken (lex expression)) (hnested : Nested (brackets (codeText (lex expression))))
    (hnone : literalResponses 0 0 expression = .ok [])
    (hmentions : mentions expression responseValidator = true) :
    ∃ given, argumentsOfCall expression responseValidator = .ok given := by
  cases hstart : callStart? responseValidator none expression with
  | none =>
      rw [argumentsOfCall, hstart]
      exact ⟨none, rfl⟩
  | some start =>
      obtain ⟨paren, rfl, hparen⟩ := paren_of_callStart? hstart
      rcases codeAt_or_inSkipped hwhole hparen with hcode | hskipped
      · exact argumentsOfCall_of_codeAt hwhole hnested hstart hcode
      · exact h hnone hmentions paren hstart hskipped

/-- **When literals and comments have no part in the responses of an argument**: exactly if every brace in
one, outside of the objects of the code that declare responses, is closed by what stands behind it and
encloses no response, and the arguments of a response validator that is called in one can be read where
they are needed. The responses are then those of the outermost objects of the code that declare one, in
order. -/
theorem ignoresSkipped_iff {expression : Text} (h : arguments expression = .ok [expression]) :
    (IgnoresSkipped expression ↔
      (∀ brace, IsStrayBrace expression brace → EnclosesNone expression brace) ∧
        IsFallbackRead expression) ∧
    (IgnoresSkipped expression → ∃ placed, Walks expression 0 placed ∧
      literalResponses 0 0 expression = .ok (placed.map Prod.snd) ∧
      (placed.map Prod.fst).Pairwise (· < ·) ∧
      ∀ start entry, (start, entry) ∈ placed ↔ CodeAt expression 0 start '\x7b' ∧
        ¬ IsShielded expression start ∧ ∃ found, OpensResponse expression start found entry) := by
  obtain ⟨hwhole, hnested⟩ := ((arguments_split.1 expression).1).1 ⟨_, h⟩
  refine ⟨⟨fun hignores => ⟨fun brace => hignores.enclosesNone hwhole, ?_⟩, ?_⟩, fun hignores => ?_⟩
  · intro hnone hmentions start hstart hskipped
    obtain ⟨entries, hentries, hgiven⟩ := declaredResponses_isOk_iff.1 hignores.read
    cases hnone.symm.trans hentries
    exact hgiven rfl hmentions
  · rintro ⟨hstray, hfallback⟩
    obtain ⟨placed, hwalks⟩ := exists_walks hwhole hnested hstray not_isShielded_zero
    have hentries : literalResponses 0 0 expression = .ok (placed.map Prod.snd) :=
      hwalks.literalResponses_eq
    refine ⟨declaredResponses_isOk_iff.2 ⟨_, hentries, fun hnone hmentions => ?_⟩, ?_⟩
    · rw [hnone] at hentries
      exact hfallback.exists_given hwhole hnested hentries hmentions
    · intro others hothers start entry hmem
      have hcode : ∀ other later, (other, later) ∈ others → ¬ IsShielded expression other →
          CodeAt expression 0 other '\x7b' := by
        intro other later hlater hfree
        obtain ⟨found, hopens⟩ := hothers.opens_of_mem hlater
        exact hopens.codeAt hwhole hstray hfree
      exact (hcode start entry hmem (hothers.free_of_mem hcode not_isShielded_zero hmem)).not_inSkipped
  · obtain ⟨entries, hentries, -⟩ := declaredResponses_isOk_iff.1 hignores.read
    obtain ⟨placed, hwalks, rfl⟩ := literalResponses_eq_ok_iff.1 hentries
    have hcode : ∀ start entry, (start, entry) ∈ placed → CodeAt expression 0 start '\x7b' := by
      intro start entry hmem
      obtain ⟨found, hopens⟩ := hwalks.opens_of_mem hmem
      exact (codeAt_or_inSkipped hwhole hopens.brace).resolve_right
        (hignores.outside placed hwalks start entry hmem)
    refine ⟨placed, hwalks, hentries, hwalks.sorted, fun start entry => ?_⟩
    rw [hwalks.mem_iff hcode not_isShielded_zero]
    simp

/-- An expression with braces in a note, in a description and in a comment. -/
def guardedCall : Text :=
  "f(\x7bn: '\x7b\x7d'\x7d, \x7bstatus: 200, schema: s, description: '\x7b'\x7d /* \x7b\x7d */)".toList

/-- The brace of the description is not met, and the others are closed and enclose no response. -/
theorem guardedCall_ignoresSkipped : arguments guardedCall = .ok [guardedCall] ∧
    IgnoresSkipped guardedCall ∧
    declaredResponses guardedCall = .ok [⟨"200".toList, "s".toList, some "\x7b".toList⟩] := by
  -- the text is read character by character only once
  have htext : guardedCall = _ := String.toList_ofList
  have hreads : arguments guardedCall = .ok [guardedCall] ∧
      declaredResponses guardedCall = .ok [⟨"200".toList, "s".toList, some "\x7b".toList⟩] ∧
      literalResponses 0 0 guardedCall ≠ .ok [] := by
    rw [htext]
    decide +kernel
  have hbraces : ∀ brace < guardedCall.length, guardedCall[brace]? = some '\x7b' →
      brace ∈ [2, 7, 13, 52, 59] := by
    rw [htext]
    decide +kernel
  have hobject : CodeAt guardedCall 0 13 '\x7b' := by
    refine codeAt_iff.2 ⟨(lex guardedCall).take 10, (lex guardedCall).drop 11, ?_⟩
    unfold Unbroken
    rw [htext]
    decide +kernel
  have hopens : OpensResponse guardedCall 13 ⟨"status: 200, schema: s, description: '\x7b'".toList, 55⟩
      ⟨"200".toList, "s".toList, some "\x7b".toList⟩ := by
    rw [htext]
    exact ⟨by decide +kernel, by decide +kernel, by decide +kernel⟩
  have hclosed : delimited guardedCall 3 .curly = .ok ⟨"n: '\x7b\x7d'".toList, 11⟩ ∧
      delimited guardedCall 8 .curly = .ok ⟨[], 9⟩ ∧ delimited guardedCall 60 .curly = .ok ⟨[], 61⟩ := by
    rw [htext]
    decide +kernel
  refine ⟨hreads.1, (ignoresSkipped_iff hreads.1).1.2 ⟨fun brace hstray => ?_, fun hnone => ?_⟩, hreads.2.1⟩
  · have hplace := hbraces brace (List.getElem?_eq_some_iff.1 hstray.brace).1 hstray.brace
    simp only [List.mem_cons, List.not_mem_nil, or_false] at hplace
    rcases hplace with rfl | rfl | rfl | rfl | rfl
    · exact ⟨_, hclosed.1, by decide +kernel⟩
    · exact ⟨_, hclosed.2.1, by decide +kernel⟩
    · exact absurd hstray.skipped hobject.not_inSkipped
    · exact absurd ⟨13, _, _, hobject, hopens, by decide, by decide⟩ hstray.free
    · exact ⟨_, hclosed.2.2, by decide +kernel⟩
  · exact absurd hnone hreads.2.2

/-- A handler with a brace in a message. -/
def messageCall : Text :=
  "usecaseWrapper(run, \x7bmessage: 'a \x7b b'\x7d, [\x7bstatus: 200, schema: s.a\x7d])".toList

/-- A response validator with a response in a comment. -/
def commentedCall : Text :=
  "validateResponse([/* \x7bstatus: 404, schema: s.err\x7d, */ \x7bstatus: 200, schema: s.a\x7d])".toList

/-- A brace in a message makes an argument fail, and a response in a comment is declared. -/
theorem skipped_braces_count :
    (arguments messageCall = .ok [messageCall] ∧
      declaredResponses messageCall = .error (.unterminated 36) ∧ ¬ IgnoresSkipped messageCall) ∧
    arguments commentedCall = .ok [commentedCall] ∧
      declaredResponses commentedCall =
        .ok [⟨"404".toList, "s.err".toList, none⟩, ⟨"200".toList, "s.a".toList, none⟩] ∧
      InSkipped commentedCall 21 ∧ ¬ IgnoresSkipped commentedCall := by
  have hmessage : messageCall = _ := String.toList_ofList
  have hcomment : commentedCall = _ := String.toList_ofList
  have hfails : arguments messageCall = .ok [messageCall] ∧
      declaredResponses messageCall = .error (.unterminated 36) := by
    rw [hmessage]
    decide +kernel
  have hdeclares : arguments commentedCall = .ok [commentedCall] ∧ declaredResponses commentedCall =
      .ok [⟨"404".toList, "s.err".toList, none⟩, ⟨"200".toList, "s.a".toList, none⟩] := by
    rw [hcomment]
    decide +kernel
  have hskipped : InSkipped commentedCall 21 := by
    refine ⟨(lex commentedCall).take 18, .comment "/* \x7bstatus: 404, schema: s.err\x7d, */".toList,
      (lex commentedCall).drop 19, ?_, nofun, ?_⟩
    · rw [hcomment]
      decide +kernel
    · rw [hcomment]
      decide +kernel
  refine ⟨⟨hfails.1, hfails.2, fun hignores => ?_⟩, hdeclares.1, hdeclares.2, hskipped, fun hignores => ?_⟩
  · obtain ⟨entries, hentries⟩ := hignores.read
    cases hfails.2.symm.trans hentries
  · have hwhole : Unbroken (lex commentedCall) := by
      unfold Unbroken
      rw [hcomment]
      decide +kernel
    have hopens : OpensResponse commentedCall 21 ⟨"status: 404, schema: s.err".toList, 49⟩
        ⟨"404".toList, "s.err".toList, none⟩ := by
      rw [hcomment]
      exact ⟨by decide +kernel, by decide +kernel, by decide +kernel⟩
    have hfirst : ∀ brace < 21, commentedCall[brace]? ≠ some '\x7b' := by
      rw [hcomment]
      decide +kernel
    exact (hignores.enclosesNone hwhole ⟨hopens.brace, hskipped, fun ⟨start, _, _, hcode, _, hlt, _⟩ =>
      hfirst start hlt hcode.char⟩).not_opens hopens

end RouteAtlas.Middleware
