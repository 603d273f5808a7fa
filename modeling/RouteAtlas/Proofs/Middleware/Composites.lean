import RouteAtlas.Middleware.Chain
import RouteAtlas.Proofs.Source.Mentions
import RouteAtlas.Proofs.Source.Objects

/-!
# Composite validators written out

A composite validator bundles entries in an object literal. Where the values of the entries are single
expressions that do not mention the composite validator themselves, it stands for one expression an
entry, in the order of the entries: in every chain it can be replaced by these, and nothing that is made
of the chain changes (`composite_writes_out`). An expression that contains no call of the composite
validator, or whose first call of it is given something other than an object literal, is left alone.
-/

set_option autoImplicit false

namespace RouteAtlas.Middleware

open Text Source Api Schema Router

/-! ## Entries -/

/-- The keys of composite validators. -/
inductive CompositeKey where
  | body
  | param
  | query
  | header
  | path
  | response
  | usecase
  | useWrappedUsecase
  deriving DecidableEq, Repr

/-- A key as it is written. -/
def CompositeKey.name : CompositeKey → Text
  | .body => "body".toList
  | .param => "param".toList
  | .query => "query".toList
  | .header => "header".toList
  | .path => "path".toList
  | .response => "response".toList
  | .usecase => "usecase".toList
  | .useWrappedUsecase => "useWrappedUsecase".toList

/-- An entry as it is written. -/
def entryText (entry : CompositeKey × Text) : Text := entry.1.name ++ ": ".toList ++ entry.2

/-- The object literal of some entries. -/
def entriesText (entries : List (CompositeKey × Text)) : Text :=
  '\x7b' :: (join ", ".toList (entries.map entryText) ++ ['\x7d'])

/-- The expression that an entry stands for, if any, where the handler may have to be wrapped. -/
def expressionFor? (wrapped : Bool) : CompositeKey × Text → Option Text
  | (.body, value) => some (callOf "validateBody".toList value)
  | (.param, value) => some (callOf "validateParam".toList value)
  | (.query, value) => some (callOf "validateQuery".toList value)
  | (.header, value) => some (callOf "validateHeader".toList value)
  | (.path, value) => some (callOf "validatePath".toList value)
  | (.response, value) => some (callOf "validateResponse".toList value)
  | (.usecase, value) => some (if wrapped then callOf "usecaseWrapper".toList value else value)
  | (.useWrappedUsecase, _) => none

/-- The expressions that entries stand for, in order. -/
def writtenOut (entries : List (CompositeKey × Text)) : List Text :=
  entries.filterMap (expressionFor? (decide ((.useWrappedUsecase, "true".toList) ∈ entries)))

/-- A single expression that can stand in a composite validator and by itself. -/
structure IsEntryValue (value : Text) : Prop where
  nonempty : value ≠ []
  trimmed : trim value = value
  single : arguments (value ++ ",x".toList) = .ok [value, "x".toList]
  free : ¬ Mentions value bundleName

/-! ## Calls of the composite validator -/

/-- A call of a name opens in an expression between two texts: the name, bounded on its left side, blanks
and a parenthesis. -/
def Opens (callee expression before behind : Text) : Prop :=
  ∃ blanks, expression = before ++ callee ++ blanks ++ '(' :: behind ∧
    isBoundary before.getLast? = true ∧ blanks.all isBlank = true

/-- The first call of a name in an expression. -/
structure OpensFirst (callee expression before behind : Text) : Prop where
  opens : Opens callee expression before behind
  first : ∀ other rest, Opens callee expression other rest → before.length ≤ other.length

/-- An expression contains a composite validator: its first call of that name is given an object literal
first. A call whose arguments cannot be read counts as well. -/
def IsComposite (expression : Text) : Prop :=
  ∃ before behind, OpensFirst bundleName expression before behind ∧
    ∀ call given, delimited expression (expression.length - behind.length) .round = .ok call →
      arguments call.content = .ok given → ∃ literal, given.head? = some ('\x7b' :: literal)

/-- A call of a name opens in a text that comes behind a character. -/
def OpensFrom (previous : Option Char) (callee text before behind : Text) : Prop :=
  ∃ blanks, text = before ++ callee ++ blanks ++ '(' :: behind ∧
    isBoundary (before.getLast?.or previous) = true ∧ blanks.all isBlank = true

theorem opensFrom_cons {previous : Option Char} {callee text before behind : Text} {c : Char} :
    OpensFrom previous callee (c :: text) (c :: before) behind ↔
      OpensFrom (some c) callee text before behind := by
  simp only [OpensFrom, getLast?_cons_or, List.cons_append, List.cons.injEq, true_and]

theorem trimLeft_eq_cons {text behind : Text} {c : Char} (h : trimLeft text = c :: behind) :
    ∃ blanks, text = blanks ++ c :: behind ∧ blanks.all isBlank = true :=
  ⟨text.takeWhile isBlank, by rw [← h]; exact (List.takeWhile_append_dropWhile ..).symm,
    List.all_takeWhile⟩

theorem trimLeft_blanks {blanks behind : Text} {c : Char} (h : blanks.all isBlank = true)
    (hc : isBlank c = false) : trimLeft (blanks ++ c :: behind) = c :: behind := by
  rw [trimLeft, List.dropWhile_append_of_pos (List.all_eq_true.1 h), List.dropWhile_cons_of_neg]
  rw [hc]
  decide

/-- A call opens at the start of a text. -/
theorem opensFrom_nil_iff {previous : Option Char} {callee text behind : Text} :
    OpensFrom previous callee text [] behind ↔ isBoundary previous = true ∧
      (dropStart? callee text).map trimLeft = some ('(' :: behind) := by
  rw [Option.map_eq_some_iff]
  constructor
  · rintro ⟨blanks, rfl, hprevious, hblanks⟩
    refine ⟨hprevious, blanks ++ '(' :: behind, ?_, trimLeft_blanks hblanks (by decide)⟩
    rw [List.nil_append, List.append_assoc, dropStart?_append]
  · rintro ⟨hprevious, rest, hdrop, htrim⟩
    obtain ⟨blanks, rfl, hblanks⟩ := trimLeft_eq_cons htrim
    refine ⟨blanks, ?_, hprevious, hblanks⟩
    rw [← append_of_dropStart? hdrop, List.nil_append, List.append_assoc]

theorem callStart?_of_opensFrom {previous : Option Char} {callee text behind : Text} {c : Char}
    (h : OpensFrom previous callee (c :: text) [] behind) :
    callStart? callee previous (c :: text) = some (text.length + 1 - behind.length) := by
  obtain ⟨hprevious, hdrop⟩ := opensFrom_nil_iff.1 h
  simp only [callStart?, hdrop, if_pos hprevious]

theorem callStart?_of_not_opensFrom {previous : Option Char} {callee text : Text} {c : Char}
    (h : ¬ ∃ behind, OpensFrom previous callee (c :: text) [] behind) :
    callStart? callee previous (c :: text) = (callStart? callee (some c) text).map (· + 1) := by
  rw [callStart?]
  split
  · rename_i count hcount
    split at hcount
    · rename_i hprevious
      split at hcount
      · rename_i behind hdrop
        exact absurd ⟨behind, opensFrom_nil_iff.2 ⟨hprevious, hdrop⟩⟩ h
      · cases hcount
    · cases hcount
  · rfl

/-- **The place that is found is the first one at which a call opens.** -/
theorem opensFrom_of_callStart? {callee text : Text} {previous : Option Char} {start : Nat}
    (h : callStart? callee previous text = some start) :
    ∃ before behind, OpensFrom previous callee text before behind ∧
      text.length - behind.length = start ∧
      ∀ other rest, OpensFrom previous callee text other rest → before.length ≤ other.length := by
  induction text generalizing previous start with
  | nil => cases h
  | cons c text ih =>
      by_cases hhere : ∃ behind, OpensFrom previous callee (c :: text) [] behind
      · obtain ⟨behind, hopens⟩ := hhere
        rw [callStart?_of_opensFrom hopens, Option.some.injEq] at h
        exact ⟨[], behind, hopens, h, fun _ _ _ => Nat.zero_le _⟩
      · rw [callStart?_of_not_opensFrom hhere] at h
        obtain ⟨inner, hinner, rfl⟩ := Option.map_eq_some_iff.1 h
        obtain ⟨before, behind, hopens, rfl, hfirst⟩ := ih hinner
        refine ⟨c :: before, behind, opensFrom_cons.2 hopens, ?_, fun other rest hother => ?_⟩
        · obtain ⟨blanks, htext, -⟩ := hopens
          have hlength := congrArg List.length htext
          rw [List.length_append, List.length_cons] at hlength
          rw [List.length_cons]
          omega
        · cases other with
          | nil => exact absurd ⟨rest, hother⟩ hhere
          | cons d other =>
              obtain ⟨blanks, htext, -⟩ := id hother
              obtain ⟨rfl, -⟩ := List.cons.inj htext
              exact Nat.succ_le_succ (hfirst other rest (opensFrom_cons.1 hother))

/-- Where no place is found, no call opens. -/
theorem not_opensFrom_of_callStart? {callee text : Text} {previous : Option Char}
    (h : callStart? callee previous text = none) (before behind : Text) :
    ¬ OpensFrom previous callee text before behind := by
  induction text generalizing previous before with
  | nil =>
      rintro ⟨blanks, htext, -⟩
      simp at htext
  | cons c text ih =>
      by_cases hhere : ∃ behind, OpensFrom previous callee (c :: text) [] behind
      · obtain ⟨other, hopens⟩ := hhere
        rw [callStart?_of_opensFrom hopens] at h
        cases h
      · rw [callStart?_of_not_opensFrom hhere, Option.map_eq_none_iff] at h
        intro hopens
        cases before with
        | nil => exact hhere ⟨behind, hopens⟩
        | cons d before =>
            obtain ⟨blanks, htext, -⟩ := id hopens
            obtain ⟨rfl, -⟩ := List.cons.inj htext
            exact ih h before (opensFrom_cons.1 hopens)

theorem opensFrom_none {callee expression before behind : Text} :
    OpensFrom none callee expression before behind ↔ Opens callee expression before behind := by
  simp only [OpensFrom, Opens, Option.or_none]

theorem opensFirst_of_callStart? {callee expression : Text} {start : Nat}
    (h : callStart? callee none expression = some start) :
    ∃ before behind, OpensFirst callee expression before behind ∧
      expression.length - behind.length = start := by
  obtain ⟨before, behind, hfound, hstart, hfirst⟩ := opensFrom_of_callStart? h
  exact ⟨before, behind, ⟨opensFrom_none.1 hfound, fun other rest hother =>
    hfirst other rest (opensFrom_none.2 hother)⟩, hstart⟩

theorem not_isComposite {expression : Text} (h : callStart? bundleName none expression = none) :
    ¬ IsComposite expression := by
  rintro ⟨before, behind, hfirst, -⟩
  exact not_opensFrom_of_callStart? h before behind (opensFrom_none.2 hfirst.opens)

/-! ## Expressions that stay -/

theorem expandOne_of_not_mentions {expression : Text} (h : ¬ Mentions expression bundleName) :
    expandOne expression = .ok [expression] := by
  rw [← mentions_iff, Bool.not_eq_true] at h
  have hnone : compositeArgument? expression = .ok none := by
    rw [compositeArgument?, h]
    rfl
  rw [expandOne, hnone]
  rfl

/-- **An expression without a composite validator stands for itself.** -/
theorem expandOne_of_not_isComposite {expression : Text} (h : ¬ IsComposite expression) :
    expandOne expression = .ok [expression] := by
  have hnone : compositeArgument? expression = .ok none := by
    rw [compositeArgument?, argumentsOfCall]
    split
    · cases hstart : callStart? bundleName none expression with
      | none => rfl
      | some start =>
          obtain ⟨before, behind, hfirst, rfl⟩ := opensFirst_of_callStart? hstart
          -- the call can be read, and is given something else first or nothing at all
          have hread : ∃ call given, delimited expression (expression.length - behind.length) .round =
              .ok call ∧ arguments call.content = .ok given ∧
                ∀ literal, given.head? ≠ some ('\x7b' :: literal) := by
            by_contra hnot
            refine h ⟨before, behind, hfirst, fun call given hcall hgiven => ?_⟩
            by_contra hother
            exact hnot ⟨call, given, hcall, hgiven, fun literal heq => hother ⟨literal, heq⟩⟩
          obtain ⟨call, given, hcall, hgiven, hother⟩ := hread
          simp only [hcall, hgiven, bind, Except.bind, pure, Except.pure]
          cases given with
          | nil => rfl
          | cons first rest =>
              have hstarts : ¬ startsWith first ['\x7b'] = true := by
                intro hstarts
                obtain ⟨literal, rfl⟩ := startsWith_singleton.1 hstarts
                exact hother literal rfl
              simp only [if_neg hstarts]
    · rfl
  rw [expandOne, hnone]
  rfl

/-! ## Reading what is written -/

section

variable {entries : List (CompositeKey × Text)}

theorem IsEntryValue.isValue {value : Text} (h : IsEntryValue value) : IsValue value :=
  ⟨h.nonempty, h.trimmed, h.single⟩

theorem isName_compositeKey (key : CompositeKey) : IsName key.name := by
  cases key <;> decide

/-- An entry of a composite validator is one of an object literal. -/
def writtenEntry (entry : CompositeKey × Text) : WrittenEntry := .pair (.name entry.1.name) entry.2

theorem entriesText_eq (entries : List (CompositeKey × Text)) :
    entriesText entries = objectText (entries.map writtenEntry) := by
  rw [entriesText, objectText, List.map_map]
  rfl

theorem isSound_writtenEntry (h : ∀ entry ∈ entries, IsEntryValue entry.2) :
    ∀ written ∈ entries.map writtenEntry, written.IsSound := by
  intro written hwritten
  obtain ⟨entry, hentry, rfl⟩ := List.mem_map.1 hwritten
  exact ⟨isName_compositeKey entry.1, (h entry hentry).isValue⟩

theorem name_injective : Function.Injective CompositeKey.name := by
  intro first second h
  revert h
  cases first <;> cases second <;> decide

theorem nodup_keys (hkeys : (entries.map Prod.fst).Nodup) :
    (Table.keys (entries.map fun entry => (entry.1.name, entry.2))).Nodup := by
  rw [Table.keys, List.map_map]
  have hnames : entries.map (Prod.fst ∘ fun entry => (entry.1.name, entry.2)) =
      (entries.map Prod.fst).map CompositeKey.name := by
    rw [List.map_map]
    rfl
  rw [hnames]
  exact hkeys.map name_injective

/-- **The object literal of entries is read as these entries.** -/
theorem objectLiteral_entriesText (hkeys : (entries.map Prod.fst).Nodup)
    (h : ∀ entry ∈ entries, IsEntryValue entry.2) :
    objectLiteral (entriesText entries) =
      .ok (entries.map fun entry => (entry.1.name, entry.2)) := by
  have hmeant : (entries.map writtenEntry).map WrittenEntry.meant =
      entries.map fun entry => (entry.1.name, entry.2) := by
    rw [List.map_map]
    rfl
  rw [entriesText_eq, objectLiteral_objectText (isSound_writtenEntry h), hmeant,
    Table.ofList_of_distinct (nodup_keys hkeys)]

/-- **The composite validator is given the object literal of its entries.** -/
theorem compositeArgument?_callOf (h : ∀ entry ∈ entries, IsEntryValue entry.2) :
    compositeArgument? (callOf bundleName (entriesText entries)) = .ok (some (entriesText entries)) := by
  have hclosed : IsClosed (entriesText entries) := by
    rw [entriesText_eq]
    exact isClosed_objectText (isSound_writtenEntry h)
  have hmentions : mentions (callOf bundleName (entriesText entries)) bundleName = true :=
    mentions_iff.2 ⟨[], '(' :: (entriesText entries ++ [')']), rfl, rfl, rfl⟩
  have hopens : OpensFrom none bundleName ('v' :: ("alidator(".toList ++ (entriesText entries ++ [')']))) []
      (entriesText entries ++ [')']) := ⟨[], rfl, rfl, rfl⟩
  have hstart : callStart? bundleName none (callOf bundleName (entriesText entries)) = some 10 := by
    refine (callStart?_of_opensFrom hopens).trans (congrArg some ?_)
    rw [List.length_append, show "alidator(".toList.length = 9 from rfl]
    omega
  have hdelimited : delimited (callOf bundleName (entriesText entries)) 10 .round =
      .ok ⟨entriesText entries, 10 + (entriesText entries).length + 1⟩ :=
    delimited_closed hclosed .round "validator(".toList []
  have hgiven : arguments (entriesText entries) = .ok [entriesText entries] := by
    rw [arguments_piece hclosed.piece, entriesText_eq, trim_objectText]
    rfl
  have hstarts : startsWith (entriesText entries) ['\x7b'] = true := startsWith_singleton.2 ⟨_, rfl⟩
  rw [compositeArgument?, if_pos hmentions, argumentsOfCall, hstart]
  simp only [hdelimited, hgiven, bind, Except.bind, pure, Except.pure, if_pos hstarts]

theorem get?_map_name (key : CompositeKey) {value : Text} :
    Table.get? (entries.map fun entry => (entry.1.name, entry.2)) key.name = some value →
      (key, value) ∈ entries := by
  intro h
  obtain ⟨⟨other, found⟩, hentry, heq⟩ := List.mem_map.1 (Table.mem_of_get? h)
  obtain ⟨hname, rfl⟩ := Prod.mk.inj heq
  rwa [← name_injective hname]

/-- The handler is wrapped when an entry says so. -/
theorem wrapsHandler_eq (hkeys : (entries.map Prod.fst).Nodup)
    (h : ∀ entry ∈ entries, IsEntryValue entry.2) :
    wrapsHandler (entries.map fun entry => (entry.1.name, entry.2)) =
      decide ((.useWrappedUsecase, "true".toList) ∈ entries) := by
  rw [Bool.eq_iff_iff, decide_eq_true_iff, wrapsHandler]
  constructor
  · intro hwraps
    split at hwraps
    · rename_i value hvalue
      have hentry := get?_map_name .useWrappedUsecase hvalue
      have htrim : trim value = value := (h _ hentry).trimmed
      rw [beq_iff_eq, htrim] at hwraps
      rwa [hwraps] at hentry
    · cases hwraps
  · intro hentry
    have hget : Table.get? (entries.map fun entry => (entry.1.name, entry.2))
        "useWrappedUsecase".toList = some "true".toList :=
      Table.get?_of_mem (nodup_keys hkeys) (List.mem_map.2 ⟨_, hentry, rfl⟩)
    rw [hget]
    decide

/-- **A composite validator stands for the expressions written out.** -/
theorem expandOne_callOf (hkeys : (entries.map Prod.fst).Nodup)
    (h : ∀ entry ∈ entries, IsEntryValue entry.2) :
    expandOne (callOf bundleName (entriesText entries)) = .ok (writtenOut entries) := by
  rw [expandOne, compositeArgument?_callOf h]
  simp only [bind, Except.bind, objectLiteral_entriesText hkeys h, pure, Except.pure, List.filterMap_map]
  rw [writtenOut, ← wrapsHandler_eq hkeys h]
  refine congrArg Except.ok (List.filterMap_congr fun entry _ => ?_)
  rcases entry with ⟨key, value⟩
  cases key with
  | _ => rfl

end

/-! ## Chains -/

theorem expandTexts_append (first rest : List Text) :
    expandTexts (first ++ rest) = (do
      let before ← expandTexts first
      let behind ← expandTexts rest
      pure (before ++ behind)) := by
  induction first with
  | nil =>
      rw [List.nil_append, expandTexts]
      cases expandTexts rest with
      | _ => rfl
  | cons expression first ih =>
      rw [List.cons_append, expandTexts, expandTexts, ih]
      cases expandOne expression with
      | error fault => rfl
      | ok one =>
          cases expandTexts first with
          | error fault => rfl
          | ok before =>
              cases expandTexts rest with
              | error fault => rfl
              | ok behind => simp [bind, Except.bind, pure, Except.pure]

theorem expandTexts_singleton {expression : Text} {texts : List Text}
    (h : expandOne expression = .ok texts) : expandTexts [expression] = .ok texts := by
  rw [expandTexts, h]
  exact congrArg Except.ok (List.append_nil texts)

theorem expandTexts_of_free {texts : List Text} (h : ∀ text ∈ texts, ¬ Mentions text bundleName) :
    expandTexts texts = .ok texts := by
  induction texts with
  | nil => rfl
  | cons text texts ih =>
      rw [List.forall_mem_cons] at h
      rw [expandTexts, expandOne_of_not_mentions h.1, ih h.2]
      rfl

/-- What a chain is expanded to, where it is known for a part of it. -/
theorem expand_between {chain : List Expression} {before behind texts given : List Text}
    (hchain : chain.map Expression.text = before ++ texts ++ behind)
    (h : expandTexts texts = .ok given) :
    expand chain = (do
      let first ← expandTexts before
      let last ← expandTexts behind
      pure (chainOf (first ++ given ++ last))) := by
  rw [expand, hchain, expandTexts_append, expandTexts_append, h]
  cases expandTexts before with
  | error fault => rfl
  | ok first =>
      cases expandTexts behind with
      | error fault => rfl
      | ok last => rfl

theorem not_mentions_callOf {callee value : Text} (hcallee : mentions callee bundleName = false)
    (h : ¬ Mentions value bundleName) : ¬ Mentions (callOf callee value) bundleName := by
  have hparts : ∀ c ∈ bundleName, isIdentifierPart c = true := List.all_eq_true.1 (by decide)
  rw [← mentions_iff, Bool.not_eq_true] at h
  rw [← mentions_iff, callOf, mentions_mark hparts (by decide), mentions_mark hparts (by decide), hcallee, h]
  decide

theorem not_mentions_writtenOut {entries : List (CompositeKey × Text)}
    (h : ∀ entry ∈ entries, IsEntryValue entry.2) :
    ∀ text ∈ writtenOut entries, ¬ Mentions text bundleName := by
  intro text htext
  obtain ⟨⟨key, value⟩, hentry, heq⟩ := List.mem_filterMap.1 htext
  have hfree : ¬ Mentions value bundleName := (h _ hentry).free
  generalize decide ((CompositeKey.useWrappedUsecase, "true".toList) ∈ entries) = wrapped at heq
  cases key with
  | useWrappedUsecase => cases heq
  | usecase =>
      cases wrapped with
      | false =>
          cases heq
          exact hfree
      | true =>
          cases heq
          exact not_mentions_callOf (by decide) hfree
  | _ =>
      cases heq
      exact not_mentions_callOf (by decide) hfree

/-- **A composite validator means the same as the chain written out.** Where distinct keys have values
that are single expressions which do not mention the composite validator, the composite validator can be
replaced in every chain, whatever the positions, by the expressions its entries stand for: the chain is
expanded to the same expressions, the written ones in its place, and the same record is made of it. Every
expression that contains no composite validator is kept in its place. -/
theorem composite_writes_out {entries : List (CompositeKey × Text)}
    (hkeys : (entries.map Prod.fst).Nodup) (hvalues : ∀ entry ∈ entries, IsEntryValue entry.2)
    (before behind : List Text) :
    (∀ chain written : List Expression,
      chain.map Expression.text = before ++ callOf bundleName (entriesText entries) :: behind →
      written.map Expression.text = before ++ writtenOut entries ++ behind →
        expand chain = expand written ∧
        expand chain = (do
          let first ← expandTexts before
          let last ← expandTexts behind
          pure (chainOf (first ++ writtenOut entries ++ last))) ∧
        ∀ (setup : Setup) (provider : Provider) (declaration : Declaration) (subject : Subject),
          build setup provider declaration subject chain =
            build setup provider declaration subject written) ∧
    ∀ (chain : List Expression) (expression : Text), ¬ IsComposite expression →
      chain.map Expression.text = before ++ expression :: behind →
        expand chain = (do
          let first ← expandTexts before
          let last ← expandTexts behind
          pure (chainOf (first ++ [expression] ++ last))) := by
  -- the call is written out to the same texts as those that stand for it, which stay as they are
  have hcall := expandTexts_singleton (expandOne_callOf hkeys hvalues)
  have hkept := expandTexts_of_free (not_mentions_writtenOut hvalues)
  constructor
  · intro chain written hchain hwritten
    rw [List.append_cons] at hchain
    have hplace := expand_between hchain hcall
    have hsame := hplace.trans (expand_between hwritten hkept).symm
    refine ⟨hsame, hplace, fun setup provider declaration subject => ?_⟩
    rw [build, build, classify, classify, hsame]
  · intro chain expression hother hchain
    rw [List.append_cons] at hchain
    exact expand_between hchain (expandTexts_singleton (expandOne_of_not_isComposite hother))

/-- The entries of a registration: a value with a quoted parenthesis and a comment, one in brackets, and a
handler to be wrapped. -/
def registration : List (CompositeKey × Text) :=
  [(.body, "s.user".toList), (.usecase, "add(')' /*,*/)".toList), (.useWrappedUsecase, "true".toList),
   (.response, "[s.out]".toList)]

/-- The composite validator of the registration. -/
def registrationCall : Text :=
  "validator(\x7bbody: s.user, usecase: add(')' /*,*/), ".toList ++
    "useWrappedUsecase: true, response: [s.out]\x7d)".toList

/-- A registration means the same as its chain written out, and a similar name is no composite validator. -/
theorem registration_writes_out :
    expand (chainOf ["auth".toList, registrationCall]) =
      expand (chainOf ["auth".toList, "validateBody(s.user)".toList,
        "usecaseWrapper(add(')' /*,*/))".toList, "validateResponse([s.out])".toList]) ∧
    expand (chainOf ["auth".toList, "validators.check(x)".toList, "log".toList]) =
      .ok (chainOf ["auth".toList, "validators.check(x)".toList, "log".toList]) := by
  have hvalues : ∀ entry ∈ registration, IsEntryValue entry.2 := by
    have value : ∀ {text : Text}, text ≠ [] → trim text = text →
        arguments (text ++ ",x".toList) = .ok [text, "x".toList] → mentions text bundleName = false →
        IsEntryValue text := fun hne htrim hsingle hfree => ⟨hne, htrim, hsingle, not_mentions_iff.1 hfree⟩
    simp only [registration, List.forall_mem_cons]
    refine ⟨?_, ?_, ?_, ?_, nofun⟩
    all_goals exact value (by decide +kernel) (by decide +kernel) (by decide +kernel) (by decide +kernel)
  have hother : ¬ IsComposite "validators.check(x)".toList :=
    not_isComposite (by decide +kernel)
  have htext : callOf bundleName (entriesText registration) = registrationCall := by
    decide +kernel
  have hwritten : writtenOut registration = ["validateBody(s.user)".toList,
      "usecaseWrapper(add(')' /*,*/))".toList, "validateResponse([s.out])".toList] := by
    decide +kernel
  obtain ⟨hplaced, -⟩ := composite_writes_out (by decide) hvalues ["auth".toList] []
  obtain ⟨-, hkept⟩ := composite_writes_out (by decide) hvalues ["auth".toList] ["log".toList]
  rw [htext, hwritten] at hplaced
  exact ⟨(hplaced _ _ (map_text_chainOf _) (map_text_chainOf _)).1,
    hkept _ _ hother (map_text_chainOf _)⟩

end RouteAtlas.Middleware
