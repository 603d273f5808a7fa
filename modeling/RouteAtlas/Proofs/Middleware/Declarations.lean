import RouteAtlas.Middleware.Composite
import RouteAtlas.Middleware.Responses
import RouteAtlas.Proofs.Source.Objects

/-!
# Written responses

A response is declared by an object literal of its status, its schema and its description, if it has
one. Responses that are written one after the other in the list of a response validator are read back
(`declaredResponses_recovers`): an object is passed as a whole once it declares a response, so the objects
in the schema of a response declare nothing.
-/

set_option autoImplicit false

namespace RouteAtlas.Middleware

open Text Source

/-! ## Responses as they are written -/

/-- The entries of the object literal that declares a response. -/
def ResponseEntry.entries (response : ResponseEntry) : List WrittenEntry :=
  [.pair (.name "status".toList) response.status, .pair (.name "schema".toList) response.schema] ++
    (response.description.map fun body => .pair (.name "description".toList) (quote body)).toList

/-- The object literal that declares a response. -/
def ResponseEntry.text (response : ResponseEntry) : Text := objectText response.entries

/-- The response validator with a list of responses. -/
def declarationText (responses : List ResponseEntry) : Text :=
  callOf responseValidator
    ('[' :: (join ", ".toList (responses.map ResponseEntry.text) ++ [']']))

/-- The status is made of digits, the schema is a single expression, and the description can stand in
single quotes as it is. -/
structure ResponseEntry.IsWritable (response : ResponseEntry) : Prop where
  coded : response.status ≠ []
  digits : ∀ c ∈ response.status, isDigit c = true
  schema : IsValue response.schema
  body : ∀ body ∈ response.description, IsBody body

instance (response : ResponseEntry) : Decidable response.IsWritable :=
  have : Decidable (∀ c ∈ response.status, isDigit c = true) := List.decidableBAll _ _
  decidable_of_iff (response.status ≠ [] ∧ (∀ c ∈ response.status, isDigit c = true) ∧
      IsValue response.schema ∧ ∀ body ∈ response.description, IsBody body)
    ⟨fun h => ⟨h.1, h.2.1, h.2.2.1, h.2.2.2⟩, fun h => ⟨h.coded, h.digits, h.schema, h.body⟩⟩

/-! ## Digits -/

theorem isPlain_of_isDigit {c : Char} (h : isDigit c = true) : isPlain c = true :=
  isPlain_of (by decide) h

theorem isInner_of_isDigit {c : Char} (h : isDigit c = true) : isInner c = true :=
  isInner_of (by decide) h

theorem isBlank_of_isDigit {c : Char} (h : isDigit c = true) : isBlank c = false := by
  by_cases hascii : c.toNat < 128
  · rw [isDigit, if_pos hascii] at h
    exact not_isBlank_of_isNamePart (by simp [isNamePart, Char.isAlphanum, h])
  · rw [isDigit, if_neg hascii] at h
    have hapart : ∀ range ∈ digitRanges, ∀ blank ∈ blankRanges,
        range.2 < blank.1 ∨ blank.2 < range.1 := by
      decide +kernel
    exact not_isBlank_of_inRanges hapart hascii h

section

variable {response : ResponseEntry}

theorem ResponseEntry.IsWritable.isPlain_status (h : response.IsWritable) :
    response.status.all isPlain = true :=
  List.all_eq_true.2 fun c hc => isPlain_of_isDigit (h.digits c hc)

theorem ResponseEntry.IsWritable.isValue_status (h : response.IsWritable) : IsValue response.status := by
  have hinner : response.status.all isInner = true :=
    List.all_eq_true.2 fun c hc => isInner_of_isDigit (h.digits c hc)
  refine (isClosed_plain h.isPlain_status hinner).isValue h.coded (trim_of_ends h.coded ?_ ?_)
  · exact fun c hc => isBlank_of_isDigit (h.digits c (List.mem_of_mem_head? hc))
  · exact fun c hc => isBlank_of_isDigit (h.digits c (List.mem_of_mem_getLast? hc))

theorem ResponseEntry.IsWritable.isSound (h : response.IsWritable) :
    ∀ entry ∈ response.entries, entry.IsSound := by
  have hname : IsName "status".toList ∧ IsName "schema".toList ∧ IsName "description".toList := by decide
  intro entry hentry
  simp only [ResponseEntry.entries, List.cons_append, List.nil_append, List.mem_cons,
    Option.mem_toList, Option.map_eq_some_iff] at hentry
  rcases hentry with rfl | rfl | ⟨body, hbody, rfl⟩
  · exact ⟨hname.1, h.isValue_status⟩
  · exact ⟨hname.2.1, h.schema⟩
  · exact ⟨hname.2.2, isValue_quote (h.body body hbody)⟩

/-- **The object literal of a response declares it.** -/
theorem responseOf?_entries (h : response.IsWritable) :
    responseOf? (literalEntries (join ", ".toList (response.entries.map WrittenEntry.text))) =
      some response := by
  have hread : objectLiteral ('\x7b' ::
      (join ", ".toList (response.entries.map WrittenEntry.text) ++ ['\x7d'])) =
        .ok (Table.ofList (response.entries.map WrittenEntry.meant)) :=
    objectLiteral_objectText h.isSound
  have hstatus : ∀ fallback, unquoteOr response.status fallback = fallback :=
    unquoteOr_plain h.isPlain_status
  have hdistinct : (Table.keys (response.entries.map WrittenEntry.meant)).Nodup := by
    rcases response with ⟨status, schema, _ | body⟩
    · show ["status".toList, "schema".toList].Nodup
      decide
    · show ["status".toList, "schema".toList, "description".toList].Nodup
      decide
  rw [literalEntries, hread, Table.ofList_of_distinct hdistinct]
  rcases response with ⟨status, schema, _ | body⟩
  · show some (ResponseEntry.mk (unquoteOr status status) schema none) = _
    rw [hstatus]
  · show some (ResponseEntry.mk (unquoteOr status status) schema (unquote? (quote body))) = _
    rw [hstatus, unquote?_quote]

end

/-! ## The walk from brace to brace -/

/-- What is passed over does not count, but for the offset. -/
theorem literalResponses_skip (count offset : Nat) (text : Text) :
    literalResponses count offset text = literalResponses 0 (offset + count) (text.drop count) := by
  induction count generalizing offset text with
  | zero => rfl
  | succ count ih =>
      cases text with
      | nil => simp [literalResponses]
      | cons c rest =>
          rw [literalResponses, ih, List.drop_succ_cons]
          congr 1
          omega

theorem literalResponses_other {c : Char} (hc : c ≠ '\x7b') (offset : Nat) (rest : Text) :
    literalResponses 0 offset (c :: rest) = literalResponses 0 (offset + 1) rest := by
  rw [literalResponses, if_neg hc]

/-- Nothing is declared where there is no brace. -/
theorem literalResponses_free {before : Text} (h : '\x7b' ∉ before) (offset : Nat) (rest : Text) :
    literalResponses 0 offset (before ++ rest) = literalResponses 0 (offset + before.length) rest := by
  induction before generalizing offset with
  | nil => rfl
  | cons c before ih =>
      rw [List.mem_cons, not_or] at h
      rw [List.cons_append, literalResponses_other (Ne.symm h.1), ih h.2, List.length_cons]
      congr 1
      omega

section

variable {offset : Nat} {rest : Text} {inside behind : List Lexeme}

/-- An object that declares a response is passed as a whole. -/
theorem literalResponses_declaring {entry : ResponseEntry}
    (hfound : splitAtCloser .curly (offset + 1) (offset + 1) 0 (lex rest) = .ok (inside, behind))
    (hentry : responseOf? (literalEntries (raw inside)) = some entry) :
    literalResponses 0 offset ('\x7b' :: rest) =
      (literalResponses 0 (offset + (raw inside).length + 2) (raw behind)).map (entry :: ·) := by
  have hrest : rest = raw inside ++ '\x7d' :: raw behind := by
    rw [← raw_lex rest, ← append_of_splitAtCloser hfound, raw_append, raw_cons]
    rfl
  have hdrop : rest.drop ((raw inside).length + 1) = raw behind := by
    rw [hrest, ← List.drop_drop, List.drop_left, List.drop_one, List.tail_cons]
  have hoffset : offset + 1 + ((raw inside).length + 1) = offset + (raw inside).length + 2 := by omega
  rw [literalResponses, if_pos rfl, hfound]
  simp only [bind, Except.bind, hentry, literalResponses_skip _ (offset + 1), hdrop, hoffset]
  cases literalResponses 0 (offset + (raw inside).length + 2) (raw behind) with
  | _ => rfl

/-- In braces that declare no response the next brace is looked for. -/
theorem literalResponses_passing
    (hfound : splitAtCloser .curly (offset + 1) (offset + 1) 0 (lex rest) = .ok (inside, behind))
    (hentry : responseOf? (literalEntries (raw inside)) = none) :
    literalResponses 0 offset ('\x7b' :: rest) = literalResponses 0 (offset + 1) rest := by
  rw [literalResponses, if_pos rfl, hfound]
  simp only [bind, Except.bind, hentry]

end

/-- **A written response is declared, and the walk goes on behind it.** -/
theorem literalResponses_text {response : ResponseEntry} (h : response.IsWritable) (offset : Nat)
    (rest : Text) :
    literalResponses 0 offset (response.text ++ rest) =
      (literalResponses 0 (offset + response.text.length) rest).map (response :: ·) := by
  have hclosed : ∀ part ∈ response.entries.map WrittenEntry.text, IsClosed part := by
    intro part hpart
    obtain ⟨entry, hentry, rfl⟩ := List.mem_map.1 hpart
    exact (h.isSound entry hentry).isClosed
  obtain ⟨inside, hlevels, hraw, hlex⟩ := exists_lex_before_closer hclosed .curly
  have htext : response.text = '\x7b' :: (raw inside ++ ['\x7d']) := by
    rw [hraw]
    rfl
  have hfound : splitAtCloser .curly (offset + 1) (offset + 1) 0 (lex (raw inside ++ '\x7d' :: rest)) =
      .ok (inside, lex rest) := by
    refine splitAtCloser_eq_ok_iff.2 ⟨?_, hlevels⟩
    rw [hraw]
    exact hlex rest
  have hentry : responseOf? (literalEntries (raw inside)) = some response := by
    rw [hraw]
    exact responseOf?_entries h
  have hlength : offset + response.text.length = offset + (raw inside).length + 2 := by
    rw [htext, List.length_cons, List.length_append, List.length_singleton]
    omega
  have hwhole : response.text ++ rest = '\x7b' :: (raw inside ++ '\x7d' :: rest) := by
    rw [htext, List.cons_append, List.append_assoc, List.singleton_append]
  rw [hlength, hwhole, literalResponses_declaring hfound hentry, raw_lex]

/-- The responses of a list are declared one after the other. -/
theorem literalResponses_join {responses : List ResponseEntry}
    (h : ∀ response ∈ responses, response.IsWritable) {after : Text} (hafter : '\x7b' ∉ after)
    (offset : Nat) :
    literalResponses 0 offset (join ", ".toList (responses.map ResponseEntry.text) ++ after) =
      .ok responses := by
  have hend : ∀ offset, literalResponses 0 offset after = .ok [] := by
    intro offset
    have hfree := literalResponses_free hafter offset []
    rwa [List.append_nil, literalResponses] at hfree
  induction responses generalizing offset with
  | nil => exact hend offset
  | cons response responses ih =>
      rw [List.forall_mem_cons] at h
      cases responses with
      | nil =>
          show literalResponses 0 offset (response.text ++ after) = _
          rw [literalResponses_text h.1, hend]
          rfl
      | cons next responses =>
          have hjoin : join ", ".toList ((response :: next :: responses).map ResponseEntry.text) =
              response.text ++ (", ".toList ++
                join ", ".toList ((next :: responses).map ResponseEntry.text)) := by
            simp [join]
          rw [hjoin, List.append_assoc, literalResponses_text h.1, List.append_assoc,
            literalResponses_free (by decide), ih h.2]
          rfl

/-- **Every response that is declared in the list of a response validator is recovered**, in order, with
its status, the expression of its schema and its description. Whatever objects stand in the schemas and
whatever braces in the descriptions, nothing is added. -/
theorem declaredResponses_recovers {responses : List ResponseEntry}
    (h : ∀ response ∈ responses, response.IsWritable) :
    declaredResponses (declarationText responses) = .ok responses := by
  cases responses with
  | nil =>
      -- without a response the positional form is looked for, and the empty list has no status
      decide +kernel
  | cons response responses =>
      have htext : declarationText (response :: responses) =
          (responseValidator ++ ['(', '[']) ++ (join ", ".toList ((response :: responses).map
            ResponseEntry.text) ++ [']', ')']) := by
        rw [declarationText, callOf, List.cons_append, List.append_assoc, List.append_assoc]
        rfl
      have hread : literalResponses 0 0 (declarationText (response :: responses)) =
          .ok (response :: responses) := by
        rw [htext, literalResponses_free (by decide), literalResponses_join h (by decide)]
      rw [declaredResponses, hread]
      rfl

/-- Responses with objects in a schema that have statuses and schemas themselves, with a brace in a
description, and with an empty description. -/
def loginResponses : List ResponseEntry :=
  [⟨"200".toList, "union(\x7bstatus: 1, schema: s.a\x7d, [\x7bstatus: 2, schema: s.b\x7d])".toList, none⟩,
   ⟨"401".toList, "s.error".toList, some "no \x7btoken\x7d: \"a\", /* b".toList⟩,
   ⟨"422".toList, "\x7bstatus: 422, schema: '\x7d'\x7d".toList, some []⟩]

/-- The responses are recovered, without those in their schemas. -/
theorem loginResponses_recovered :
    declarationText loginResponses =
        ("validateResponse([\x7bstatus: 200, ".toList ++
          "schema: union(\x7bstatus: 1, schema: s.a\x7d, [\x7bstatus: 2, schema: s.b\x7d])\x7d, ".toList ++
          "\x7bstatus: 401, schema: s.error, description: 'no \x7btoken\x7d: \"a\", /* b'\x7d, ".toList ++
          "\x7bstatus: 422, schema: \x7bstatus: 422, schema: '\x7d'\x7d, description: ''\x7d])".toList) ∧
      declaredResponses (declarationText loginResponses) = .ok loginResponses := by
  -- the texts are read character by character only once
  unfold loginResponses
  repeat rw [String.toList_ofList]
  exact ⟨by decide +kernel, declaredResponses_recovers (by decide +kernel)⟩

end RouteAtlas.Middleware
