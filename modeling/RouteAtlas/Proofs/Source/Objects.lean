import RouteAtlas.Proofs.Source.Enclosing
import RouteAtlas.Proofs.Unions

/-!
# Written object literals

An object literal is written from its entries: a key with a value behind a colon, or a name alone, which
stands for itself. What is written is read back: every key with the value of its last entry, the keys in
the order of their first entries (`objectLiteral_undoes_writing`). The values may hold colons, commas in
brackets and literals, objects and comments, as long as a comma behind the value would cut it off.
-/

set_option autoImplicit false

namespace RouteAtlas.Text

theorem startsWith_singleton {c : Char} {text : Text} :
    startsWith text [c] = true ↔ ∃ rest, text = c :: rest := by
  rw [startsWith, Option.isSome_iff_exists]
  refine exists_congr fun rest => ⟨fun h => (append_of_dropStart? h).symm, ?_⟩
  rintro rfl
  exact dropStart?_append [c] rest

theorem endsWith_concat (text : Text) (c : Char) : endsWith (text ++ [c]) [c] = true := by
  rw [endsWith, List.reverse_concat]
  exact startsWith_singleton.2 ⟨_, rfl⟩

end RouteAtlas.Text

namespace RouteAtlas.Source

open Text

/-! ## Entries as they are written -/

/-- A trimmed text that is cut off by a comma behind it. -/
structure IsValue (value : Text) : Prop where
  nonempty : value ≠ []
  trimmed : trim value = value
  single : arguments (value ++ ",x".toList) = .ok [value, "x".toList]

instance (value : Text) : Decidable (IsValue value) :=
  decidable_of_iff (value ≠ [] ∧ trim value = value ∧
      arguments (value ++ ",x".toList) = .ok [value, "x".toList])
    ⟨fun h => ⟨h.1, h.2.1, h.2.2⟩, fun h => ⟨h.nonempty, h.trimmed, h.single⟩⟩

/-- A key as it is written: a name, or a body between two quotes of a kind. -/
inductive WrittenKey where
  | name (text : Text)
  | quoted (mark : Char) (body : Text)

namespace WrittenKey

/-- The text of a key. -/
def text : WrittenKey → Text
  | name text => text
  | quoted mark body => quoteWith mark body

/-- The key that is meant. -/
def meant : WrittenKey → Text
  | name text => text
  | quoted _ body => body

/-- A name is an identifier; a body between quotes has no quotes, backslashes and colons in it. -/
def IsSound : WrittenKey → Prop
  | name text => IsName text
  | quoted mark body => isQuote mark = true ∧ body ≠ [] ∧
      ∀ c ∈ body, isQuote c = false ∧ c ≠ '\\' ∧ c ≠ ':'

instance : (key : WrittenKey) → Decidable key.IsSound
  | name text => inferInstanceAs (Decidable (IsName text))
  | quoted mark body =>
      have : Decidable (∀ c ∈ body, isQuote c = false ∧ c ≠ '\\' ∧ c ≠ ':') := List.decidableBAll _ body
      inferInstanceAs (Decidable (isQuote mark = true ∧ body ≠ [] ∧ _))

end WrittenKey

/-- An entry as it is written: a key with a value, or a name for itself. -/
inductive WrittenEntry where
  | pair (key : WrittenKey) (value : Text)
  | short (name : Text)

namespace WrittenEntry

/-- The text of an entry. -/
def text : WrittenEntry → Text
  | pair key value => key.text ++ ": ".toList ++ value
  | short name => name

/-- The key and the value that are meant. -/
def meant : WrittenEntry → Text × Text
  | pair key value => (key.meant, value)
  | short name => (name, name)

/-- An entry of a sound key and a value, or of an identifier. -/
def IsSound : WrittenEntry → Prop
  | pair key value => key.IsSound ∧ IsValue value
  | short name => IsName name

instance : (entry : WrittenEntry) → Decidable entry.IsSound
  | pair key value => inferInstanceAs (Decidable (key.IsSound ∧ IsValue value))
  | short name => inferInstanceAs (Decidable (IsName name))

end WrittenEntry

/-- The text of an object literal. -/
def objectText (entries : List WrittenEntry) : Text :=
  '\x7b' :: (join ", ".toList (entries.map WrittenEntry.text) ++ ['\x7d'])

/-! ## Closed entries -/

theorem IsValue.isClosed {value : Text} (h : IsValue value) : IsClosed value :=
  isClosed_of_arguments h.single

/-- A literal may stand before a closed text. -/
theorem IsClosed.behind_literal {text literal : Text} (h : IsClosed text)
    (hliteral : ∀ rest, lex (literal ++ rest) = .literal literal :: lex rest) :
    IsClosed (literal ++ text) := by
  refine ⟨?_, ?_⟩
  · rw [hliteral]
    exact isPieceBelow_nil.1 (isPieceBelow_cons.2 ⟨[], .literal literal, isPieceBelow_nil.2 h.piece⟩)
  · rw [List.append_assoc, hliteral, hliteral, h.cut, List.cons_append]

theorem isClosed_nil : IsClosed [] := by
  refine ⟨?_, ?_⟩
  · rw [lex]
    exact ⟨by simp [Unbroken], .nil, by simp [codeText]⟩
  · rw [List.nil_append, lex_cons_plain (by decide), lex, List.nil_append]

theorem isClosed_plain {text : Text} (hplain : text.all isPlain = true) (hinner : text.all isInner = true) :
    IsClosed text := by
  have hclosed := isClosed_nil.prepend hplain hinner
  rwa [List.append_nil] at hclosed

theorem isClosed_name {name : Text} (h : IsName name) : IsClosed name :=
  isClosed_plain (all_isPlain_of_isName h) (all_isInner_of_isName h)

theorem IsClosed.isValue {text : Text} (h : IsClosed text) (hne : text ≠ []) (htrim : trim text = text) :
    IsValue text := ⟨hne, htrim, h.arguments_comma htrim⟩

theorem isValue_quote {body : Text} (h : IsBody body) : IsValue (quote body) := by
  have hclosed := isClosed_nil.behind_literal (lex_append_quote h)
  rw [List.append_nil] at hclosed
  exact hclosed.isValue (List.cons_ne_nil _ _) (trim_quote body)

section

variable {mark : Char} {body : Text} {name value : Text}

theorem lex_key (hmark : isQuote mark = true)
    (hbody : ∀ c ∈ body, isQuote c = false ∧ c ≠ '\\' ∧ c ≠ ':') (rest : Text) :
    lex (quoteWith mark body ++ rest) = .literal (quoteWith mark body) :: lex rest := by
  refine lex_append_quoteWith hmark (fun c hc => ⟨?_, (hbody c hc).2.1⟩) rest
  rintro rfl
  rw [(hbody c hc).1] at hmark
  cases hmark

theorem isClosed_pair {key : WrittenKey} (hkey : key.IsSound) (hvalue : IsClosed value) :
    IsClosed (key.text ++ ": ".toList ++ value) := by
  have hbehind : IsClosed (": ".toList ++ value) := hvalue.prepend (by decide) (by decide)
  rw [List.append_assoc]
  cases key with
  | name text => exact hbehind.prepend (all_isPlain_of_isName hkey) (all_isInner_of_isName hkey)
  | quoted mark body => exact hbehind.behind_literal (lex_key hkey.1 hkey.2.2)

/-- A key starts with no blank. -/
theorem WrittenKey.IsSound.head {key : WrittenKey} (h : key.IsSound) (rest : Text) :
    ∀ c ∈ (key.text ++ rest).head?, isBlank c = false := by
  intro c hc
  cases key with
  | name text =>
      rw [WrittenKey.text, List.head?_append_of_ne_nil _ (IsName.nonempty h)] at hc
      exact IsName.not_isBlank h c (List.mem_of_mem_head? hc)
  | quoted mark body =>
      cases hc
      exact isBlank_of_isQuote h.1

theorem WrittenKey.IsSound.colon_not_mem {key : WrittenKey} (h : key.IsSound) : ':' ∉ key.text := by
  cases key with
  | name text => exact IsName.not_mem h (by decide)
  | quoted mark body =>
      have hmark : ':' ≠ mark := by
        rintro rfl
        exact absurd h.1 (by decide)
      simp only [WrittenKey.text, quoteWith, List.mem_cons, List.mem_append, List.not_mem_nil, or_false,
        not_or]
      exact ⟨hmark, fun hmem => (h.2.2 _ hmem).2.2 rfl, hmark⟩

/-- Plain code is no quoted token. -/
theorem unquoteOr_plain {token : Text} (h : token.all isPlain = true) (fallback : Text) :
    unquoteOr token fallback = fallback := by
  have hnone : unquote? token = none := by
    obtain ⟨before, behind, htoken, -⟩ := exists_trim token
    rw [htoken, List.all_append, List.all_append, Bool.and_eq_true, Bool.and_eq_true] at h
    rw [unquote?]
    rcases htrim : trim token with _ | ⟨c, _ | ⟨d, rest⟩⟩
    · rfl
    · rfl
    · rw [htrim] at h
      have hplain := List.all_eq_true.1 h.1.2 c List.mem_cons_self
      rw [isPlain, Bool.not_eq_true', Bool.or_eq_false_iff] at hplain
      simp [hplain.1]
  rw [unquoteOr, hnone]

theorem unquoteOr_name (h : IsName name) (fallback : Text) : unquoteOr name fallback = fallback :=
  unquoteOr_plain (all_isPlain_of_isName h) fallback

/-- **A key is read as it is meant.** -/
theorem WrittenKey.IsSound.unquoteOr_eq {key : WrittenKey} (h : key.IsSound) :
    unquoteOr key.text (trim key.text) = key.meant := by
  cases key with
  | name text => exact (unquoteOr_name h _).trans (IsName.trim_eq h)
  | quoted mark body =>
      obtain ⟨c, body, rfl⟩ := List.exists_cons_of_ne_nil h.2.1
      rw [unquoteOr, WrittenKey.text, unquote?_quoteWith h.1]
      rfl

end

namespace WrittenEntry

variable {entry : WrittenEntry}

theorem IsSound.isClosed (h : entry.IsSound) : IsClosed entry.text := by
  cases entry with
  | pair key value => exact isClosed_pair h.1 h.2.isClosed
  | short name => exact isClosed_name h

theorem IsSound.trim_eq (h : entry.IsSound) : trim entry.text = entry.text := by
  cases entry with
  | pair key value =>
      refine trim_append ?_ h.2.nonempty h.2.trimmed
      rw [List.append_assoc]
      exact h.1.head _
  | short name => exact IsName.trim_eq h

theorem IsSound.ne_nil (h : entry.IsSound) : entry.text ≠ [] := by
  cases entry with
  | pair key value => simp [text]
  | short name => exact IsName.nonempty h

/-- **An entry is read as it is meant.** -/
theorem IsSound.objectEntry_eq (h : entry.IsSound) : objectEntry entry.text = entry.meant := by
  cases entry with
  | pair key value =>
      -- the key has no colon, so the first one is that between the key and the value
      have hcut : cut? [':'] (text (pair key value)) = some (key.text, ' ' :: value) := by
        rw [text, List.append_assoc]
        exact cut?_append_cons h.1.colon_not_mem (' ' :: value)
      have hvalue : trim (' ' :: value) = trim value := rfl
      rw [objectEntry, hcut]
      simp only [h.1.unquoteOr_eq, hvalue, h.2.trimmed]
      rfl
  | short name =>
      have hcut : cut? [':'] name = none := cut?_eq_none (IsName.not_mem h (by decide))
      rw [objectEntry, text, hcut]
      simp only [unquoteOr_name h, IsName.trim_eq h]
      rfl

end WrittenEntry

/-! ## Objects -/

section

variable {entries : List WrittenEntry}

theorem trim_objectText (entries : List WrittenEntry) : trim (objectText entries) = objectText entries := by
  refine trim_of_ends (List.cons_ne_nil _ _) ?_ ?_
  · intro c hc
    cases hc
    decide
  · intro c hc
    rw [objectText, ← List.cons_append, List.getLast?_concat] at hc
    cases hc
    decide

theorem isClosed_objectText (h : ∀ entry ∈ entries, entry.IsSound) : IsClosed (objectText entries) := by
  refine isClosed_enclosed (fun part hpart => ?_) .curly
  obtain ⟨entry, hentry, rfl⟩ := List.mem_map.1 hpart
  exact (h entry hentry).isClosed

/-- **The entries of a written object are entered one after the other.** -/
theorem objectLiteral_objectText (h : ∀ entry ∈ entries, entry.IsSound) :
    objectLiteral (objectText entries) = .ok (Table.ofList (entries.map WrittenEntry.meant)) := by
  have hstarts : startsWith (objectText entries) ['\x7b'] = true := startsWith_singleton.2 ⟨_, rfl⟩
  have hends : endsWith (objectText entries) ['\x7d'] = true := by
    rw [objectText, ← List.cons_append]
    exact endsWith_concat _ _
  have hinner : ((objectText entries).drop 1).dropLast =
      join ", ".toList (entries.map WrittenEntry.text) := by
    rw [objectText, List.drop_one, List.tail_cons, List.dropLast_concat]
  have hparts : arguments (join ", ".toList (entries.map WrittenEntry.text)) =
      .ok (entries.map WrittenEntry.text) := by
    refine arguments_join (fun last hlast => ?_) fun part hpart => ?_
    · obtain ⟨entry, hentry, rfl⟩ := List.mem_map.1 (List.mem_of_mem_getLast? hlast)
      exact (h entry hentry).ne_nil
    · obtain ⟨entry, hentry, rfl⟩ := List.mem_map.1 hpart
      have htrim := (h entry hentry).trim_eq
      exact ⟨htrim, (h entry hentry).isClosed.arguments_comma htrim⟩
  have hmeant : (entries.map WrittenEntry.text).map objectEntry = entries.map WrittenEntry.meant := by
    rw [List.map_map]
    exact List.map_congr_left fun entry hentry => (h entry hentry).objectEntry_eq
  rw [objectLiteral, trim_objectText]
  simp only [hstarts, hends, Bool.and_self, if_true, hinner, hparts, Except.map, hmeant]

/-- **Reading an object literal undoes writing it.** Whatever values a comma would cut off and whatever
names and quoted texts are the keys, the literal of the entries is read, and what is read has the keys in
the order of their first entries and the values of their last ones: where the keys are distinct, it is the
list of the entries itself. -/
theorem objectLiteral_undoes_writing (h : ∀ entry ∈ entries, entry.IsSound) :
    ∃ table, objectLiteral (objectText entries) = .ok table ∧
      LastOfEach Prod.fst (entries.map WrittenEntry.meant) table ∧
      ((entries.map fun entry => entry.meant.1).Nodup → table = entries.map WrittenEntry.meant) := by
  refine ⟨_, objectLiteral_objectText h, Table.lastOfEach_ofList _, fun hdistinct => ?_⟩
  apply Table.ofList_of_distinct
  rwa [Table.keys, List.map_map]

end

/-- Entries with a repeated key, a quoted key, a name alone, and values with colons, commas, an object and a
comment in them. -/
def handlerEntries : List WrittenEntry :=
  [.pair (.name "run".toList) "a ? 'b:c' : d".toList, .short "usecase".toList,
   .pair (.quoted '"' "x, y".toList) "f(1, \x7bkey: [2, 3]\x7d) /* , : */".toList,
   .pair (.name "run".toList) "(\",\", s.out)".toList]

/-- The literal of the entries is read with the last value under the repeated key, at its first place. -/
theorem handlerEntries_read :
    objectText handlerEntries =
        ("\x7brun: a ? 'b:c' : d, usecase, \"x, y\": f(1, \x7bkey: [2, 3]\x7d) /* , : */, ".toList ++
          "run: (\",\", s.out)\x7d".toList) ∧
      objectLiteral (objectText handlerEntries) =
        .ok [("run".toList, "(\",\", s.out)".toList), ("usecase".toList, "usecase".toList),
          ("x, y".toList, "f(1, \x7bkey: [2, 3]\x7d) /* , : */".toList)] ∧
      LastOfEach Prod.fst (handlerEntries.map WrittenEntry.meant)
        [("run".toList, "(\",\", s.out)".toList), ("usecase".toList, "usecase".toList),
          ("x, y".toList, "f(1, \x7bkey: [2, 3]\x7d) /* , : */".toList)] := by
  have hread : objectLiteral (objectText handlerEntries) =
      .ok [("run".toList, "(\",\", s.out)".toList), ("usecase".toList, "usecase".toList),
        ("x, y".toList, "f(1, \x7bkey: [2, 3]\x7d) /* , : */".toList)] := by
    decide +kernel
  have hsound : ∀ entry ∈ handlerEntries, entry.IsSound := by decide +kernel
  obtain ⟨table, htable, hlast, -⟩ := objectLiteral_undoes_writing hsound
  cases hread.symm.trans htable
  exact ⟨by decide +kernel, hread, hlast⟩

end RouteAtlas.Source
