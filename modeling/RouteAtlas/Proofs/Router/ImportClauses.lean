import RouteAtlas.Proofs.Text.Blanks
import RouteAtlas.Proofs.Text.Parts
import RouteAtlas.Router.Import

/-!
# Import clauses as they are written

A clause gives a name to the default export, to the whole module, or to the exports it lists in braces
with optional aliases. Read back, a written clause binds the names that it was written for, in order
(`clauseNames_text`).
-/

set_option autoImplicit false

namespace RouteAtlas.Router

open Text

/-! ## Clauses -/

/-- An export listed in braces, and the alias it is bound to if there is one. -/
structure BracedName where
  exported : Text
  aliased : Option Text
  isName_exported : IsName exported
  isName_aliased : ∀ name ∈ aliased, IsName name

/-- The name that is bound in the importing file. -/
def BracedName.localName (name : BracedName) : Text := name.aliased.getD name.exported

def BracedName.text (name : BracedName) : Text :=
  match name.aliased with
  | none => name.exported
  | some aliased => name.exported ++ (" as ".toList ++ aliased)

/-- What a clause binds besides the default export: the whole module, or a list of its exports. -/
inductive Exports where
  | whole (name : Text) (isName : IsName name)
  | braced (names : List BracedName)

/-- The names that are bound, with what they import. -/
def Exports.names : Exports → List (Text × Text)
  | .whole name _ => [(name, wholeModule)]
  | .braced names => names.map fun name => (name.localName, name.exported)

/-- The names between the braces of a clause, with a blank at either end. -/
def bracedText (names : List BracedName) : Text :=
  ' ' :: (join [',', ' '] (names.map BracedName.text) ++ [' '])

def Exports.text : Exports → Text
  | .whole name _ => '*' :: ' ' :: 'a' :: 's' :: ' ' :: name
  | .braced names => '\x7b' :: (bracedText names ++ ['\x7d'])

/-- A clause that binds a name: to the default export, to others, or to both. -/
inductive Clause where
  | single (name : Text) (isName : IsName name)
  | beside (name : Text) (isName : IsName name) (exports : Exports)
  | listing (exports : Exports) (binds : exports.names ≠ [])

def Clause.names : Clause → List (Text × Text)
  | .single name _ => [(name, defaultName)]
  | .beside name _ exports => (name, defaultName) :: exports.names
  | .listing exports _ => exports.names

def Clause.text : Clause → Text
  | .single name _ => name
  | .beside name _ exports => name ++ (',' :: ' ' :: exports.text)
  | .listing exports _ => exports.text

theorem Clause.names_ne_nil (clause : Clause) : clause.names ≠ [] := by
  cases clause with
  | single name isName => exact List.cons_ne_nil _ _
  | beside name isName exports => exact List.cons_ne_nil _ _
  | listing exports binds => exact binds

/-! ## The characters of a clause -/

theorem BracedName.isTight (name : BracedName) : IsTight name.text := by
  rw [text]
  split
  · exact name.isName_exported.isTight
  · rename_i aliased haliased
    exact name.isName_exported.isTight.between (name.isName_aliased aliased haliased).isTight _

theorem Exports.isTight (exports : Exports) : IsTight exports.text := by
  cases exports with
  | whole name isName =>
      exact (isTight_singleton (by decide : isBlank '*' = false)).between isName.isTight [' ', 'a', 's', ' ']
  | braced names =>
      exact (isTight_singleton (by decide : isBlank '\x7b' = false)).between
        (isTight_singleton (by decide : isBlank '\x7d' = false)) (bracedText names)

theorem Clause.isTight (clause : Clause) : IsTight clause.text := by
  cases clause with
  | single name isName => exact isName.isTight
  | beside name isName exports => exact isName.isTight.between exports.isTight [',', ' ']
  | listing exports binds => exact exports.isTight

theorem BracedName.mem_text {name : BracedName} {c : Char} (h : c ∈ name.text) :
    isNamePart c = true ∨ c = ' ' := by
  rw [text] at h
  split at h
  · exact .inl (name.isName_exported.parts c h)
  · rename_i aliased haliased
    have hblank : (" as ".toList.all fun d => isNamePart d || d == ' ') = true := by decide
    rcases List.mem_append.1 h with hexported | hrest
    · exact .inl (name.isName_exported.parts c hexported)
    · rcases List.mem_append.1 hrest with hword | haliased'
      · simpa using List.all_eq_true.1 hblank c hword
      · exact .inl ((name.isName_aliased aliased haliased).parts c haliased')

theorem mem_bracedText {names : List BracedName} {c : Char} (h : c ∈ bracedText names) :
    isNamePart c = true ∨ c = ' ' ∨ c = ',' := by
  rw [bracedText, List.mem_cons, List.mem_append, List.mem_singleton] at h
  rcases h with hblank | hjoined | hblank
  · exact .inr (.inl hblank)
  · rcases mem_join hjoined with hseparator | ⟨part, hpart, hc⟩
    · simp only [List.mem_cons, List.not_mem_nil, or_false] at hseparator
      exact .inr hseparator.symm
    · obtain ⟨name, -, rfl⟩ := List.mem_map.1 hpart
      exact (BracedName.mem_text hc).imp_right .inl
  · exact .inr (.inl hblank)

theorem Exports.mem_text {exports : Exports} {c : Char} (h : c ∈ exports.text) :
    isNamePart c = true ∨ c ∈ [' ', ',', '*', '\x7b', '\x7d'] := by
  cases exports with
  | whole name isName =>
      have hsplit : c ∈ ['*', ' ', 'a', 's', ' '] ++ name := h
      rcases List.mem_append.1 hsplit with hword | hname
      · have hparts : (['*', ' ', 'a', 's', ' '].all fun d =>
            isNamePart d || decide (d ∈ [' ', ',', '*', '\x7b', '\x7d'])) = true := by decide
        simpa only [Bool.or_eq_true, decide_eq_true_eq] using List.all_eq_true.1 hparts c hword
      · exact .inl (isName.parts c hname)
  | braced names =>
      rw [text, List.mem_cons, List.mem_append, List.mem_singleton] at h
      rcases h with rfl | hinner | rfl
      · exact .inr (by decide)
      · rcases mem_bracedText hinner with hpart | rfl | rfl
        · exact .inl hpart
        · exact .inr (by decide)
        · exact .inr (by decide)
      · exact .inr (by decide)

/-- A clause consists of the characters of names, of blanks and of the marks between names. -/
theorem Clause.mem_text {clause : Clause} {c : Char} (h : c ∈ clause.text) :
    isNamePart c = true ∨ c ∈ [' ', ',', '*', '\x7b', '\x7d'] := by
  cases clause with
  | single name isName => exact .inl (isName.parts c h)
  | beside name isName exports =>
      rw [text, List.mem_append, List.mem_cons, List.mem_cons] at h
      rcases h with hname | rfl | rfl | hexports
      · exact .inl (isName.parts c hname)
      · exact .inr (by decide)
      · exact .inr (by decide)
      · exact Exports.mem_text hexports
  | listing exports binds => exact Exports.mem_text h

theorem Clause.not_mem_text {clause : Clause} {c : Char} (hpart : isNamePart c = false)
    (hmark : c ∉ [' ', ',', '*', '\x7b', '\x7d']) : c ∉ clause.text := by
  intro h
  rcases mem_text h with hname | hmem
  · exact Bool.false_ne_true (hpart.symm.trans hname)
  · exact hmark hmem

/-! ## The names of a clause -/

/-- The parts of a text with a comma are those before it and those behind it. -/
theorem listed_append {text : Text} (h : ',' ∉ text) (rest : Text) :
    listed (text ++ ',' :: rest) = listed text ++ listed rest := by
  simp only [listed, partsBy_append h, partsBy_of_not_mem h, List.map_cons, List.map_nil]
  exact List.filter_append (p := fun part => !part.isEmpty) [trim text] _

theorem listed_of_trim {text part : Text} (h : ',' ∉ text) (htrim : trim text = part) (hne : part ≠ []) :
    listed text = [part] := by
  simp [listed, partsBy_of_not_mem h, htrim, hne]

/-- The names between braces are listed one by one. -/
theorem listed_bracedText (names : List BracedName) : listed (bracedText names) = names.map BracedName.text := by
  have hcomma : ∀ name : BracedName, ',' ∉ name.text := by
    intro name hmem
    rcases BracedName.mem_text hmem with hpart | hblank
    · exact absurd hpart (by decide)
    · exact absurd hblank (by decide)
  induction names with
  | nil => rfl
  | cons name names ih =>
      have htight := name.isTight
      by_cases hlast : names = []
      · have htrim : trim ([' '] ++ name.text ++ [' ']) = name.text := htight.trim_surrounded rfl rfl
        have hjoin : bracedText [name] = [' '] ++ name.text ++ [' '] := rfl
        rw [hlast, hjoin, listed_of_trim (by simp [hcomma name]) htrim htight.ne_nil]
        rfl
      · have htrim : trim ([' '] ++ name.text ++ []) = name.text := htight.trim_surrounded rfl rfl
        rw [List.append_nil] at htrim
        have hjoin : bracedText (name :: names) = ([' '] ++ name.text) ++ ',' :: bracedText names := by
          rw [bracedText, List.map_cons, join_cons (by simpa using hlast), bracedText]
          simp
        rw [hjoin, listed_append (by simp [hcomma name]), listed_of_trim (by simp [hcomma name]) htrim htight.ne_nil,
          ih]
        rfl

theorem bracedNames_bracedText (names : List BracedName) :
    bracedNames (bracedText names) = names.map fun name => (name.localName, name.exported) := by
  rw [bracedNames, listed_bracedText, List.map_map]
  apply List.map_congr_left
  intro name _
  have hexported : trim name.exported = name.exported := name.isName_exported.trim_eq
  have hblank : ' ' ∉ name.exported := name.isName_exported.not_mem (by decide)
  cases haliased : name.aliased with
  | none =>
      have hcut : cut? " as ".toList name.exported = none := cut?_eq_none hblank
      simp only [Function.comp_apply, BracedName.text, BracedName.localName, haliased, hcut, hexported, Option.getD_none]
  | some aliased =>
      have hname := name.isName_aliased aliased haliased
      have hcut : cut? " as ".toList (name.exported ++ (" as ".toList ++ aliased)) = some (name.exported, aliased) :=
        cut?_append hblank aliased
      have hne : aliased.isEmpty = false := by simpa using hname.nonempty
      simp only [Function.comp_apply, BracedName.text, BracedName.localName, haliased, hcut, hexported, hname.trim_eq,
        hne, Option.getD_some]
      rfl

theorem outerNames_append {text : Text} (h : ',' ∉ text) (rest : Text) :
    outerNames (text ++ ',' :: rest) = outerNames text ++ outerNames rest := by
  rw [outerNames, listed_append h, List.map_append]
  rfl

/-- A name outside the braces stands for the default export. -/
theorem outerNames_name {name : Text} (h : IsName name) : outerNames name = [(name, defaultName)] := by
  have hstar : startsWith name ['*'] = false := by
    obtain ⟨c, rest, rfl⟩ := List.exists_cons_of_ne_nil h.nonempty
    have hc : '*' ≠ c := by
      rintro rfl
      exact absurd (h.parts '*' List.mem_cons_self) (by decide)
    simp [startsWith, dropStart?, hc]
  rw [outerNames, listed_of_trim (h.not_mem (by decide)) h.trim_eq h.nonempty, List.map_singleton, hstar]
  rfl

/-- A star outside the braces stands for the whole module. -/
theorem outerNames_whole {name : Text} (h : IsName name) (blanks : Text) (hblank : isBlankText blanks = true)
    (hcomma : ',' ∉ blanks) :
    outerNames (blanks ++ (Exports.whole name h).text) = [(name, wholeModule)] := by
  have hname : ',' ∉ name := h.not_mem (by decide)
  have htrim : trim (blanks ++ (Exports.whole name h).text) = (Exports.whole name h).text := by
    simpa using (Exports.whole name h).isTight.trim_surrounded hblank (rfl : isBlankText [] = true)
  have hcut : cut? "as".toList (Exports.whole name h).text = some ("* ".toList, ' ' :: name) := rfl
  have hlocal : trim (' ' :: name) = name := by
    simpa using h.trim_surrounded (rfl : [' '].all isBlank = true) List.all_nil
  have hlisted : listed (blanks ++ (Exports.whole name h).text) = [(Exports.whole name h).text] :=
    listed_of_trim (by simp [Exports.text, hcomma, hname]) htrim (List.cons_ne_nil _ _)
  have hstar : startsWith (Exports.whole name h).text ['*'] = true := rfl
  rw [outerNames, hlisted, List.map_singleton, if_pos hstar, hcut]
  simp only [hlocal]

theorem splitBraces_of_not_mem {clause : Text} (h : '\x7b' ∉ clause) : splitBraces clause = (clause, []) := by
  rw [splitBraces, cut?_eq_none h]

/-- A closing brace at the end of a clause belongs to its first opening one. -/
theorem splitBraces_braced {before : Text} (h : '\x7b' ∉ before) (inner : Text) :
    splitBraces (before ++ '\x7b' :: (inner ++ ['\x7d'])) = (before, inner) := by
  have hclause : before ++ '\x7b' :: (inner ++ ['\x7d']) = (before ++ '\x7b' :: inner) ++ ['\x7d'] := by simp
  have hreverse : (before ++ '\x7b' :: (inner ++ ['\x7d'])).reverse.takeWhile (· ≠ '\x7d') = [] := by
    rw [hclause, List.reverse_concat]
    rfl
  have hlength : (before ++ '\x7b' :: (inner ++ ['\x7d'])).length = (before ++ '\x7b' :: inner).length + 1 := by
    rw [hclause, List.length_append]
    rfl
  have hstop : (if ([] : Text).length = (before ++ '\x7b' :: (inner ++ ['\x7d'])).length then
      (before ++ '\x7b' :: (inner ++ ['\x7d'])).length - 1
      else (before ++ '\x7b' :: (inner ++ ['\x7d'])).length - ([] : Text).length - 1) =
        (before ++ '\x7b' :: inner).length := by
    rw [hlength, List.length_nil, if_neg (by omega)]
    omega
  have htake : (before ++ '\x7b' :: (inner ++ ['\x7d'])).take (before ++ '\x7b' :: inner).length =
      before ++ '\x7b' :: inner := by
    rw [hclause, List.take_left]
  have hdrop : (before ++ '\x7b' :: inner).drop (before.length + 1) = inner := by
    simp [List.drop_append]
  rw [splitBraces, cut?_append_cons h]
  simp only [hreverse, hstop, htake, hdrop]

/-- No written clause is one of types only. -/
theorem Clause.not_startsWith_type (clause : Clause) : startsWith clause.text "type ".toList = false := by
  have hnamed : ∀ {name rest : Text}, IsName name → (∀ c ∈ rest.head?, c = ',') →
      startsWith (name ++ rest) "type ".toList = false := by
    intro name rest hname hrest
    rw [startsWith, Option.isSome_eq_false_iff, Option.isNone_iff_eq_none]
    cases hdrop : dropStart? "type ".toList (name ++ rest) with
    | none => rfl
    | some behind =>
        have hblank : ' ' ∉ name := hname.not_mem (by decide)
        -- the blank behind the keyword would stand in the name or be the comma behind it
        rcases List.append_eq_append_iff.1 (append_of_dropStart? hdrop) with ⟨more, rfl, -⟩ | ⟨more, htype, hmore⟩
        · exact absurd (List.mem_append_left _ (by decide)) hblank
        · cases more with
          | nil =>
              rw [List.append_nil] at htype
              exact absurd (htype ▸ (by decide : ' ' ∈ "type ".toList)) hblank
          | cons c more =>
              obtain rfl := hrest c (by rw [hmore]; rfl)
              have hmem : ',' ∈ "type ".toList := htype ▸ List.mem_append_right _ List.mem_cons_self
              exact absurd hmem (by decide)
  have hexports : ∀ exports : Exports, startsWith exports.text "type ".toList = false := by
    intro exports
    cases exports with
    | whole name isName => rfl
    | braced names => rfl
  cases clause with
  | single name isName => simpa [text] using hnamed isName (nofun : ∀ c ∈ ([] : Text).head?, c = ',')
  | beside name isName exports =>
      refine hnamed isName ?_
      rintro _ ⟨⟩
      rfl
  | listing exports binds => exact hexports exports

/-- **A written clause binds the names it was written for.** -/
theorem clauseNames_text (clause : Clause) : clauseNames clause.text = clause.names := by
  have hbrace : ∀ {name : Text}, IsName name → '\x7b' ∉ name := fun h => h.not_mem (by decide)
  have hcomma : ∀ {name : Text}, IsName name → ',' ∉ name := fun h => h.not_mem (by decide)
  rw [clauseNames, clause.isTight.trim_eq]
  simp only [clause.not_startsWith_type, Bool.false_eq_true, if_false]
  cases clause with
  | single name isName =>
      rw [Clause.text, splitBraces_of_not_mem (hbrace isName)]
      exact (List.append_nil _).trans (outerNames_name isName)
  | beside name isName exports =>
      cases exports with
      | whole other isOther =>
          have hnone : '\x7b' ∉ (Clause.beside name isName (.whole other isOther)).text := by
            simp [Clause.text, Exports.text, hbrace isName, hbrace isOther]
          rw [splitBraces_of_not_mem hnone]
          refine (List.append_nil _).trans ?_
          rw [Clause.text, outerNames_append (hcomma isName), outerNames_name isName]
          exact congrArg ([(name, defaultName)] ++ ·) (outerNames_whole isOther [' '] rfl (by decide))
      | braced names =>
          have hbefore : '\x7b' ∉ name ++ [',', ' '] := by simp [hbrace isName]
          have hclause : (Clause.beside name isName (.braced names)).text =
              (name ++ [',', ' ']) ++ '\x7b' :: (bracedText names ++ ['\x7d']) := by
            simp [Clause.text, Exports.text]
          rw [hclause, splitBraces_braced hbefore]
          simp only [outerNames_append (hcomma isName), outerNames_name isName, bracedNames_bracedText]
          rfl
  | listing exports binds =>
      cases exports with
      | whole name isName =>
          have hnone : '\x7b' ∉ (Exports.whole name isName).text := by simp [Exports.text, hbrace isName]
          rw [Clause.text, splitBraces_of_not_mem hnone]
          exact (List.append_nil _).trans (outerNames_whole isName [] rfl List.not_mem_nil)
      | braced names =>
          have hclause : (Clause.listing (.braced names) binds).text =
              [] ++ '\x7b' :: (bracedText names ++ ['\x7d']) := rfl
          rw [hclause, splitBraces_braced List.not_mem_nil]
          simp only [bracedNames_bracedText]
          rfl

end RouteAtlas.Router
