import RouteAtlas.Proofs.Router.ImportClauses
import Mathlib.Data.List.Chain
import Mathlib.Data.List.Flatten

/-!
# Import statements as they are written

An import statement is written on a line of its own: an indent, the clause and the module, with a
semicolon or without one. A statement that ends with a semicolon is read up to it. One without a
semicolon is read up to the next character that is no blank, and so takes the indent of the next line
along: a statement that stands there with an indent begins no line for the reader any more and is lost.
What the reader binds are the names of the statements that are not lost, and these are all of them
exactly when no statement without a semicolon is followed by one with an indent
(`bindings_written_iff`).
-/

set_option autoImplicit false

namespace RouteAtlas.Router

open Text

/-- A character that quotes a module or ends a statement. -/
def isStop (c : Char) : Bool := c = ';' || c = '\'' || c = '"'

/-! ## The module behind a clause -/

/-- The text behind a statement whose module has just been closed. -/
def behindModule (text : Text) : Text :=
  match trimLeft text with
  | ';' :: behind => behind
  | behind => behind

/-- The keyword before a module, the module and the text behind its closing quote. -/
def moduleText (module rest : Text) : Text :=
  'f' :: 'r' :: 'o' :: 'm' :: ' ' :: '\'' :: (module ++ '\'' :: rest)

theorem fromModule?_moduleText {module : Text} (hne : module ≠ []) (hplain : ∀ c ∈ module, isStop c = true → c = ';')
    (rest : Text) : fromModule? (moduleText module rest) = some (module, behindModule rest) := by
  have hparts : ∀ c ∈ module, (!(c == '\'' || c == '"')) = true := by
    intro c hc
    simp only [Bool.not_eq_true', Bool.or_eq_false_iff, beq_eq_false_iff_ne]
    constructor
    · rintro rfl
      exact absurd (hplain _ hc rfl) (by decide)
    · rintro rfl
      exact absurd (hplain _ hc rfl) (by decide)
  have hdrop : dropStart? "from".toList (moduleText module rest) = some (' ' :: '\'' :: (module ++ '\'' :: rest)) := rfl
  have hblank : skipBlanks1? (' ' :: '\'' :: (module ++ '\'' :: rest)) = some ('\'' :: (module ++ '\'' :: rest)) := rfl
  have htake : (module ++ '\'' :: rest).takeWhile (fun c => !(c == '\'' || c == '"')) = module := by
    rw [List.takeWhile_append_of_pos hparts, List.takeWhile_cons_of_neg (by decide), List.append_nil]
  have hbehind : (module ++ '\'' :: rest).drop module.length = '\'' :: rest := List.drop_left
  have hmodule : module.isEmpty = false := by simpa using hne
  rw [fromModule?, hdrop]
  simp only [Option.bind_eq_bind, Option.bind_some, hblank, htake, hbehind, hmodule]
  rw [behindModule]
  simp only [decide_true, Bool.true_or, if_true, Bool.not_false, Bool.and_true]
  rcases trimLeft rest with _ | ⟨c, behind⟩
  · rfl
  · by_cases hsemicolon : c = ';'
    · subst hsemicolon
      rfl
    · simp [hsemicolon]

/-! ## The end of a clause -/

/-- Where words stand before a keyword, the first character behind the blanks stops nothing. -/
theorem isStop_head?_trimLeft {word : Text} (hplain : ∀ c ∈ word, isStop c = false) (more : Text) :
    ∀ c ∈ (trimLeft (word ++ ' ' :: 'f' :: more)).head?, isStop c = false := by
  induction word with
  | nil =>
      rintro _ ⟨⟩
      decide
  | cons c word ih =>
      obtain ⟨hc, hrest⟩ := List.forall_mem_cons.1 hplain
      by_cases hblank : isBlank c = true
      · rw [trimLeft, List.cons_append, List.dropWhile_cons_of_pos hblank]
        exact ih hrest
      · rw [trimLeft, List.cons_append, List.dropWhile_cons_of_neg hblank]
        rintro _ ⟨⟩
        exact hc

/-- A keyword with words behind it comes before no module. -/
theorem fromModule?_from_append {word : Text} (hplain : ∀ c ∈ word, isStop c = false) (more : Text) :
    fromModule? ("from".toList ++ (word ++ ' ' :: 'f' :: more)) = none := by
  rw [fromModule?, dropStart?_append]
  cases hskip : skipBlanks1? (word ++ ' ' :: 'f' :: more) with
  | none => simp [hskip]
  | some behind =>
      obtain ⟨blanks, htext, hspacing, hhead⟩ := skipBlanks1?_eq_some_iff.1 hskip
      have htrim : trimLeft (word ++ ' ' :: 'f' :: more) = behind :=
        trimLeft_eq_iff.2 ⟨blanks, htext, hspacing.blank, hhead⟩
      have hstop := isStop_head?_trimLeft hplain more
      rw [htrim] at hstop
      simp only [Option.bind_eq_bind, Option.bind_some, hskip]
      cases behind with
      | nil => rfl
      | cons c behind =>
          have hc : (c = '\'' || c = '"') = false := by
            have hc := hstop c rfl
            simp only [isStop, Bool.or_eq_false_iff] at hc ⊢
            exact ⟨hc.1.2, hc.2⟩
          simp [hc]

/-- What stands between a keyword and the blank before a module does not quote a module itself. -/
theorem fromModule?_eq_none {word : Text} (hplain : ∀ c ∈ word, isStop c = false) (more : Text) :
    fromModule? (word ++ ' ' :: 'f' :: more) = none := by
  cases hdrop : dropStart? "from".toList (word ++ ' ' :: 'f' :: more) with
  | none =>
      rw [fromModule?, hdrop]
      rfl
  | some behind =>
      have htext := append_of_dropStart? hdrop
      rcases List.append_eq_append_iff.1 htext with ⟨part, rfl, -⟩ | ⟨part, hfrom, hbehind⟩
      -- the words begin with a keyword
      · rw [List.append_assoc]
        exact fromModule?_from_append (fun c hc => hplain c (List.mem_append_right _ hc)) more
      · cases part with
        | nil =>
            rw [List.append_nil] at hfrom
            rw [← hfrom]
            exact @fromModule?_from_append [] nofun more
        | cons c part =>
            -- the keyword would have a blank in it
            obtain ⟨rfl, -⟩ := List.cons.inj hbehind
            have hmem : ' ' ∈ "from".toList := hfrom ▸ List.mem_append_right _ List.mem_cons_self
            exact absurd hmem (by decide)

section

variable {clause module behind tail : Text}

/-- A clause that has begun goes on up to the blank before the module. -/
theorem clause?_append (hplain : ∀ c ∈ clause, isStop c = false) (hlast : ∀ c ∈ clause.getLast?, isBlank c = false)
    (htail : fromModule? ('f' :: tail) = some (module, behind)) :
    clause? true (clause ++ ' ' :: 'f' :: tail) = some (clause, module, behind) := by
  induction clause with
  | nil =>
      have hskip : skipBlanks1? (' ' :: 'f' :: tail) = some ('f' :: tail) := rfl
      rw [List.nil_append, clause?, if_pos rfl, hskip, Option.bind_some, htail]
  | cons c clause ih =>
      obtain ⟨hc, hrest⟩ := List.forall_mem_cons.1 hplain
      have hnone : (skipBlanks1? (c :: (clause ++ ' ' :: 'f' :: tail))).bind fromModule? = none := by
        rw [skipBlanks1?]
        split
        · rename_i hblank
          obtain ⟨blanks, hclause, hblanks, hhead⟩ := trimLeft_eq_iff.1 (rfl : trimLeft clause = trimLeft clause)
          -- the clause does not end with a blank, so a word of it follows behind this one
          have hword : trimLeft clause ≠ [] := by
            intro hnil
            rw [hnil, List.append_nil] at hclause
            have hall : ∀ d ∈ c :: clause, isBlank d = true :=
              List.forall_mem_cons.2 ⟨hblank, hclause ▸ List.all_eq_true.1 hblanks⟩
            have hmem := List.getLast_mem (List.cons_ne_nil c clause)
            exact Bool.false_ne_true ((hlast _ (List.getLast?_eq_getLast_of_ne_nil _)).symm.trans (hall _ hmem))
          have htrim : trimLeft (clause ++ ' ' :: 'f' :: tail) = trimLeft clause ++ ' ' :: 'f' :: tail := by
            refine trimLeft_eq_iff.2 ⟨blanks, by rw [← List.append_assoc, ← hclause], hblanks, ?_⟩
            rwa [List.head?_append_of_ne_nil _ hword]
          rw [Option.bind_some, htrim]
          exact fromModule?_eq_none (fun d hd => hrest d (hclause ▸ List.mem_append_right _ hd)) tail
        · rfl
      have hlast' : ∀ d ∈ clause.getLast?, isBlank d = false := by
        intro d hd
        refine hlast d ?_
        cases clause with
        | nil => cases hd
        | cons e clause => rwa [List.getLast?_cons_cons]
      have hstop : ¬ (c = ';' || c = '\'' || c = '"') = true := by
        rw [isStop] at hc
        simp [hc]
      rw [List.cons_append, clause?, if_pos rfl, hnone]
      simp only [if_neg hstop, ih hrest hlast', Option.map_some]

/-- **A clause is read up to the blank before the module.** -/
theorem clause?_tight (htight : IsTight clause) (hplain : ∀ c ∈ clause, isStop c = false)
    (htail : fromModule? ('f' :: tail) = some (module, behind)) :
    clause? false (clause ++ ' ' :: 'f' :: tail) = some (clause, module, behind) := by
  obtain ⟨c, rest, rfl⟩ := List.exists_cons_of_ne_nil htight.ne_nil
  obtain ⟨hc, hrest⟩ := List.forall_mem_cons.1 hplain
  have hlast : ∀ d ∈ rest.getLast?, isBlank d = false := by
    intro d hd
    refine htight.last d ?_
    cases rest with
    | nil => cases hd
    | cons e rest => rwa [List.getLast?_cons_cons]
  have hstop : ¬ (c = ';' || c = '\'' || c = '"') = true := by
    rw [isStop] at hc
    simp [hc]
  rw [List.cons_append, clause?, if_neg Bool.false_ne_true]
  simp only [if_neg hstop, clause?_append hrest hlast htail, Option.map_some]

end

/-! ## Written statements -/

/-- An import statement as it is written on a line. -/
structure WrittenImport where
  indent : Text
  clause : Clause
  module : Text
  closed : Bool
  blank_indent : ∀ c ∈ indent, c = ' ' ∨ c = '\t'
  module_ne_nil : module ≠ []
  unquoted : '\'' ∉ module ∧ '"' ∉ module
  one_line : '\n' ∉ module

theorem blank_of_no_indent : ∀ c ∈ ([] : Text), c = ' ' ∨ c = '\t' :=
  fun _ hblank => absurd hblank List.not_mem_nil

/-- The semicolon of a statement that ends with one. -/
def WrittenImport.ending (written : WrittenImport) : Text := if written.closed then [';'] else []

/-- The keyword of a statement and its clause. -/
def WrittenImport.opening (written : WrittenImport) : Text :=
  'i' :: 'm' :: 'p' :: 'o' :: 'r' :: 't' :: ' ' :: written.clause.text

/-- A statement behind its indent, with what follows its line. -/
def WrittenImport.statement (written : WrittenImport) (rest : Text) : Text :=
  written.opening ++ ' ' :: moduleText written.module (written.ending ++ '\n' :: rest)

/-- The line of a statement. -/
def WrittenImport.text (written : WrittenImport) : Text := written.indent ++ written.statement []

/-- The names a statement binds, with what they import and from which module. -/
def WrittenImport.bindings (written : WrittenImport) : List (Text × Text × Text) :=
  written.clause.names.map fun name => (name.1, name.2, written.module)

/-- The lines of some statements. -/
def writtenText (imports : List WrittenImport) : Text := imports.flatMap WrittenImport.text

section

variable (written : WrittenImport) (rest : Text)

theorem WrittenImport.statement_append : written.statement [] ++ rest = written.statement rest := by
  simp only [statement, opening, moduleText, List.append_assoc, List.cons_append, List.nil_append]

theorem writtenText_cons (imports : List WrittenImport) :
    writtenText (written :: imports) = written.indent ++ written.statement (writtenText imports) := by
  rw [writtenText, List.flatMap_cons, WrittenImport.text, List.append_assoc, WrittenImport.statement_append]
  rfl

/-- **A statement is read up to its semicolon, or up to what is no blank behind it.** -/
theorem statement?_written : statement? (written.indent ++ written.statement rest) =
    some (written.clause.text, written.module, behindModule (written.ending ++ '\n' :: rest)) := by
  have hmodule : fromModule? (moduleText written.module (written.ending ++ '\n' :: rest)) =
      some (written.module, behindModule (written.ending ++ '\n' :: rest)) := by
    refine fromModule?_moduleText written.module_ne_nil (fun c hc hstop => ?_) _
    simp only [isStop, Bool.or_eq_true, decide_eq_true_eq] at hstop
    rcases hstop with (hsemicolon | rfl) | rfl
    · exact hsemicolon
    · exact absurd hc written.unquoted.1
    · exact absurd hc written.unquoted.2
  have hplain : ∀ c ∈ written.clause.text, isStop c = false := by
    intro c hc
    rw [Bool.eq_false_iff]
    intro hstop
    simp only [isStop, Bool.or_eq_true, decide_eq_true_eq] at hstop
    rcases hstop with (rfl | rfl) | rfl
    · exact Clause.not_mem_text (by decide) (by decide) hc
    · exact Clause.not_mem_text (by decide) (by decide) hc
    · exact Clause.not_mem_text (by decide) (by decide) hc
  have hclause : clause? false (written.clause.text ++ ' ' :: moduleText written.module
      (written.ending ++ '\n' :: rest)) =
        some (written.clause.text, written.module, behindModule (written.ending ++ '\n' :: rest)) :=
    clause?_tight written.clause.isTight hplain hmodule
  have hindent : (written.indent ++ written.statement rest).dropWhile (fun c => c == ' ' || c == '\t') =
      written.statement rest := by
    rw [List.dropWhile_append_of_pos (by simpa using written.blank_indent)]
    rfl
  have hkeyword : dropStart? "import".toList (written.statement rest) =
      some (' ' :: (written.clause.text ++ ' ' :: moduleText written.module (written.ending ++ '\n' :: rest))) := rfl
  have hhead : ∀ c ∈ (written.clause.text ++ ' ' :: moduleText written.module
      (written.ending ++ '\n' :: rest)).head?, isBlank c = false := by
    rw [List.head?_append_of_ne_nil _ written.clause.isTight.ne_nil]
    exact written.clause.isTight.head
  generalize written.clause.text ++ ' ' :: moduleText written.module (written.ending ++ '\n' :: rest) = line at *
  have hblanks : (' ' :: line).takeWhile isBlank = [' '] := by
    have hnone : line.takeWhile isBlank = [] := by
      cases line with
      | nil => rfl
      | cons c line => exact List.takeWhile_cons_of_neg (Bool.eq_false_iff.1 (hhead c rfl))
    rw [List.takeWhile_cons_of_pos (by decide), hnone]
  have hbehind : (' ' :: line).dropWhile isBlank = line := by
    rw [List.dropWhile_cons_of_pos (by decide)]
    exact trimLeft_of_head hhead
  rw [statement?, hindent, hkeyword]
  simp only [Option.bind_eq_bind, Option.bind_some, hblanks, hbehind, hclause]
  rfl

end

/-! ## Statements found and lost -/

/-- The statements that are found in some lines. `taken` tells whether the statement before them has taken
the blanks in front of the first line. -/
def foundImports : Bool → List WrittenImport → List WrittenImport
  | _, [] => []
  | taken, written :: rest =>
      if taken && !written.indent.isEmpty then foundImports false rest
      else written :: foundImports (!written.closed) rest

/-- The lines that are left to the reader, without the blanks taken by the statement before them. -/
def leftText (taken : Bool) (imports : List WrittenImport) : Text :=
  if taken then trimLeft (writtenText imports) else writtenText imports

/-- What is left to the reader begins a line. -/
def beginsLine (taken : Bool) (imports : List WrittenImport) : Bool :=
  !taken || imports.head?.all fun written => written.indent.isEmpty

theorem beginsLine_cons (taken : Bool) (written : WrittenImport) (rest : List WrittenImport) :
    beginsLine taken (written :: rest) = !(taken && !written.indent.isEmpty) := by
  cases taken with
  | false => rfl
  | true => simp [beginsLine]

theorem isBlankText_indent (written : WrittenImport) : isBlankText written.indent = true := by
  refine List.all_eq_true.2 fun c hc => ?_
  rcases written.blank_indent c hc with rfl | rfl
  · decide
  · decide

theorem trimLeft_writtenText (written : WrittenImport) (imports : List WrittenImport) :
    trimLeft (writtenText (written :: imports)) = written.statement (writtenText imports) := by
  rw [writtenText_cons]
  refine trimLeft_eq_iff.2 ⟨_, rfl, isBlankText_indent written, ?_⟩
  rintro _ ⟨⟩
  decide

/-- Characters that belong to a statement are passed over; the last of them tells whether a line begins
behind it. -/
theorem statementsFrom_passed (body : Text) (last : Char) (rest : Text) (offset : Nat) (lineStart : Bool) :
    statementsFrom (body.length + 1) offset lineStart (body ++ last :: rest) =
      statementsFrom 0 (offset + (body.length + 1)) (last == '\n') rest := by
  induction body generalizing offset lineStart with
  | nil => rfl
  | cons c body ih =>
      show statementsFrom (body.length + 1) (offset + 1) (c == '\n') (body ++ last :: rest) = _
      rw [ih, List.length_cons]
      congr 1
      omega

/-- A statement that is read at the start of a line is found, and reading goes on behind it. -/
theorem statementsFrom_found {clause module behind body : Text} {first last : Char}
    (h : statement? (first :: (body ++ last :: behind)) = some (clause, module, behind)) (offset : Nat) :
    ∃ stop, statementsFrom 0 offset true (first :: (body ++ last :: behind)) =
      { clause := clause, module := module, start := offset, stop := stop } ::
        statementsFrom 0 stop (last == '\n') behind := by
  have hlength : (body ++ last :: behind).length + 1 - behind.length = body.length + 2 := by
    rw [List.length_append, List.length_cons]
    omega
  refine ⟨offset + (body.length + 2), ?_⟩
  rw [statementsFrom, if_pos rfl, h]
  simp only [hlength, show body.length + 2 - 1 = body.length + 1 by omega]
  rw [statementsFrom_passed, show offset + 1 + (body.length + 1) = offset + (body.length + 2) by omega]

/-- A line that is not begun holds no statement. -/
theorem statementsFrom_unbegun {line : Text} (h : '\n' ∉ line) (rest : Text) (offset : Nat) :
    statementsFrom 0 offset false (line ++ '\n' :: rest) = statementsFrom 0 (offset + (line.length + 1)) true rest := by
  induction line generalizing offset with
  | nil => rfl
  | cons c line ih =>
      rw [List.mem_cons, not_or] at h
      have hc : (c == '\n') = false := beq_eq_false_iff_ne.2 (Ne.symm h.1)
      rw [List.cons_append, statementsFrom, if_neg Bool.false_ne_true]
      simp only [hc]
      rw [ih h.2, List.length_cons]
      congr 1
      omega

/-- A statement is a line without a newline in it and with something before its end. -/
theorem WrittenImport.exists_line (written : WrittenImport) : ∃ first line, '\n' ∉ first :: line ∧
    ∀ rest, written.statement rest = first :: (line ++ (written.ending ++ '\n' :: rest)) := by
  refine ⟨'i', 'm' :: 'p' :: 'o' :: 'r' :: 't' :: ' ' :: (written.clause.text ++ ' ' :: moduleText written.module []),
    ?_, fun rest => ?_⟩
  · have hclause : '\n' ∉ written.clause.text := Clause.not_mem_text (by decide) (by decide)
    simp [moduleText, hclause, written.one_line]
  · simp only [statement, opening, moduleText, List.append_assoc, List.cons_append, List.nil_append]

/-- **A statement that begins a line is found.** What is left behind it has lost the blanks that a statement
without a semicolon takes along. -/
theorem statementsFrom_written (written : WrittenImport) (rest : List WrittenImport) (offset : Nat) :
    ∃ stop next, statementsFrom 0 offset true (written.indent ++ written.statement (writtenText rest)) =
      { clause := written.clause.text, module := written.module, start := offset, stop := stop } ::
        statementsFrom 0 next (beginsLine (!written.closed) rest) (leftText (!written.closed) rest) := by
  obtain ⟨first, line, -, hline⟩ := written.exists_line
  obtain ⟨start, body, hbody⟩ : ∃ start body, written.indent ++ first :: line = start :: body :=
    List.exists_cons_of_ne_nil (by simp)
  have hread := statement?_written written (writtenText rest)
  have htext : written.indent ++ written.statement (writtenText rest) =
      start :: (body ++ (written.ending ++ '\n' :: writtenText rest)) := by
    rw [hline, ← List.cons_append, ← List.append_assoc, hbody, List.cons_append]
  rw [htext] at hread ⊢
  cases hclosed : written.closed with
  | true =>
      have hending : written.ending = [';'] := if_pos hclosed
      rw [hending, List.singleton_append] at hread ⊢
      have hbehind : behindModule (';' :: '\n' :: writtenText rest) = '\n' :: writtenText rest := rfl
      rw [hbehind] at hread
      obtain ⟨stop, hfound⟩ := statementsFrom_found hread offset
      exact ⟨stop, stop + 1, hfound⟩
  | false =>
      have hending : written.ending = [] := if_neg (by simp [hclosed])
      rw [hending, List.nil_append] at hread ⊢
      cases rest with
      | nil =>
          obtain ⟨stop, hfound⟩ := statementsFrom_found hread offset
          exact ⟨stop, stop, hfound⟩
      | cons follower rest =>
          have hleft : leftText true (follower :: rest) = follower.statement (writtenText rest) :=
            trimLeft_writtenText follower rest
          have hbehind : behindModule ('\n' :: writtenText (follower :: rest)) =
              follower.statement (writtenText rest) := by
            rw [behindModule, show trimLeft ('\n' :: writtenText (follower :: rest)) =
              follower.statement (writtenText rest) from trimLeft_writtenText follower rest]
            rfl
          rw [hbehind] at hread
          rw [writtenText_cons] at hread ⊢
          have hindent : beginsLine true (follower :: rest) = follower.indent.isEmpty := rfl
          rw [Bool.not_false, hleft, hindent]
          -- the last blank that is taken tells whether the next statement begins a line
          rcases List.eq_nil_or_concat follower.indent with hnil | ⟨blanks, last, hconcat⟩
          · rw [hnil, List.nil_append] at hread ⊢
            obtain ⟨stop, hfound⟩ := statementsFrom_found hread offset
            exact ⟨stop, stop, hfound⟩
          · have hlast : (last == '\n') = false := by
              rcases follower.blank_indent last (by simp [hconcat]) with rfl | rfl
              · decide
              · decide
            have hsplit : body ++ '\n' :: (follower.indent ++ follower.statement (writtenText rest)) =
                (body ++ '\n' :: blanks) ++ last :: follower.statement (writtenText rest) := by
              simp [hconcat]
            rw [hsplit] at hread ⊢
            obtain ⟨stop, hfound⟩ := statementsFrom_found hread offset
            refine ⟨stop, stop, ?_⟩
            rw [hfound, hlast, hconcat, List.isEmpty_eq_false_iff.2 (by simp)]

/-- The statements found in some lines are read in order, each with its clause and its module. -/
theorem map_statementsFrom_written (imports : List WrittenImport) (taken : Bool) (offset : Nat) :
    (statementsFrom 0 offset (beginsLine taken imports) (leftText taken imports)).map
        (fun statement => (statement.clause, statement.module)) =
      (foundImports taken imports).map fun written => (written.clause.text, written.module) := by
  induction imports generalizing taken offset with
  | nil =>
      have hleft : leftText taken [] = [] := by
        cases taken with
        | true => rfl
        | false => rfl
      rw [hleft, statementsFrom, foundImports]
      rfl
  | cons written rest ih =>
      rw [foundImports]
      by_cases hlost : (taken && !written.indent.isEmpty) = true
      · rw [if_pos hlost]
        obtain ⟨rfl, hindent⟩ := Bool.and_eq_true_iff.1 hlost
        obtain ⟨first, line, hline, htext⟩ := written.exists_line
        have hunbegun : beginsLine true (written :: rest) = false := by simpa [beginsLine] using hindent
        have hleft : leftText true (written :: rest) =
            (first :: line ++ written.ending) ++ '\n' :: writtenText rest := by
          rw [leftText, if_pos rfl, trimLeft_writtenText, htext, List.cons_append, List.cons_append, List.append_assoc]
        have hending : '\n' ∉ written.ending := by
          rw [WrittenImport.ending]
          split
          · decide
          · exact List.not_mem_nil
        have hplain : '\n' ∉ first :: line ++ written.ending := by
          rw [List.mem_append, not_or]
          exact ⟨hline, hending⟩
        rw [hunbegun, hleft, statementsFrom_unbegun hplain]
        exact ih false _
      · rw [if_neg hlost]
        have hbegins : beginsLine taken (written :: rest) = true := by
          rw [beginsLine_cons, Bool.eq_false_iff.2 hlost]
          rfl
        have hleft : leftText taken (written :: rest) =
            written.indent ++ written.statement (writtenText rest) := by
          cases taken with
          | false => exact writtenText_cons written rest
          | true =>
              have hindent : written.indent = [] := by simpa using hlost
              rw [hindent]
              exact trimLeft_writtenText written rest
        obtain ⟨stop, next, hfound⟩ := statementsFrom_written written rest offset
        rw [hbegins, hleft, hfound, List.map_cons, List.map_cons, ih]

/-! ## The bindings of written statements -/

/-- The names a binding joins: in the importing file, in the module, and of the module. -/
def Binding.entry (binding : Binding) : Text × Text × Text :=
  (binding.localName, binding.imported, binding.module)

/-- The names bound by a clause and a module that have been read. -/
def entriesOf (read : Text × Text) : List (Text × Text × Text) :=
  (clauseNames read.1).map fun name => (name.1, name.2, read.2)

theorem WrittenImport.bindings_eq (written : WrittenImport) :
    written.bindings = entriesOf (written.clause.text, written.module) := by
  rw [entriesOf, clauseNames_text, bindings]

theorem WrittenImport.bindings_ne_nil (written : WrittenImport) : written.bindings ≠ [] := by
  simpa [bindings] using written.clause.names_ne_nil

/-- What is bound are the names of the statements found. -/
theorem entries_writtenText (imports : List WrittenImport) :
    (Router.bindings (writtenText imports)).map Binding.entry =
      (foundImports false imports).flatMap WrittenImport.bindings := by
  have hentries : ∀ statement : Statement, statement.bindings.map Binding.entry =
      entriesOf (statement.clause, statement.module) := by
    intro statement
    rw [Statement.bindings, List.map_map]
    rfl
  have hread := map_statementsFrom_written imports false 0
  calc (Router.bindings (writtenText imports)).map Binding.entry
      = (statements (writtenText imports)).flatMap fun statement => entriesOf (statement.clause, statement.module) := by
        simp only [Router.bindings, List.map_flatMap, hentries]
    _ = ((statements (writtenText imports)).map fun statement =>
          (statement.clause, statement.module)).flatMap entriesOf := by
        rw [List.flatMap_map]
    _ = ((foundImports false imports).map fun written => (written.clause.text, written.module)).flatMap entriesOf :=
        congrArg (List.flatMap entriesOf) hread
    _ = (foundImports false imports).flatMap WrittenImport.bindings := by
        rw [List.flatMap_map]
        exact List.flatMap_congr fun written _ => written.bindings_eq.symm

/-! ## When no statement is lost -/

/-- Two statements in a row that are both found when the first one is: the first ends with a semicolon, or
the second has no indent. -/
def Separated (first second : WrittenImport) : Prop := first.closed = true ∨ second.indent = []

theorem foundImports_sublist (taken : Bool) (imports : List WrittenImport) :
    (foundImports taken imports).Sublist imports := by
  induction imports generalizing taken with
  | nil => exact List.Sublist.slnil
  | cons written rest ih =>
      rw [foundImports]
      split
      · exact (ih false).cons written
      · exact (ih (!written.closed)).cons_cons written

theorem beginsLine_iff {written : WrittenImport} {rest : List WrittenImport} :
    beginsLine (!written.closed) rest = true ↔ ∀ follower ∈ rest.head?, Separated written follower := by
  cases rest with
  | nil => simp [beginsLine]
  | cons follower rest => simp [beginsLine, Separated]

/-- No statement is lost exactly when every two in a row are separated. -/
theorem foundImports_eq_self_iff {imports : List WrittenImport} {taken : Bool} :
    foundImports taken imports = imports ↔ beginsLine taken imports = true ∧ imports.IsChain Separated := by
  induction imports generalizing taken with
  | nil => simp [foundImports, beginsLine]
  | cons written rest ih =>
      rw [foundImports, List.isChain_cons]
      by_cases hlost : (taken && !written.indent.isEmpty) = true
      · rw [if_pos hlost]
        have hunbegun : beginsLine taken (written :: rest) = false := by
          rw [beginsLine_cons, hlost]
          rfl
        have hfewer : foundImports false rest ≠ written :: rest := by
          intro heq
          have hlength := (foundImports_sublist false rest).length_le
          rw [heq, List.length_cons] at hlength
          omega
        simp [hunbegun, hfewer]
      · rw [if_neg hlost, List.cons.injEq, ih, beginsLine_iff]
        have hbegins : beginsLine taken (written :: rest) = true := by
          rw [beginsLine_cons, Bool.eq_false_iff.2 hlost]
          rfl
        simp [hbegins]

/-- Statements left out of a list are missed in what they bind. -/
theorem flatMap_bindings_inj {some all : List WrittenImport} (h : some.Sublist all)
    (heq : some.flatMap WrittenImport.bindings = all.flatMap WrittenImport.bindings) : some = all := by
  induction h with
  | slnil => rfl
  | cons written hrest ih =>
      have hlength := congrArg List.length heq
      have hle := (hrest.flatMap WrittenImport.bindings).length_le
      have hpos := List.length_pos_of_ne_nil written.bindings_ne_nil
      rw [List.flatMap_cons, List.length_append] at hlength
      omega
  | cons_cons written hrest ih => 
      rw [List.flatMap_cons, List.flatMap_cons, List.append_cancel_left_eq] at heq
      rw [ih heq]

/-- **Reading written import statements back gives what they bind exactly when no statement without a
semicolon is followed by one with an indent.** Otherwise it gives what the statements found bind. -/
theorem bindings_written_iff (imports : List WrittenImport) :
    (Router.bindings (writtenText imports)).map Binding.entry =
        (foundImports false imports).flatMap WrittenImport.bindings ∧
      ((Router.bindings (writtenText imports)).map Binding.entry = imports.flatMap WrittenImport.bindings ↔
        imports.IsChain Separated) := by
  refine ⟨entries_writtenText imports, ?_⟩
  rw [entries_writtenText]
  constructor
  · intro heq
    exact (foundImports_eq_self_iff.1 (flatMap_bindings_inj (foundImports_sublist false imports) heq)).2
  · intro hchain
    rw [foundImports_eq_self_iff.2 ⟨rfl, hchain⟩]

/-- A default import without a semicolon. -/
def openImport : WrittenImport where
  indent := []
  clause := .single "a".toList (by decide)
  module := "./a".toList
  closed := false
  blank_indent := nofun
  module_ne_nil := by decide
  unquoted := by decide
  one_line := by decide

/-- A default import with an indent. -/
def indentedImport : WrittenImport where
  indent := [' ', ' ']
  clause := .single "b".toList (by decide)
  module := "./b".toList
  closed := false
  blank_indent := by simp
  module_ne_nil := by decide
  unquoted := by decide
  one_line := by decide

/-- A default import with a semicolon. -/
def closedImport : WrittenImport where
  indent := []
  clause := .single "c".toList (by decide)
  module := "./c".toList
  closed := true
  blank_indent := nofun
  module_ne_nil := by decide
  unquoted := by decide
  one_line := by decide

/-- Behind a statement with a semicolon, one with an indent is found, and one without an indent is found
behind any statement. -/
theorem separated_imports_found :
    writtenText [closedImport, indentedImport, openImport] =
        "import c from './c';\n  import b from './b'\nimport a from './a'\n".toList ∧
      (Router.bindings (writtenText [closedImport, indentedImport, openImport])).map Binding.entry =
        [closedImport, indentedImport, openImport].flatMap WrittenImport.bindings := by
  refine ⟨by decide +kernel, (bindings_written_iff _).2.2 ?_⟩
  exact .cons_cons (.inl rfl) (.cons_cons (.inr rfl) (.singleton _))

/-- Behind a statement without a semicolon, one with an indent is lost. -/
theorem indented_import_lost :
    writtenText [openImport, indentedImport] = "import a from './a'\n  import b from './b'\n".toList ∧
      (Router.bindings (writtenText [openImport, indentedImport])).map Binding.entry = openImport.bindings ∧
      [openImport, indentedImport].flatMap WrittenImport.bindings ≠ openImport.bindings := by
  decide +kernel

end RouteAtlas.Router
