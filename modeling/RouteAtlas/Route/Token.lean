import RouteAtlas.Route.Verb
import RouteAtlas.Source.Delimited
import RouteAtlas.Text.Word

/-!
# Route calls in a router span

A route call is a dot, a verb and an argument list, outside literals and comments. With a receiver
given, only calls on that router count, or calls chained onto its previous route with nothing but
blanks and comments between. A comment right behind the call may carry a note. Extraction stops at a
literal or an argument list that is never closed; what was found before it stays.
-/

set_option autoImplicit false

namespace RouteAtlas.Route

open Text Source

/-- One route call as written. -/
structure Token where
  verb : Verb
  arguments : Text
  note : Option Text
  deriving DecidableEq, Repr, Inhabited

/-- Why extraction stopped before the end of the span. -/
inductive Halt where
  | literal (fault : Fault)
  | call (verb : Verb) (fault : Fault)
  deriving DecidableEq, Repr, Inhabited

/-- The route calls found and the reason for stopping early, if any. -/
structure Extraction where
  tokens : List Token
  halt : Option Halt
  deriving DecidableEq, Repr, Inhabited

/-- Puts a token in front of those found behind it. -/
def Extraction.cons (token : Token) (found : Extraction) : Extraction :=
  { found with tokens := token :: found.tokens }

/-- Drops the blank code characters at the head of a list of lexemes. -/
def skipBlankCode : List Lexeme → List Lexeme
  | .code c :: rest => if isBlank c then skipBlankCode rest else .code c :: rest
  | lexemes => lexemes

/-- The lexemes behind a word written in code characters. -/
def dropCode? : Text → List Lexeme → Option (List Lexeme)
  | [], lexemes => some lexemes
  | c :: word, .code d :: rest => if c = d then dropCode? word rest else none
  | _ :: _, _ => none

/-- The verb of the call whose dot has just been read, and the lexemes behind the parenthesis. -/
def verbAt? (lexemes : List Lexeme) : Option (Verb × List Lexeme) :=
  Verb.all.findSome? fun verb =>
    match (dropCode? verb.name.toList (skipBlankCode lexemes)).map skipBlankCode with
    | some (.code '(' :: behind) => some (verb, behind)
    | _ => none

/-- Drops at most `count` spaces, tabs and semicolons written in code characters. -/
def skipFiller : Nat → List Lexeme → List Lexeme
  | count + 1, .code c :: rest =>
      if c = ' ' || c = '\t' || c = ';' then skipFiller count rest else .code c :: rest
  | _, lexemes => lexemes

/-- The separators inside a note comment. -/
def isNoteSpace (c : Char) : Bool := c == ' ' || c == '\t'

/-- The marks that make a comment a note. -/
def noteMarks : List Text := ["@summary".toList, "@description".toList]

/-- The note in a line comment. -/
def noteOf? (comment : Text) : Option Text := do
  let body ← dropStart? ['/', '/'] comment
  let body := body.dropWhile isNoteSpace
  let rest ← noteMarks.findSome? fun mark => dropStart? mark body
  match rest with
  | c :: rest => if isNoteSpace c then some (trim rest) else none
  | [] => none

/-- The note right behind a call: at most four fillers, then a note comment. -/
def note? (behind : List Lexeme) : Option Text :=
  match skipFiller 4 behind with
  | .comment comment :: _ => noteOf? comment
  | _ => none

/-- The last identifier of a text given in reverse, and what stands before it, in reverse. Blanks may
follow the identifier. -/
def lastIdentifier? (reversed : Text) : Option (Text × Text) :=
  let behind := reversed.dropWhile isBlank
  let run := (behind.takeWhile isIdentifierPart).reverse
  match run.dropWhile (!isIdentifierStart ·) with
  | [] => none
  | name => some (name, (run.takeWhile (!isIdentifierStart ·)).reverse
      ++ behind.dropWhile isIdentifierPart)

/-- The text ends with the identifier, which is not itself a member of something. -/
def endsWithReceiver (receiver reversed : Text) : Bool :=
  match lastIdentifier? reversed with
  | some (name, before) => name == receiver && (before.dropWhile isBlank).head? != some '.'
  | none => false

/-- Only blanks and comments stand in the gap, given in reverse. -/
def isChainGap (reversed : Text) : Bool :=
  isBlankText (withoutComments reversed.reverse)

/-- A call counts for a receiver: it is chained onto the previous one or made on the receiver. The
text before the dot and the gap since the previous call are given in reverse. -/
def countsFor (receiver : Option Text) (seen : Text) (gap : Option Text) : Bool :=
  match receiver with
  | none => true
  | some receiver => (gap.map isChainGap).getD false || endsWithReceiver receiver seen

/-- Blanks at the head are dropped from the list. -/
theorem length_skipBlankCode (lexemes : List Lexeme) :
    (skipBlankCode lexemes).length ≤ lexemes.length := by
  fun_induction skipBlankCode lexemes with
  | case1 c rest _ ih => simp only [List.length_cons]; omega
  | case2 c rest _ => simp
  | case3 lexemes _ => simp

/-- A word is taken off the list. -/
theorem length_dropCode? {word : Text} {lexemes behind : List Lexeme}
    (h : dropCode? word lexemes = some behind) : behind.length ≤ lexemes.length := by
  fun_induction dropCode? word lexemes with
  | case1 lexemes => simp_all
  | case2 word d rest ih => have := ih h; simp only [List.length_cons]; omega
  | case3 => simp at h
  | case4 => simp at h

/-- A verb and its parenthesis are taken off the list. -/
theorem length_verbAt? {lexemes behind : List Lexeme} {verb : Verb}
    (h : verbAt? lexemes = some (verb, behind)) : behind.length < lexemes.length := by
  simp only [verbAt?] at h
  obtain ⟨candidate, _, hcandidate⟩ := List.exists_of_findSome?_eq_some h
  split at hcandidate
  · rename_i rest hrest
    simp only [Option.some.injEq, Prod.mk.injEq] at hcandidate
    obtain ⟨_, rfl⟩ := hcandidate
    obtain ⟨dropped, hdropped, hskip⟩ := Option.map_eq_some_iff.1 hrest
    have hword := length_dropCode? hdropped
    have hfirst := length_skipBlankCode lexemes
    have hsecond := length_skipBlankCode dropped
    rw [hskip] at hsecond
    simp only [List.length_cons] at hsecond
    omega
  · simp at hcandidate

/-- The closer and what is before it are taken off the list. -/
theorem length_splitAtCloser {bracket : Bracket} {start offset depth : Nat}
    {lexemes inside behind : List Lexeme}
    (h : splitAtCloser bracket start offset depth lexemes = .ok (inside, behind)) :
    behind.length < lexemes.length := by
  have := congrArg List.length (append_of_splitAtCloser h)
  simp only [List.length_append, List.length_cons] at this
  omega

/-- The call of a verb that starts at a character, when it counts for the receiver. -/
def callAt? (receiver : Option Text) (seen : Text) (gap : Option Text) (c : Char)
    (rest : List Lexeme) : Option (Verb × List Lexeme) :=
  if c = '.' then
    match verbAt? rest with
    | some call => if countsFor receiver seen gap then some call else none
    | none => none
  else none

/-- A counted call takes its verb and parenthesis off the list. -/
theorem length_callAt? {receiver : Option Text} {seen : Text} {gap : Option Text} {c : Char}
    {rest inner : List Lexeme} {verb : Verb}
    (h : callAt? receiver seen gap c rest = some (verb, inner)) : inner.length < rest.length := by
  simp only [callAt?] at h
  split at h
  · split at h
    · rename_i call hcall
      split at h
      · simp only [Option.some.injEq] at h
        exact length_verbAt? (h ▸ hcall)
      · simp at h
    · simp at h
  · simp at h

/-- The route calls in a list of lexemes. `seen` is the text before them, in reverse, and `gap` the
text since the previous call, in reverse, when there was one. -/
def tokensFrom (receiver : Option Text) (seen : Text) (gap : Option Text) :
    List Lexeme → Extraction
  | [] => { tokens := [], halt := none }
  | .broken _ :: _ => { tokens := [], halt := some (.literal (.unterminated seen.length)) }
  | .literal text :: rest =>
      tokensFrom receiver (text.reverse ++ seen) (gap.map (text.reverse ++ ·)) rest
  | .comment text :: rest =>
      tokensFrom receiver (text.reverse ++ seen) (gap.map (text.reverse ++ ·)) rest
  | .code c :: rest =>
      match _hcall : callAt? receiver seen gap c rest with
      | none => tokensFrom receiver (c :: seen) (gap.map (c :: ·)) rest
      | some (verb, inner) =>
          let start := seen.length + 1 + (rest.length - inner.length)
          match _hclose : splitAtCloser .round start start 0 inner with
          | .error fault => { tokens := [], halt := some (.call verb fault) }
          | .ok (inside, behind) =>
              let call := rest.take (rest.length - behind.length)
              (tokensFrom receiver ((raw call).reverse ++ c :: seen) (some []) behind).cons
                { verb := verb, arguments := raw inside, note := note? behind }
termination_by lexemes => lexemes.length
decreasing_by
  · simp
  · simp
  · simp
  · have := length_callAt? _hcall
    have := length_splitAtCloser _hclose
    simp only [List.length_cons]
    omega

/-- The route calls of a span. -/
def tokens (span : Text) (receiver : Option Text) : Extraction :=
  tokensFrom receiver [] none (lex span)

end RouteAtlas.Route
