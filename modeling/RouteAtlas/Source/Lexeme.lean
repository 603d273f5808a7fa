import RouteAtlas.Text.Blank
import RouteAtlas.Source.Error

/-!
# Lexemes of route sources

A source text is cut into code characters, string literals and comments. A literal runs from a quote
to the next unescaped quote of the same kind; a literal that is never closed takes the rest of the
text. A line comment stops before the newline; a block comment that is never closed takes the rest of
the text. The lexemes of a text, put together again, are the text (`raw_lex`), so offsets and
contents can be read off them.
-/

set_option autoImplicit false

namespace RouteAtlas.Source

open Text

/-- One piece of a source text. -/
inductive Lexeme where
  /-- A character outside literals and comments. -/
  | code (c : Char)
  /-- A string literal with its quotes. -/
  | literal (raw : Text)
  /-- A comment with its marks. -/
  | comment (raw : Text)
  /-- A string literal that is never closed. -/
  | broken (raw : Text)
  deriving DecidableEq, Repr, Inhabited

/-- The text of a lexeme. -/
def Lexeme.raw : Lexeme → Text
  | .code c => [c]
  | .literal raw => raw
  | .comment raw => raw
  | .broken raw => raw

/-- The characters that open and close string literals. -/
def isQuote (c : Char) : Bool :=
  c == '\'' || c == '"' || c == '\x60'

/-- The text of a literal behind its opening quote, up to and with the closing quote, and the rest.
A backslash takes the next character along. -/
def closeLiteral (quote : Char) : Text → Option (Text × Text)
  | [] => none
  | ['\\'] => none
  | '\\' :: c :: rest => (closeLiteral quote rest).map fun (body, rest) => ('\\' :: c :: body, rest)
  | c :: rest =>
      if c = quote then some ([c], rest)
      else (closeLiteral quote rest).map fun (body, rest) => (c :: body, rest)

/-- The first lexeme of a text and the rest behind it. -/
def next (c : Char) (rest : Text) : Lexeme × Text :=
  if isQuote c then
    match closeLiteral c rest with
    | some (body, rest) => (.literal (c :: body), rest)
    | none => (.broken (c :: rest), [])
  else if c = '/' then
    match rest with
    | '/' :: line => (.comment ('/' :: '/' :: line.takeWhile (· ≠ '\n')), line.dropWhile (· ≠ '\n'))
    | '*' :: inner =>
        match cut? ['*', '/'] inner with
        | some (body, rest) => (.comment ('/' :: '*' :: (body ++ ['*', '/'])), rest)
        | none => (.comment ('/' :: '*' :: inner), [])
    | _ => (.code c, rest)
  else (.code c, rest)

/-- A closed literal and the rest behind it make up the text. -/
theorem append_of_closeLiteral {quote : Char} {text body rest : Text}
    (h : closeLiteral quote text = some (body, rest)) : body ++ rest = text := by
  fun_induction closeLiteral quote text generalizing body with
  | case1 => simp at h
  | case2 => simp at h
  | case3 c text ih =>
      cases hclose : closeLiteral quote text with
      | none => simp [hclose] at h
      | some pair =>
          simp only [hclose, Option.map_some, Option.some.injEq, Prod.mk.injEq] at h
          obtain ⟨rfl, rfl⟩ := h
          simp [ih hclose]
  | case4 text _ _ =>
      simp only [Option.some.injEq, Prod.mk.injEq] at h
      obtain ⟨rfl, rfl⟩ := h
      simp
  | case5 c text _ _ _ ih =>
      cases hclose : closeLiteral quote text with
      | none => simp [hclose] at h
      | some pair =>
          simp only [hclose, Option.map_some, Option.some.injEq, Prod.mk.injEq] at h
          obtain ⟨rfl, rfl⟩ := h
          simp [ih hclose]

/-- The first lexeme and the rest make up the text. -/
theorem raw_next (c : Char) (rest : Text) :
    (next c rest).1.raw ++ (next c rest).2 = c :: rest := by
  simp only [next]
  split
  · split
    · rename_i hclose
      simpa [Lexeme.raw] using append_of_closeLiteral hclose
    · simp [Lexeme.raw]
  · split
    · rename_i hc
      split
      · simp [Lexeme.raw, hc]
      · split
        · rename_i hcut
          simpa [Lexeme.raw, hc] using append_of_cut? hcut
        · simp [Lexeme.raw, hc]
      · simp [Lexeme.raw]
    · simp [Lexeme.raw]

/-- The first lexeme is not empty. -/
theorem raw_next_ne_nil (c : Char) (rest : Text) : (next c rest).1.raw ≠ [] := by
  simp only [next]
  split
  · split <;> simp [Lexeme.raw]
  · split
    · split
      · simp [Lexeme.raw]
      · split <;> simp [Lexeme.raw]
      · simp [Lexeme.raw]
    · simp [Lexeme.raw]

/-- The rest behind the first lexeme is shorter than the text. -/
theorem length_next (c : Char) (rest : Text) : (next c rest).2.length < (c :: rest).length := by
  have happend := congrArg List.length (raw_next c rest)
  have hne := List.length_pos_iff.2 (raw_next_ne_nil c rest)
  rw [List.length_append] at happend
  omega

/-- The lexemes of a text. -/
def lex : Text → List Lexeme
  | [] => []
  | c :: rest => (next c rest).1 :: lex (next c rest).2
termination_by text => text.length
decreasing_by exact length_next c rest

/-- The text of a list of lexemes. -/
def raw (lexemes : List Lexeme) : Text := lexemes.flatMap Lexeme.raw

/-- Nothing is lost by lexing. -/
@[simp] theorem raw_lex (text : Text) : raw (lex text) = text := by
  fun_induction lex text with
  | case1 => rfl
  | case2 c rest ih =>
      simp only [raw, List.flatMap_cons] at ih ⊢
      rw [ih, raw_next]

/-- Removes comments from a text without regard to literals; a block comment that is never closed is
kept. -/
def withoutComments : Text → Text
  | [] => []
  | '/' :: '/' :: line => withoutComments (line.dropWhile (· ≠ '\n'))
  | '/' :: '*' :: inner =>
      match _hcut : cut? ['*', '/'] inner with
      | some (_, rest) => withoutComments rest
      | none => '/' :: withoutComments ('*' :: inner)
  | c :: rest => c :: withoutComments rest
termination_by text => text.length
decreasing_by
  · have := (List.dropWhile_suffix (l := line) (fun c => decide (c ≠ '\n'))).length_le
    simp only [List.length_cons]
    omega
  · have := congrArg List.length (append_of_cut? _hcut)
    simp only [List.length_append, List.length_cons, List.length_nil] at this ⊢
    omega
  · simp
  · simp

end RouteAtlas.Source
