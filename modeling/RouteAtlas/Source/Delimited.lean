import RouteAtlas.Source.Lexeme

/-!
# Text between brackets

From behind an opening bracket, the matching closer is the first code character at which the closers
of that kind outnumber the openers. Brackets of other kinds do not count, and neither does anything
inside literals and comments.
-/

set_option autoImplicit false

namespace RouteAtlas.Source

/-- The lexemes before the matching closer and those behind it. `start` is the offset behind the
opener, `offset` that of the first lexeme, and `depth` counts the further openers still open. -/
def splitAtCloser (bracket : Bracket) (start : Int) :
    Nat → Nat → List Lexeme → Except Fault (List Lexeme × List Lexeme)
  | _, _, [] => .error (.noCloser bracket start)
  | offset, _, .broken _ :: _ => .error (.unterminated offset)
  | offset, depth, .code c :: rest =>
      if c = bracket.closer then
        match depth with
        | 0 => .ok ([], rest)
        | depth + 1 =>
            (splitAtCloser bracket start (offset + 1) depth rest).map
              fun (inside, behind) => (.code c :: inside, behind)
      else
        (splitAtCloser bracket start (offset + 1)
            (if c = bracket.opener then depth + 1 else depth) rest).map
          fun (inside, behind) => (.code c :: inside, behind)
  | offset, depth, .literal raw :: rest =>
      (splitAtCloser bracket start (offset + raw.length) depth rest).map
        fun (inside, behind) => (.literal raw :: inside, behind)
  | offset, depth, .comment raw :: rest =>
      (splitAtCloser bracket start (offset + raw.length) depth rest).map
        fun (inside, behind) => (.comment raw :: inside, behind)

/-- The text between brackets and the offset behind the closer. -/
structure Delimited where
  content : Text
  behind : Nat
  deriving DecidableEq, Repr, Inhabited

/-- The text from an offset behind an opener up to the matching closer. -/
def delimited (text : Text) (start : Nat) (bracket : Bracket) : Except Fault Delimited :=
  (splitAtCloser bracket start start 0 (lex (text.drop start))).map fun (inside, _) =>
    { content := raw inside, behind := start + (raw inside).length + 1 }

/-- Looking on behind a lexeme finds the lexeme in front of what is found there. -/
theorem map_cons_eq_ok {outcome : Except Fault (List Lexeme × List Lexeme)} {lexeme : Lexeme}
    {inside behind : List Lexeme} :
    outcome.map (fun (inside, behind) => (lexeme :: inside, behind)) = .ok (inside, behind) ↔
      ∃ tail, outcome = .ok (tail, behind) ∧ inside = lexeme :: tail := by
  cases outcome with
  | error fault => simp [Except.map]
  | ok pair =>
      simp only [Except.map, Except.ok.injEq, Prod.mk.injEq]
      constructor
      · rintro ⟨rfl, rfl⟩
        exact ⟨pair.1, rfl, rfl⟩
      · rintro ⟨tail, rfl, rfl⟩
        exact ⟨rfl, rfl⟩

/-- The lexemes before the closer, the closer and the lexemes behind it make up the list. -/
theorem append_of_splitAtCloser {bracket : Bracket} {start : Int} {offset depth : Nat}
    {lexemes inside behind : List Lexeme}
    (h : splitAtCloser bracket start offset depth lexemes = .ok (inside, behind)) :
    inside ++ .code bracket.closer :: behind = lexemes := by
  fun_induction splitAtCloser bracket start offset depth lexemes generalizing inside with
  | case1 => simp at h
  | case2 => simp at h
  | case3 offset rest =>
      simp only [Except.ok.injEq, Prod.mk.injEq] at h
      obtain ⟨rfl, rfl⟩ := h
      rfl
  | case4 offset rest depth ih =>
      obtain ⟨tail, htail, rfl⟩ := map_cons_eq_ok.1 h
      simp [ih htail]
  | case5 offset depth c rest _ ih =>
      obtain ⟨tail, htail, rfl⟩ := map_cons_eq_ok.1 h
      simp [ih htail]
  | case6 offset depth literal rest ih =>
      obtain ⟨tail, htail, rfl⟩ := map_cons_eq_ok.1 h
      simp [ih htail]
  | case7 offset depth comment rest ih =>
      obtain ⟨tail, htail, rfl⟩ := map_cons_eq_ok.1 h
      simp [ih htail]

end RouteAtlas.Source
