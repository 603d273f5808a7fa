import RouteAtlas.Text.Basic

/-!
# Surrogates

A surrogate is one of the code points that UTF-16 sets aside for the halves of characters. It is no
character, yet a text may name one by its number. To have such texts among the lists of characters,
texts are spelled: a surrogate is written as two code points that no script will ever use, the opening
and the closing mark, and a stand-in behind them. A text that has both marks in a row itself has the
closing mark twice. Everything else stands for itself.

Main statements: the code points of a spelled text are those of the text, and the spelling of a
surrogate shows that surrogate.
-/

set_option autoImplicit false

namespace RouteAtlas.Text

/-- A code point is a surrogate. -/
def isSurrogate (code : Nat) : Bool := 0xD800 ≤ code && code ≤ 0xDFFF

/-- The mark that the spelling of a surrogate starts with. -/
def openingMark : Char := Char.ofNat 0x10FFFF

/-- The mark behind the opening mark. -/
def closingMark : Char := Char.ofNat 0x10FFFE

/-- The distance between a surrogate and its stand-in, a character of private use. -/
def standInShift : Nat := 0x800

/-- The character that stands for a surrogate behind the marks. -/
def standIn (code : Nat) : Char := Char.ofNat (code + standInShift)

/-- The surrogate that a character stands for behind the marks. -/
def surrogateOf? (c : Char) : Option Nat :=
  if standInShift ≤ c.toNat && isSurrogate (c.toNat - standInShift) then
    some (c.toNat - standInShift)
  else none

/-- The spelling of a text. -/
def spelled : Text → Text
  | [] => []
  | [c] => [c]
  | c :: d :: rest =>
      if c = openingMark && d = closingMark then c :: d :: d :: spelled rest
      else c :: spelled (d :: rest)

/-- The spelling of a code point. -/
def spelledCode (code : Nat) : Text :=
  if isSurrogate code then [openingMark, closingMark, standIn code] else [Char.ofNat code]

/-- The code points that a spelled text shows. Marks with nothing behind them that gives them a meaning
stand for themselves. -/
def codePoints : Text → List Nat
  | [] => []
  | [c] => [c.toNat]
  | [c, d] => [c.toNat, d.toNat]
  | c :: d :: e :: rest =>
      if c = openingMark && d = closingMark then
        if e = closingMark then c.toNat :: d.toNat :: codePoints rest
        else
          match surrogateOf? e with
          | some code => code :: codePoints rest
          | none => c.toNat :: codePoints (d :: e :: rest)
      else c.toNat :: codePoints (d :: e :: rest)

/-- The characters that a spelled text shows; surrogates are left out. -/
def unspelled (text : Text) : Text :=
  ((codePoints text).filter fun code => !isSurrogate code).map Char.ofNat

/-- One character for every code point of a spelled text; a null character shows a surrogate. -/
def pointChars (text : Text) : Text := (codePoints text).map Char.ofNat

/-- A spelled text names a surrogate. -/
def hasSurrogate (text : Text) : Bool := (codePoints text).any isSurrogate

/-- A spelling starts as its text does. -/
theorem head?_spelled (text : Text) : (spelled text).head? = text.head? := by
  fun_cases spelled text <;> rfl

/-- A character shows first where the two marks do not stand in a row. -/
theorem codePoints_cons {c : Char} {rest : Text}
    (h : c = openingMark → rest.head? ≠ some closingMark) :
    codePoints (c :: rest) = c.toNat :: codePoints rest := by
  have hmarks : ∀ d tail, rest = d :: tail → (c = openingMark && d = closingMark) = false := by
    intro d tail hrest
    by_cases hc : c = openingMark
    · have hd : d ≠ closingMark := by simpa [hrest] using h hc
      simp [hd]
    · simp [hc]
  match rest with
  | [] => rfl
  | [d] => rfl
  | d :: e :: rest =>
      rw [codePoints, if_neg]
      simp [hmarks d (e :: rest) rfl]

/-- A text of ASCII characters shows them as they are, and names no surrogate. -/
theorem hasSurrogate_of_ascii {text : Text} (h : ∀ c ∈ text, c.toNat < 0x80) :
    hasSurrogate text = false := by
  have hpoints : codePoints text = text.map Char.toNat := by
    induction text with
    | nil => rfl
    | cons c rest ih =>
        rw [List.forall_mem_cons] at h
        have hmark : c ≠ openingMark := by
          rintro rfl
          exact absurd h.1 (by decide)
        rw [codePoints_cons fun heq => absurd heq hmark, ih h.2, List.map_cons]
  rw [hasSurrogate, hpoints, List.any_map, List.any_eq_false]
  intro c hc
  have hsmall := h c hc
  simp only [Function.comp_apply, isSurrogate, Bool.and_eq_true, decide_eq_true_eq]
  omega

/-- A spelled text shows the code points of the text. -/
theorem codePoints_spelled (text : Text) : codePoints (spelled text) = text.map Char.toNat := by
  fun_induction spelled text with
  | case1 => rfl
  | case2 c => rfl
  | case3 c d rest hmarks ih =>
      rw [codePoints, if_pos hmarks, if_pos (by simpa using And.right (by simpa using hmarks)), ih]
      rfl
  | case4 c d rest hmarks ih =>
      have hhead : c = openingMark → (spelled (d :: rest)).head? ≠ some closingMark := by
        intro hc
        rw [head?_spelled]
        intro hd
        simp only [List.head?_cons, Option.some.injEq] at hd
        simp [hc, hd] at hmarks
      rw [codePoints_cons hhead, ih]
      rfl

/-- The stand-in of a surrogate has the code point at the fixed distance. -/
theorem toNat_standIn {code : Nat} (h : isSurrogate code = true) :
    (standIn code).toNat = code + standInShift := by
  simp only [isSurrogate, Bool.and_eq_true, decide_eq_true_eq] at h
  have hvalid : (code + standInShift).isValidChar := by
    simp only [standInShift, Nat.isValidChar]
    omega
  rw [standIn, Char.ofNat, dif_pos hvalid]
  rfl

/-- The spelling of a surrogate shows that surrogate. -/
theorem codePoints_spelledCode {code : Nat} (h : isSurrogate code = true) :
    codePoints (spelledCode code) = [code] := by
  have hshift := toNat_standIn h
  have hne : standIn code ≠ closingMark := by
    intro heq
    have hmark : closingMark.toNat = 0x10FFFE := rfl
    rw [heq, hmark] at hshift
    simp only [isSurrogate, Bool.and_eq_true, decide_eq_true_eq] at h
    simp only [standInShift] at hshift
    omega
  simp [spelledCode, h, codePoints, hne, surrogateOf?, hshift]

end RouteAtlas.Text
