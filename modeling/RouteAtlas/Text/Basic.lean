/-!
# Texts

Route sources are read character by character, so a text is the list of its characters. Offsets
count characters. This module holds what every later module needs of lists of characters: trimming
by a class of characters, cutting at a separator, joining, searching for a piece of text, and
membership of a character in a table of code point ranges.
-/

set_option autoImplicit false

namespace RouteAtlas

/-- A text, character by character. -/
abbrev Text := List Char

namespace Text

/-- Membership of a character in a table of code point ranges, both ends included. -/
def inRanges (table : List (Nat × Nat)) (c : Char) : Bool :=
  table.any fun range => range.1 ≤ c.toNat && c.toNat ≤ range.2

/-- Drops the characters of a class from the end of a text. -/
def trimRightWhile (p : Char → Bool) (text : Text) : Text :=
  (text.reverse.dropWhile p).reverse

/-- Drops the characters of a class from both ends of a text. -/
def trimWhile (p : Char → Bool) (text : Text) : Text :=
  trimRightWhile p (text.dropWhile p)

/-- The rest of a text behind a given beginning. -/
def dropStart? : Text → Text → Option Text
  | [], text => some text
  | _ :: _, [] => none
  | c :: start, d :: text => if c = d then dropStart? start text else none

/-- A text begins with a given one. -/
def startsWith (text start : Text) : Bool :=
  (dropStart? start text).isSome

/-- A text ends with a given one. -/
def endsWith (text ending : Text) : Bool :=
  startsWith text.reverse ending.reverse

/-- The parts of a text between the occurrences of a character; there is always one part. -/
def partsBy (separator : Char) : Text → List Text
  | [] => [[]]
  | c :: rest =>
      if c = separator then [] :: partsBy separator rest
      else match partsBy separator rest with
        | [] => [[c]]
        | part :: parts => (c :: part) :: parts

/-- Texts joined by a separator. -/
def join (separator : Text) : List Text → Text
  | [] => []
  | [part] => part
  | part :: parts => part ++ separator ++ join separator parts

/-- The text before the first occurrence of a piece and the text behind it. -/
def cut? (piece : Text) : Text → Option (Text × Text)
  | [] => if piece.isEmpty then some ([], []) else none
  | c :: rest =>
      match dropStart? piece (c :: rest) with
      | some behind => some ([], behind)
      | none => (cut? piece rest).map fun (before, behind) => (c :: before, behind)

/-- The offset of the first occurrence of a piece in a text. -/
def offset? (piece text : Text) : Option Nat :=
  (cut? piece text).map fun (before, _) => before.length

/-- A piece occurs in a text. -/
def occurs (piece text : Text) : Bool :=
  (cut? piece text).isSome

/-- A given beginning followed by any rest is recognised, and the rest is what is left. -/
@[simp] theorem dropStart?_append (start text : Text) :
    dropStart? start (start ++ text) = some text := by
  induction start with
  | nil => rfl
  | cons c start ih => simp [dropStart?, ih]

/-- What is left behind a beginning, put behind it again, is the text. -/
theorem append_of_dropStart? {start text rest : Text} (h : dropStart? start text = some rest) :
    start ++ rest = text := by
  induction start generalizing text with
  | nil => simpa [dropStart?] using h.symm
  | cons c start ih =>
      cases text with
      | nil => simp [dropStart?] at h
      | cons d text =>
          simp only [dropStart?] at h
          split at h
          · rename_i hcd
            simp [hcd, ih h]
          · simp at h

/-- A text cut at its separators has at least one part. -/
theorem partsBy_ne_nil (separator : Char) (text : Text) : partsBy separator text ≠ [] := by
  cases text with
  | nil => simp [partsBy]
  | cons c rest =>
      simp only [partsBy]
      split
      · simp
      · split <;> simp

/-- Cutting at a separator and joining with it gives the text back. -/
theorem join_partsBy (separator : Char) (text : Text) :
    join [separator] (partsBy separator text) = text := by
  induction text with
  | nil => rfl
  | cons c rest ih =>
      simp only [partsBy]
      cases hparts : partsBy separator rest with
      | nil => exact absurd hparts (partsBy_ne_nil separator rest)
      | cons part parts =>
          rw [hparts] at ih
          split
          · rename_i hc
            simp [join, hc, ih]
          · cases parts with
            | nil => simpa [join] using ih
            | cons next parts => simpa [join] using ih

/-- The text before a piece, the piece and the text behind it make up the whole. -/
theorem append_of_cut? {piece text before behind : Text} (h : cut? piece text = some (before, behind)) :
    before ++ piece ++ behind = text := by
  induction text generalizing before with
  | nil =>
      simp only [cut?] at h
      split at h
      · simp_all
      · simp at h
  | cons c rest ih =>
      simp only [cut?] at h
      split at h
      · rename_i found hfound
        simp only [Option.some.injEq, Prod.mk.injEq] at h
        obtain ⟨rfl, rfl⟩ := h
        simpa using append_of_dropStart? hfound
      · cases hcut : cut? piece rest with
        | none => simp [hcut] at h
        | some pair =>
            simp only [hcut, Option.map_some, Option.some.injEq, Prod.mk.injEq] at h
            obtain ⟨rfl, rfl⟩ := h
            simpa using ih hcut

/-- A piece is not found where its first character does not stand. -/
theorem cut?_eq_none {c : Char} {piece text : Text} (h : c ∉ text) : cut? (c :: piece) text = none := by
  induction text with
  | nil => rfl
  | cons d rest ih =>
      have hd : c ≠ d := fun hsame => h (hsame ▸ List.mem_cons_self)
      rw [cut?, dropStart?, if_neg hd, ih fun hmem => h (List.mem_cons_of_mem _ hmem)]
      rfl

/-- A character is found at its first place. -/
theorem cut?_append_cons {c : Char} {before : Text} (h : c ∉ before) (behind : Text) :
    cut? [c] (before ++ c :: behind) = some (before, behind) := by
  induction before with
  | nil => simp [cut?, dropStart?]
  | cons d before ih =>
      have hd : c ≠ d := fun hsame => h (hsame ▸ List.mem_cons_self)
      rw [List.cons_append, cut?, dropStart?, if_neg hd, ih fun hmem => h (List.mem_cons_of_mem _ hmem)]
      rfl

end Text

end RouteAtlas
