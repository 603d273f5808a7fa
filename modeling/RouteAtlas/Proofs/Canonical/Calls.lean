import RouteAtlas.Proofs.Canonical.Imports

/-!
# Calls in canonical projects

The files of a project have two kinds of calls with a quoted path and one more argument: routes and
mounts. This module reads them back. The mounts of a file are those it was written with, in order, and
so are the route calls of a router; neither scan is led astray by the lines it is not about.
-/

set_option autoImplicit false

namespace RouteAtlas.Canonical

open Text Source Route Router

/-! ## Characters -/

theorem isBlank_of_isPathPart {c : Char} (h : isPathPart c = true) : isBlank c = false := by
  simp only [isPathPart, Bool.or_eq_true, beq_iff_eq] at h
  rcases h with (((h | rfl) | rfl) | rfl) | rfl
  · exact isBlank_of_isAlphanumeric h
  · decide
  · decide
  · decide
  · decide

theorem PathText.isBody (path : PathText) : IsBody path.text := by
  intro c hc
  have hpart := path.parts c hc
  constructor
  · rintro rfl
    exact absurd hpart (by decide)
  · rintro rfl
    exact absurd hpart (by decide)

theorem isBody_slash (path : PathText) : IsBody ('/' :: path.text) := by
  intro c hc
  rcases List.mem_cons.1 hc with rfl | hmem
  · decide
  · exact path.isBody c hmem

/-! ## Arguments -/

/-- The routes of a router, as they are mounted. -/
def routesOf (name : Text) : Text := name ++ ".routes()".toList

theorem all_isPlain_routesOf {name : Text} (h : IsName name) : (routesOf name).all isPlain = true := by
  have hroutes : ".routes()".toList.all isPlain = true := rfl
  rw [routesOf, List.all_append, all_isPlain_of_isName h, hroutes, Bool.and_self]

theorem lex_routesOf {name : Text} (h : IsName name) :
    lex (routesOf name) = codes (name ++ ".routes".toList) ++ [.code '(', .code ')'] := by
  have hsplit : routesOf name = (name ++ ".routes".toList) ++ ['(', ')'] := by
    unfold routesOf
    simp
  rw [lex_plain (all_isPlain_routesOf h), hsplit, codes_append]
  rfl

theorem parts_name {name : Text} (h : IsName name) : Parts [] (lex name) [name] := by
  rw [lex_plain (all_isPlain_of_isName h)]
  have hparts := parts_nil.codes (all_isInner_of_isName h)
  rwa [List.append_nil, List.append_nil] at hparts

theorem parts_routesOf {name : Text} (h : IsName name) :
    Parts [] (lex (routesOf name)) [routesOf name] := by
  have hinner : (name ++ ".routes".toList).all isInner = true := by
    have hroutes : ".routes".toList.all isInner = true := rfl
    rw [List.all_append, all_isInner_of_isName h, hroutes, Bool.and_self]
  have hparts := parts_nil.close.open.codes hinner
  have hsplit : routesOf name = (name ++ ".routes".toList) ++ ['(', ')'] := by
    unfold routesOf
    simp
  rw [lex_routesOf h, hsplit]
  exact hparts

theorem trim_behind_blank {text : Text} (hne : text ≠ []) (hhead : ∀ c ∈ text.head?, isBlank c = false)
    (hlast : ∀ c ∈ text.getLast?, isBlank c = false) : trim (' ' :: text) = text := by
  have hblank : [' '].all isBlank = true := rfl
  simpa using trim_surrounded hblank List.all_nil hne hhead hlast

theorem head_routesOf {name : Text} (h : IsName name) :
    ∀ c ∈ (routesOf name).head?, isBlank c = false := by
  intro c hc
  rw [routesOf, List.head?_append_of_ne_nil _ h.nonempty] at hc
  exact h.not_isBlank c (List.mem_of_mem_head? hc)

theorem last_routesOf (name : Text) : ∀ c ∈ (routesOf name).getLast?, isBlank c = false := by
  intro c hc
  have hsplit : routesOf name = (name ++ ".routes(".toList) ++ [')'] := by
    unfold routesOf
    simp
  rw [hsplit, List.getLast?_concat] at hc
  cases hc
  decide

theorem routesOf_ne_nil (name : Text) : routesOf name ≠ [] := by
  unfold routesOf
  simp

/-- The arguments of a route call. -/
theorem arguments_route (path : PathText) {handler : Text} (h : IsName handler) :
    arguments (quote path.text ++ ", ".toList ++ handler) = .ok [quote path.text, handler] := by
  apply arguments_pair path.isBody (parts_name h) h.nonempty
  apply trim_behind_blank h.nonempty
  · intro c hc
    exact h.not_isBlank c (List.mem_of_mem_head? hc)
  · intro c hc
    exact h.not_isBlank c (List.mem_of_mem_getLast? hc)

/-- The arguments of a mount. -/
theorem arguments_use (path : PathText) {name : Text} (h : IsName name) :
    arguments (quote ('/' :: path.text) ++ ", ".toList ++ routesOf name) =
      .ok [quote ('/' :: path.text), routesOf name] :=
  arguments_pair (isBody_slash path) (parts_routesOf h) (routesOf_ne_nil name)
    (trim_behind_blank (routesOf_ne_nil name) (head_routesOf h) (last_routesOf name))

theorem dottedName_routesOf {name : Text} (h : IsName name) :
    dottedName (routesOf name) = [name, "routes".toList] := by
  have htrim : trim (routesOf name) = routesOf name :=
    trim_of_ends (routesOf_ne_nil name) (head_routesOf h) (last_routesOf name)
  have hparts : partsBy '.' (routesOf name) = [name, "routes()".toList] := by
    have hdot : routesOf name = name ++ '.' :: "routes()".toList := by
      unfold routesOf
      simp
    rw [hdot, partsBy_append (h.not_mem (by decide))]
    rfl
  have hname : trimLeft name = name :=
    trimLeft_of_head fun c hc => h.not_isBlank c (List.mem_of_mem_head? hc)
  have hidentifier : identifier? name = some (name, []) := by
    have hend : ∀ c ∈ ([] : Text).head?, isIdentifierPart c = false := by simp
    have hwhole := identifier?_name h hend
    rwa [List.append_nil] at hwhole
  rw [dottedName, htrim, hparts, leadingNames, hname, hidentifier]
  rfl

/-- A mount loses its surrounding slashes. -/
theorem mountWithin_slash (path : PathText) : mountWithin ('/' :: path.text) [] = trimSlashes path.text := by
  have hblank : ∀ c ∈ '/' :: path.text, isBlank c = false := by
    intro c hc
    rcases List.mem_cons.1 hc with rfl | hmem
    · decide
    · exact isBlank_of_isPathPart (path.parts c hmem)
  have hbase : (trimSlashes (trim [])).isEmpty = true := rfl
  rw [mountWithin, trim_eq_self hblank]
  simp only [hbase, if_true]
  rfl

theorem mountOf?_use (path : PathText) {name : Text} (h : IsName name) :
    mountOf? [] [quote ('/' :: path.text), routesOf name] =
      some { router := name, path := trimSlashes path.text } := by
  rw [mountOf?, unquote?_quote, dottedName_routesOf h, ← mountWithin_slash path]
  rfl

/-! ## Closing a call -/

/-- The lexemes of a quoted text and one more argument. -/
def pairLexemes (body second : Text) : List Lexeme := .literal (quote body) :: codes (", ".toList ++ second)

theorem raw_pairLexemes (body second : Text) :
    raw (pairLexemes body second) = quote body ++ ", ".toList ++ second := by
  have hcons : raw (pairLexemes body second) = quote body ++ raw (codes (", ".toList ++ second)) := rfl
  rw [hcons, raw_codes, List.append_assoc]

theorem lex_pair {body second : Text} (hbody : IsBody body) (hsecond : second.all isPlain = true)
    (rest : Text) :
    lex (quote body ++ ", ".toList ++ second ++ ");\n".toList ++ rest) =
      pairLexemes body second ++ .code ')' :: (codes ";\n".toList ++ lex rest) := by
  have hplain : (", ".toList ++ second ++ ");\n".toList).all isPlain = true := by
    rw [List.all_append, List.all_append, hsecond]
    rfl
  have hsplit : quote body ++ ", ".toList ++ second ++ ");\n".toList ++ rest =
      quote body ++ ((", ".toList ++ second ++ ");\n".toList) ++ rest) := by
    simp only [List.append_assoc]
  rw [hsplit, lex_append_quote hbody, lex_append_plain hplain, codes_append, List.append_assoc]
  rfl

theorem closes_route (path : PathText) {handler : Text} (h : IsName handler) (behind : List Lexeme) :
    Closes 0 (pairLexemes path.text handler ++ .code ')' :: behind) (pairLexemes path.text handler)
      behind := by
  have hopen : '(' ∉ ", ".toList ++ handler := by
    have hfree : '(' ∉ handler := h.not_mem rfl
    simp [hfree]
  have hclose : ')' ∉ ", ".toList ++ handler := by
    have hfree : ')' ∉ handler := h.not_mem rfl
    simp [hfree]
  have hend : Closes 0 (.code ')' :: behind) [] behind := closes_end
  have hcloses := (hend.codes hopen hclose).literal (quote path.text)
  rwa [List.append_nil] at hcloses

theorem closes_use (path : Text) {name : Text} (h : IsName name) (behind : List Lexeme) :
    Closes 0 (pairLexemes path (routesOf name) ++ .code ')' :: behind)
      (pairLexemes path (routesOf name)) behind := by
  have hopen : '(' ∉ ", ".toList ++ (name ++ ".routes".toList) := by
    have hfree : '(' ∉ name := h.not_mem rfl
    simp [hfree]
  have hclose : ')' ∉ ", ".toList ++ (name ++ ".routes".toList) := by
    have hfree : ')' ∉ name := h.not_mem rfl
    simp [hfree]
  have hend : Closes 0 (.code ')' :: behind) [] behind := closes_end
  have hcloses := (hend.close.open.codes hopen hclose).literal (quote path)
  have hsplit : pairLexemes path (routesOf name) =
      .literal (quote path) :: (codes (", ".toList ++ (name ++ ".routes".toList)) ++
        [.code '(', .code ')']) := by
    have htext : ", ".toList ++ routesOf name = (", ".toList ++ (name ++ ".routes".toList)) ++ ['(', ')'] := by
      unfold routesOf
      simp
    rw [pairLexemes, htext, codes_append]
    rfl
  rw [hsplit]
  simpa using hcloses

end RouteAtlas.Canonical
