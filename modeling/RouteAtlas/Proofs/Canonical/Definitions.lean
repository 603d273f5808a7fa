import RouteAtlas.Proofs.Canonical.Project
import Mathlib.Data.List.TakeWhile

/-!
# Definitions in canonical projects

A marker runs from its keyword to an equals sign without a semicolon on the way. The main file of a
project has no equals sign, so nothing is defined in it; the file of a router has one, and its only
definition is that of the router, whose span goes on to the end of the file.
-/

set_option autoImplicit false

namespace RouteAtlas.Router

open Text

/-- One text is a rest of another, and no semicolon stands before it. -/
def Passes (text rest : Text) : Prop := ∃ before, text = before ++ rest ∧ ';' ∉ before

section

variable {text rest : Text}

theorem Passes.refl (text : Text) : Passes text text := ⟨[], rfl, List.not_mem_nil⟩

theorem Passes.trans {middle : Text} (h : Passes text middle) (h' : Passes middle rest) :
    Passes text rest := by
  obtain ⟨before, rfl, hbefore⟩ := h
  obtain ⟨between, rfl, hbetween⟩ := h'
  refine ⟨before ++ between, (List.append_assoc _ _ _).symm, ?_⟩
  rw [List.mem_append]
  rintro (hmem | hmem)
  · exact hbefore hmem
  · exact hbetween hmem

theorem passes_dropStart? {word : Text} (h : dropStart? word text = some rest) (hword : ';' ∉ word) :
    Passes text rest :=
  ⟨word, (append_of_dropStart? h).symm, hword⟩

theorem passes_trimLeft (text : Text) : Passes text (trimLeft text) := by
  refine ⟨text.takeWhile isBlank, List.takeWhile_append_dropWhile.symm, ?_⟩
  intro hmem
  exact absurd (List.mem_takeWhile_imp hmem) (by decide)

theorem passes_skipBlanks1? (h : skipBlanks1? text = some rest) : Passes text rest := by
  cases text with
  | nil => cases h
  | cons c text =>
      rw [skipBlanks1?] at h
      split at h
      · rename_i hblank
        cases h
        obtain ⟨before, hbefore, hnone⟩ := passes_trimLeft text
        refine ⟨c :: before, congrArg (c :: ·) hbefore, ?_⟩
        rw [List.mem_cons]
        rintro (rfl | hmem)
        · exact absurd hblank (by decide)
        · exact hnone hmem
      · cases h

theorem passes_identifier? {name : Text} (h : identifier? text = some (name, rest)) :
    Passes text rest := by
  cases text with
  | nil => cases h
  | cons c text =>
      rw [identifier?] at h
      split at h
      · rename_i hstart
        cases h
        refine ⟨c :: text.takeWhile isIdentifierPart,
          congrArg (c :: ·) List.takeWhile_append_dropWhile.symm, ?_⟩
        rw [List.mem_cons]
        rintro (rfl | hmem)
        · exact absurd hstart (by decide)
        · exact absurd (List.mem_takeWhile_imp hmem) (by decide)
      · cases h

theorem passes_dropExport (text : Text) : Passes text (dropExport text) := by
  rw [dropExport]
  cases hword : dropStart? "export".toList text with
  | none => exact .refl text
  | some behind =>
      cases hblanks : skipBlanks1? behind with
      | none => simpa [hblanks] using Passes.refl text
      | some rest =>
          simpa [hblanks] using (passes_dropStart? hword (by decide)).trans (passes_skipBlanks1? hblanks)

theorem passes_dropTypeMark (text : Text) : Passes text (dropTypeMark text) := by
  rw [dropTypeMark.eq_def]
  split
  · rename_i rest
    cases hword : dropStart? "Router".toList (trimLeft rest) with
    | none => exact .refl _
    | some behind =>
        have hcolon : Passes (':' :: rest) rest := ⟨[':'], rfl, by decide⟩
        have hrest := (passes_trimLeft rest).trans (passes_dropStart? hword (by decide))
        exact (hcolon.trans hrest).trans (passes_trimLeft behind)
  · exact .refl _

end

/-- A marker runs up to an equals sign without a semicolon on the way. -/
theorem passes_of_marker? {text name behind : Text} (h : marker? text = some (name, behind)) :
    ∃ rest, Passes text ('=' :: rest) := by
  simp only [marker?, Option.bind_eq_bind, Option.bind_eq_some_iff] at h
  obtain ⟨afterWord, hword, afterBlanks, hblanks, ⟨found, afterName⟩, hname, afterEquals, hequals, -⟩ := h
  obtain ⟨keyword, hkeyword, hdrop⟩ := List.exists_of_findSome?_eq_some hword
  have hplain : ∀ keyword ∈ ["const".toList, "let".toList, "var".toList], ';' ∉ keyword := by decide
  refine ⟨afterEquals, ?_⟩
  -- every part of a marker before the equals sign is passed without a semicolon
  have hstart := (passes_dropExport text).trans (passes_dropStart? hdrop (hplain keyword hkeyword))
  have hmiddle := (hstart.trans (passes_skipBlanks1? hblanks)).trans (passes_identifier? hname)
  have hend := (hmiddle.trans (passes_trimLeft _)).trans (passes_dropTypeMark _)
  rwa [← append_of_dropStart? hequals] at hend

/-- No marker starts before a semicolon that comes before any equals sign. -/
theorem marker?_eq_none {text : Text} (hsemicolon : ';' ∈ text) (hequals : '=' ∉ text) (rest : Text) :
    marker? (text ++ rest) = none := by
  cases hmarker : marker? (text ++ rest) with
  | none => rfl
  | some found =>
      obtain ⟨tail, before, hsplit, hbefore⟩ := passes_of_marker? hmarker
      -- the equals sign stands behind the semicolon, which then lies on the way, or before it in the text
      rcases List.append_eq_append_iff.1 hsplit with ⟨more, rfl, -⟩ | ⟨more, rfl, hmore⟩
      · exact absurd (List.mem_append_left _ hsemicolon) hbefore
      · cases more with
        | nil =>
            rw [List.append_nil] at hsemicolon
            exact absurd hsemicolon hbefore
        | cons c more =>
            rw [List.cons_append, List.cons.injEq] at hmore
            rw [← hmore.1] at hequals
            exact absurd (List.mem_append_right _ List.mem_cons_self) hequals

/-- Without an equals sign there are no markers. -/
theorem markersFrom_eq_nil {text : Text} (h : '=' ∉ text) (offset : Nat) :
    markersFrom 0 offset text = [] := by
  induction text generalizing offset with
  | nil => rfl
  | cons c rest ih =>
      have hnone : marker? (c :: rest) = none := by
        cases hmarker : marker? (c :: rest) with
        | none => rfl
        | some found =>
            obtain ⟨tail, before, hsplit, -⟩ := passes_of_marker? hmarker
            rw [hsplit] at h
            exact absurd (List.mem_append_right _ List.mem_cons_self) h
      rw [markersFrom, hnone]
      exact ih (fun hmem => h (List.mem_cons_of_mem _ hmem)) _

theorem markersFrom_skip (text rest : Text) (offset : Nat) :
    markersFrom text.length offset (text ++ rest) = markersFrom 0 (offset + text.length) rest := by
  induction text generalizing offset with
  | nil => rfl
  | cons c text ih =>
      show markersFrom text.length (offset + 1) (text ++ rest) = _
      rw [ih, List.length_cons, Nat.add_assoc, Nat.add_comm 1]

/-- A line that ends with a semicolon and has no equals sign has no marker. -/
theorem markersFrom_line {body : Text} (h : '=' ∉ body) (rest : Text) (offset : Nat) :
    markersFrom 0 offset (body ++ ';' :: '\n' :: rest) =
      markersFrom 0 (offset + (body.length + 2)) rest := by
  induction body generalizing offset with
  | nil =>
      have hsemicolon : marker? (';' :: '\n' :: rest) = none :=
        marker?_eq_none (by decide : ';' ∈ [';']) (by decide) ('\n' :: rest)
      have hnewline : marker? ('\n' :: rest) = none := rfl
      rw [List.nil_append, markersFrom, hsemicolon]
      show markersFrom 0 (offset + 1) ('\n' :: rest) = _
      rw [markersFrom, hnewline]
      rfl
  | cons c body ih =>
      -- the semicolon of the line keeps a marker from starting anywhere in it
      have hnone : marker? ((c :: body) ++ ';' :: '\n' :: rest) = none := by
        have hbefore := marker?_eq_none (by simp : ';' ∈ (c :: body) ++ [';']) (by simpa using h)
          ('\n' :: rest)
        rwa [List.append_assoc] at hbefore
      rw [List.cons_append] at hnone ⊢
      rw [markersFrom, hnone]
      show markersFrom 0 (offset + 1) (body ++ ';' :: '\n' :: rest) = _
      rw [ih (fun hmem => h (List.mem_cons_of_mem _ hmem)), List.length_cons]
      congr 1
      omega

end RouteAtlas.Router

namespace RouteAtlas.Canonical

open Text Source Route Router

theorem PathText.not_mem (path : PathText) {c : Char} (hc : isPathPart c = false) : c ∉ path.text := by
  intro hmem
  rw [path.parts c hmem] at hc
  cases hc

/-! ## Lines without an equals sign -/

theorem equals_not_mem_importLine {name : Text} (h : IsName name) : '=' ∉ importLine name := by
  have hname : '=' ∉ name := h.not_mem rfl
  unfold importLine
  simp [hname]

theorem equals_not_mem_useLine {receiver name : Text} (path : PathText) (hreceiver : IsName receiver)
    (hname : IsName name) : '=' ∉ useLine receiver path.text name := by
  have hpath : '=' ∉ path.text := path.not_mem rfl
  have houter : '=' ∉ receiver := hreceiver.not_mem rfl
  have hinner : '=' ∉ name := hname.not_mem rfl
  unfold useLine
  simp [quote, hpath, houter, hinner]

theorem equals_not_mem_routeLine {receiver : Text} (verb : Verb) (path : PathText) (handler : Handler)
    (hreceiver : IsName receiver) :
    '=' ∉ routeLine receiver verb path.text handler.text := by
  have hverb : '=' ∉ verb.name.toList := by cases verb <;> decide
  have hpath : '=' ∉ path.text := path.not_mem rfl
  have houter : '=' ∉ receiver := hreceiver.not_mem rfl
  have hinner : '=' ∉ handler.text := handler.isHandler.name.not_mem rfl
  unfold routeLine
  simp [quote, hverb, hpath, houter, hinner]

section

variable {n : Nat} (project : Project n)

theorem Project.isName (router : Fin n) : IsName (project.nameOf router) :=
  (project.routers router).name.isName

theorem Project.nameOf_injective : Function.Injective project.nameOf := by
  intro router other hsame
  apply project.distinct
  show (project.routers router).name = (project.routers other).name
  rcases hrouter : (project.routers router).name with ⟨text, _⟩
  rcases hother : (project.routers other).name with ⟨text', _⟩
  simp only [Project.nameOf, hrouter, hother] at hsame
  simp [hsame]

theorem Project.equals_not_mem_mainText : '=' ∉ project.mainText := by
  rw [Project.mainText, List.mem_append]
  rintro (hmem | hmem)
  · obtain ⟨router, -, hline⟩ := List.mem_flatMap.1 hmem
    exact equals_not_mem_importLine (project.isName router) hline
  · obtain ⟨mount, -, hline⟩ := List.mem_flatMap.1 hmem
    exact equals_not_mem_useLine mount.1 (by decide) (project.isName mount.2) hline

theorem Project.equals_not_mem_bodyText {receiver : Text} (hreceiver : IsName receiver)
    (lines : List (Line n)) : '=' ∉ project.bodyText receiver lines := by
  intro hmem
  obtain ⟨line, -, hline⟩ := List.mem_flatMap.1 hmem
  cases line with
  | route verb path handler => exact equals_not_mem_routeLine verb path handler hreceiver hline
  | mount path router => exact equals_not_mem_useLine path hreceiver (project.isName router) hline

end

/-! ## The definition of a router -/

/-- The definition of a router up to its parenthesis. -/
def headMark (name : Text) : Text := "export const ".toList ++ name ++ " = new Router(".toList

theorem marker?_headLine {name : Text} (h : IsName name) (rest : Text) :
    marker? (headLine name ++ rest) = some (name, ");\n".toList ++ rest) := by
  have hsplit : headLine name ++ rest =
      "export const ".toList ++ (name ++ (" = new Router();\n".toList ++ rest)) := by
    unfold headLine
    rw [List.append_assoc, List.append_assoc]
  have hname : trimLeft (name ++ (" = new Router();\n".toList ++ rest)) =
      name ++ (" = new Router();\n".toList ++ rest) := by
    apply trimLeft_of_head
    intro c hc
    rw [List.head?_append_of_ne_nil _ h.nonempty] at hc
    exact h.not_isBlank c (List.mem_of_mem_head? hc)
  have hidentifier : identifier? (name ++ (" = new Router();\n".toList ++ rest)) =
      some (name, " = new Router();\n".toList ++ rest) := by
    apply identifier?_name h
    intro c hc
    cases hc
    decide
  -- the parts before and behind the name are read off by evaluation
  have hbefore : dropExport ("export const ".toList ++ (name ++ (" = new Router();\n".toList ++ rest))) =
      "const ".toList ++ (name ++ (" = new Router();\n".toList ++ rest)) := rfl
  have hkeyword : ["const".toList, "let".toList, "var".toList].findSome? (fun keyword =>
      dropStart? keyword ("const ".toList ++ (name ++ (" = new Router();\n".toList ++ rest)))) =
      some (' ' :: (name ++ (" = new Router();\n".toList ++ rest))) := rfl
  have hblank : skipBlanks1? (' ' :: (name ++ (" = new Router();\n".toList ++ rest))) =
      some (name ++ (" = new Router();\n".toList ++ rest)) := by
    rw [skipBlanks1?, if_pos (by decide), hname]
  rw [marker?, hsplit, hbefore, hkeyword]
  simp only [Option.bind_eq_bind, Option.bind_some, hblank, hidentifier]
  rfl

theorem headLine_eq (name rest : Text) :
    headLine name ++ rest = headMark name ++ (");\n".toList ++ rest) := by
  unfold headLine headMark
  simp

/-- The only marker of a file that starts with the definition of a router. -/
theorem markersFrom_headLine {name rest : Text} (h : IsName name) (hrest : '=' ∉ rest) (offset : Nat) :
    markersFrom 0 offset (headLine name ++ rest) =
      [{ name := name, start := offset, stop := offset + (headMark name).length }] := by
  have hmarker := marker?_headLine h rest
  have hbehind : '=' ∉ ");\n".toList ++ rest := by
    rw [List.mem_append]
    rintro (hmem | hmem)
    · exact absurd hmem (by decide)
    · exact hrest hmem
  rw [headLine_eq] at hmarker ⊢
  obtain ⟨mark, hmark⟩ : ∃ mark, headMark name = 'e' :: mark := ⟨_, rfl⟩
  rw [hmark, List.cons_append] at hmarker ⊢
  have hlength : (mark ++ (");\n".toList ++ rest)).length + 1 - (");\n".toList ++ rest).length =
      mark.length + 1 := by
    rw [List.length_append]
    omega
  rw [markersFrom, hmarker]
  simp only [hlength, Nat.add_sub_cancel, List.length_cons]
  rw [markersFrom_skip, markersFrom_eq_nil hbehind]

section

variable {n : Nat} (project : Project n)

theorem Project.markersFrom_importText (imports : List (Fin n)) (rest : Text) (offset : Nat) :
    markersFrom 0 offset (project.importText imports ++ rest) =
      markersFrom 0 (offset + (project.importText imports).length) rest := by
  induction imports generalizing offset with
  | nil => rfl
  | cons router imports ih =>
      have hline : ∀ rest, importLine (project.nameOf router) ++ rest =
          ("import \x7b ".toList ++ project.nameOf router ++ " \x7d from './".toList ++
            project.nameOf router ++ ".ts'".toList) ++ ';' :: '\n' :: rest := by
        intro rest
        unfold importLine
        simp
      have hbody : '=' ∉ "import \x7b ".toList ++ project.nameOf router ++ " \x7d from './".toList ++
          project.nameOf router ++ ".ts'".toList := by
        have hname : '=' ∉ project.nameOf router := (project.isName router).not_mem rfl
        simp [hname]
      have hcons : project.importText (router :: imports) =
          importLine (project.nameOf router) ++ project.importText imports := List.flatMap_cons
      have hlength := congrArg List.length (hline [])
      rw [List.append_nil, List.length_append] at hlength
      have htotal : (project.importText (router :: imports)).length =
          (importLine (project.nameOf router)).length + (project.importText imports).length := by
        rw [hcons, List.length_append]
      rw [htotal, hlength, hcons, List.append_assoc, hline, markersFrom_line hbody, ih]
      simp only [List.length_cons, List.length_nil]
      congr 1
      omega

/-- The marker of a router in its file. -/
def Project.markerOf (router : Fin n) : Marker :=
  let start := (project.importText (project.routers router).imports).length
  { name := project.nameOf router
    start := start
    stop := start + (headMark (project.nameOf router)).length }

theorem Project.markers_routerText (router : Fin n) :
    markers (project.routerText router) = [project.markerOf router] := by
  rw [markers, Project.routerText, project.markersFrom_importText, Nat.zero_add]
  exact markersFrom_headLine (project.isName router)
    (project.equals_not_mem_bodyText (project.isName router) _) _

/-- Nothing is defined in the main file. -/
theorem Project.definition?_mainText (name : Text) : definition? project.mainText name = none := by
  rw [definition?, markers, markersFrom_eq_nil project.equals_not_mem_mainText]
  rfl

theorem Project.definition?_routerText (router : Fin n) :
    definition? (project.routerText router) (project.nameOf router) = some (project.markerOf router) := by
  rw [definition?, project.markers_routerText]
  exact List.find?_cons_of_pos (beq_self_eq_true _)

/-- The file of a router defines no other router. -/
theorem Project.definition?_other {router other : Fin n} (h : other ≠ router) :
    definition? (project.routerText router) (project.nameOf other) = none := by
  have hname : project.nameOf router ≠ project.nameOf other := fun hsame =>
    h (project.nameOf_injective hsame).symm
  rw [definition?, project.markers_routerText]
  exact List.find?_cons_of_neg (by simpa [Project.markerOf] using hname)

/-- The span of a router goes on to the end of its file. -/
theorem Project.spanOf_routerText (router : Fin n) :
    spanOf (project.routerText router) (project.markerOf router) =
      headLine (project.nameOf router) ++
        project.bodyText (project.nameOf router) (project.routers router).lines := by
  have hbody := project.equals_not_mem_bodyText (project.isName router) (project.routers router).lines
  have hbehind : '=' ∉ ");\n".toList ++
      project.bodyText (project.nameOf router) (project.routers router).lines := by
    rw [List.mem_append]
    rintro (hmem | hmem)
    · exact absurd hmem (by decide)
    · exact hbody hmem
  have hstop : (project.routerText router).drop (project.markerOf router).stop =
      ");\n".toList ++ project.bodyText (project.nameOf router) (project.routers router).lines := by
    rw [Project.routerText, headLine_eq, ← List.append_assoc]
    exact List.drop_left' (by rw [List.length_append]; rfl)
  have hstart : (project.routerText router).drop (project.markerOf router).start =
      headLine (project.nameOf router) ++
        project.bodyText (project.nameOf router) (project.routers router).lines :=
    List.drop_left' rfl
  rw [spanOf, hstop, markersFrom_eq_nil hbehind, hstart]

end

end RouteAtlas.Canonical
