import RouteAtlas.Proofs.Canonical.Calls

/-!
# The mounts of canonical files

The scan for mounts looks at every dot of a text. In the files of a project these are the dots of
module specifiers, of route calls and of mounts, and only the dot before `use` counts. The mounts found
in the main file and in the span of a router are the ones they were written with.
-/

set_option autoImplicit false

namespace RouteAtlas.Router

open Text Source Route

section

variable {basePath : Text} {receiver : Option Text}

/-- Text without dots is passed. -/
theorem useCalls_append {text : Text} (h : '.' ∉ text) (seen rest : Text) :
    useCalls basePath receiver seen (text ++ rest) =
      useCalls basePath receiver (text.reverse ++ seen) rest := by
  induction text generalizing seen with
  | nil => rfl
  | cons c text ih =>
      have hc : c ≠ '.' := fun hsame => h (hsame ▸ List.mem_cons_self)
      -- what has been seen grows in reverse, so the receiver stands at its front
      rw [List.cons_append, useCalls, if_neg hc, ih fun hmem => h (List.mem_cons_of_mem _ hmem),
        List.reverse_cons, List.append_assoc]
      rfl

/-- A dot that no `use` call follows is passed. -/
theorem useCalls_dot {rest : Text} (h : behindUse? rest = none) (seen : Text) :
    useCalls basePath receiver seen ('.' :: rest) = useCalls basePath receiver ('.' :: seen) rest := by
  rw [useCalls, if_pos rfl, h]

theorem behindUse?_eq_none {c : Char} (hblank : isBlank c = false) (hc : c ≠ 'u') (rest : Text) :
    behindUse? (c :: rest) = none := by
  have htrim : trimLeft (c :: rest) = c :: rest := by
    apply trimLeft_of_head
    intro d hd
    cases hd
    exact hblank
  have hdrop : dropStart? "use".toList (c :: rest) = none := by
    show (if 'u' = c then dropStart? "se".toList rest else none) = none
    rw [if_neg fun hsame => hc hsame.symm]
  rw [behindUse?, htrim, hdrop]
  rfl

end

/-- The receiver before a dot is read off the text before it. -/
theorem lastIdentifier?_name {name before : Text} (h : IsName name)
    (hbefore : ∀ c ∈ before.head?, isIdentifierPart c = false) :
    lastIdentifier? (name.reverse ++ before) = some (name, before) := by
  have hhead : ∀ c ∈ name.reverse ++ before |>.head?, isBlank c = false := by
    intro c hc
    rw [List.head?_append_of_ne_nil _ (by simpa using h.nonempty)] at hc
    exact h.not_isBlank c (List.mem_reverse.1 (List.mem_of_mem_head? hc))
  have hblank : (name.reverse ++ before).dropWhile isBlank = name.reverse ++ before :=
    trimLeft_of_head hhead
  have hparts : ∀ c ∈ name.reverse, isIdentifierPart c = true := fun c hc =>
    h.identifierPart c (List.mem_reverse.1 hc)
  have hstop : before.takeWhile isIdentifierPart = [] ∧ before.dropWhile isIdentifierPart = before := by
    cases before with
    | nil => exact ⟨rfl, rfl⟩
    | cons c before => simp [hbefore c rfl]
  have htake : (name.reverse ++ before).takeWhile isIdentifierPart = name.reverse := by
    rw [List.takeWhile_append_of_pos hparts, hstop.1, List.append_nil]
  have hdrop : (name.reverse ++ before).dropWhile isIdentifierPart = before := by
    rw [List.dropWhile_append_of_pos hparts, hstop.2]
  -- reversed back, the run of identifier characters is the name, and it starts like one
  cases name with
  | nil => exact absurd rfl h.nonempty
  | cons c name =>
      have hstart : isIdentifierStart c = true := h.start c rfl
      rw [lastIdentifier?, hblank, htake, hdrop, List.reverse_reverse]
      simp [hstart]

theorem isReceiver_name {name before : Text} (h : IsName name)
    (hbefore : ∀ c ∈ before.head?, isIdentifierPart c = false) :
    isReceiver (some name) (name.reverse ++ before) = true := by
  rw [isReceiver, lastIdentifier?_name h hbefore]
  exact beq_self_eq_true name

end RouteAtlas.Router

namespace RouteAtlas.Canonical

open Text Source Route Router

/-! ## Lines -/

section

variable {receiver : Option Text}

theorem useCalls_importLine {name : Text} (h : IsName name) (seen rest : Text) :
    useCalls [] receiver seen (importLine name ++ rest) =
      useCalls [] receiver ((importLine name).reverse ++ seen) rest := by
  have hsplit : importLine name ++ rest = ("import \x7b ".toList ++ name ++ " \x7d from '".toList) ++
      '.' :: (('/' :: name) ++ '.' :: ("ts';\n".toList ++ rest)) := by
    unfold importLine
    simp
  have hname : '.' ∉ name := h.not_mem (by decide)
  have hfront : '.' ∉ "import \x7b ".toList ++ name ++ " \x7d from '".toList := by simp [hname]
  have hmiddle : '.' ∉ '/' :: name := by simp [hname]
  have hend : '.' ∉ "ts';\n".toList := by decide
  have hslash : behindUse? (('/' :: name) ++ '.' :: ("ts';\n".toList ++ rest)) = none :=
    behindUse?_eq_none (by decide) (by decide) _
  have hsuffix : behindUse? ("ts';\n".toList ++ rest) = none :=
    behindUse?_eq_none (by decide) (by decide) _
  rw [hsplit, useCalls_append hfront, useCalls_dot hslash, useCalls_append hmiddle,
    useCalls_dot hsuffix, useCalls_append hend]
  congr 1
  unfold importLine
  simp

theorem useCalls_routeLine {name : Text} (h : IsName name) (verb : Verb) (path : PathText)
    (handler : Handler) (seen rest : Text) :
    useCalls [] receiver seen (routeLine name verb path.text handler.text ++ rest) =
      useCalls [] receiver ((routeLine name verb path.text handler.text).reverse ++ seen) rest := by
  have hsplit : routeLine name verb path.text handler.text = name ++ '.' :: (verb.name.toList ++ '(' ::
      (quote path.text ++ ", ".toList ++ handler.text ++ ");\n".toList)) := by
    unfold routeLine
    rfl
  have hname : '.' ∉ name := h.not_mem (by decide)
  have hinner : '.' ∉ verb.name.toList ++ '(' ::
      (quote path.text ++ ", ".toList ++ handler.text ++ ");\n".toList) := by
    have hverb : '.' ∉ verb.name.toList := by cases verb <;> decide
    have hpath : '.' ∉ path.text := path.not_mem (by decide)
    have hhandler : '.' ∉ handler.text := handler.isHandler.name.not_mem (by decide)
    simp [quote, hverb, hpath, hhandler]
  have hverb : ∀ rest, behindUse? (verb.name.toList ++ rest) = none := by
    intro rest
    cases verb <;> exact behindUse?_eq_none (by decide) (by decide) _
  rw [hsplit, List.append_assoc, useCalls_append hname, List.cons_append, List.append_assoc,
    useCalls_dot (hverb _), ← List.append_assoc, useCalls_append hinner]
  congr 1
  simp

/-- A mount is found where its receiver is the one asked for. -/
theorem useCalls_useLine {outer name : Text} (houter : IsName outer) (h : IsName name) (path : PathText)
    {seen : Text} (hreceiver : isReceiver receiver (outer.reverse ++ seen) = true) (rest : Text) :
    useCalls [] receiver seen (useLine outer path.text name ++ rest) =
      .ok (some { router := name, path := trimSlashes path.text }) ::
        useCalls [] receiver ((useLine outer path.text name).reverse ++ seen) rest := by
  have hsplit : useLine outer path.text name = outer ++ '.' :: ("use(".toList ++
      (quote ('/' :: path.text) ++ ", ".toList ++ routesOf name ++ ");\n".toList)) := by
    unfold useLine routesOf
    rfl
  have harguments : ∀ start, argumentsAt start
      (quote ('/' :: path.text) ++ ", ".toList ++ routesOf name ++ ");\n".toList ++ rest) =
      .ok [quote ('/' :: path.text), routesOf name] := by
    intro start
    rw [argumentsAt, lex_pair (isBody_slash path) (all_isPlain_routesOf h), closes_use _ h _ start start]
    show arguments (raw (pairLexemes ('/' :: path.text) (routesOf name))) = _
    rw [raw_pairLexemes, arguments_use path h]
  have hname : '.' ∉ name := h.not_mem (by decide)
  have hpath : '.' ∉ path.text := path.not_mem (by decide)
  have hbehind : behindUse? ("use(".toList ++ (quote ('/' :: path.text) ++ ", ".toList ++
      routesOf name ++ ");\n".toList ++ rest)) =
      some (quote ('/' :: path.text) ++ ", ".toList ++ routesOf name ++ ");\n".toList ++ rest) := rfl
  have hfront : '.' ∉ "use(".toList ++ (quote ('/' :: path.text) ++ ", ".toList ++ name) := by
    simp [quote, hpath, hname]
  have hend : '.' ∉ "routes());\n".toList := by decide
  -- behind the call the scan goes on inside its arguments, where the other dot of the line stands
  have hinside : "use(".toList ++ (quote ('/' :: path.text) ++ ", ".toList ++ routesOf name ++
      ");\n".toList ++ rest) = ("use(".toList ++ (quote ('/' :: path.text) ++ ", ".toList ++ name)) ++
        '.' :: ("routes());\n".toList ++ rest) := by
    unfold routesOf
    simp
  have hnone : behindUse? ("routes());\n".toList ++ rest) = none :=
    behindUse?_eq_none (by decide) (by decide) _
  rw [hsplit, List.append_assoc, useCalls_append (houter.not_mem (by decide)), List.cons_append,
    List.append_assoc, useCalls, if_pos rfl, hbehind]
  simp only [hreceiver, if_true, harguments]
  rw [hinside, useCalls_append hfront, useCalls_dot hnone, useCalls_append hend]
  refine congrArg₂ List.cons ?_ ?_
  · show Except.ok (mountOf? [] [quote ('/' :: path.text), routesOf name]) = _
    rw [mountOf?_use path h]
  · congr 1
    unfold routesOf
    simp

end

/-! ## Files -/

section

variable {n : Nat} (project : Project n)

/-- A mount as it is found. -/
def Project.mountOf (mount : PathText × Fin n) : Mount :=
  { router := project.nameOf mount.2, path := trimSlashes mount.1.text }

theorem Project.useCalls_importText (imports : List (Fin n)) (seen rest : Text) :
    useCalls [] none seen (project.importText imports ++ rest) =
      useCalls [] none ((project.importText imports).reverse ++ seen) rest := by
  induction imports generalizing seen with
  | nil => rfl
  | cons router imports ih =>
      have hcons : project.importText (router :: imports) =
          importLine (project.nameOf router) ++ project.importText imports := List.flatMap_cons
      rw [hcons, List.append_assoc, useCalls_importLine (project.isName router), ih,
        List.reverse_append, List.append_assoc]

/-- **The mounts of the main file.** -/
theorem Project.mounts_mainText :
    (Router.mounts project.mainText [] none).mounts = project.mounts.map project.mountOf := by
  have hlines : ∀ (list : List (PathText × Fin n)) (seen : Text),
      useCalls [] none seen (list.flatMap fun mount =>
        useLine application mount.1.text (project.nameOf mount.2)) =
        list.map fun mount => .ok (some (project.mountOf mount)) := by
    intro list
    induction list with
    | nil => intro seen; rfl
    | cons mount list ih =>
        intro seen
        rw [List.flatMap_cons, List.map_cons, useCalls_useLine (by decide) (project.isName mount.2)
          mount.1 rfl, ih]
        rfl
  have hcalls : useCalls [] none [] project.mainText =
      project.mounts.map fun mount => .ok (some (project.mountOf mount)) := by
    rw [Project.mainText, project.useCalls_importText, hlines]
  rw [Router.mounts, hcalls]
  simp [List.filterMap_map]

/-- No identifier goes on behind a line. -/
theorem head_behind_line {line seen : Text} (h : ∃ text, line = text ++ ['\n']) :
    ∀ c ∈ (line.reverse ++ seen).head?, isIdentifierPart c = false := by
  obtain ⟨text, rfl⟩ := h
  intro c hc
  rw [List.reverse_concat] at hc
  cases hc
  decide

theorem Project.lineText_newline (name : Text) (line : Line n) :
    ∃ text, project.lineText name line = text ++ ['\n'] := by
  cases line with
  | route verb path handler =>
      exact ⟨name ++ '.' :: (verb.name.toList ++ '(' ::
        (quote path.text ++ ", ".toList ++ handler.text ++ ");".toList)), by
          simp [Project.lineText, routeLine]⟩
  | mount path router =>
      exact ⟨name ++ '.' :: ("use(".toList ++ (quote ('/' :: path.text) ++ ", ".toList ++
        routesOf (project.nameOf router) ++ ");".toList)), by
          simp [Project.lineText, useLine, routesOf]⟩

theorem headLine_newline (name : Text) : ∃ text, headLine name = text ++ ['\n'] := by
  refine ⟨"export const ".toList ++ name ++ " = new Router();".toList, ?_⟩
  unfold headLine
  simp

theorem dot_not_mem_headLine {name : Text} (h : IsName name) : '.' ∉ headLine name := by
  have hname : '.' ∉ name := h.not_mem (by decide)
  unfold headLine
  simp [hname]

/-- The mounts in the lines behind the definition of a router. -/
theorem Project.useCalls_bodyText {name : Text} (h : IsName name) (lines : List (Line n)) {seen : Text}
    (hseen : ∀ c ∈ seen.head?, isIdentifierPart c = false) :
    (useCalls [] (some name) seen (project.bodyText name lines)).filterMap (fun
      | .ok found => found
      | .error _ => none) =
      (lines.filterMap fun
        | .route _ _ _ => none
        | .mount path inner => some (path, inner)).map project.mountOf := by
  induction lines generalizing seen with
  | nil => rfl
  | cons line lines ih =>
      have hcons : project.bodyText name (line :: lines) =
          project.lineText name line ++ project.bodyText name lines := List.flatMap_cons
      have hrest := @ih ((project.lineText name line).reverse ++ seen)
        (head_behind_line (project.lineText_newline name line))
      rw [hcons]
      cases line with
      | route verb path handler =>
          rw [Project.lineText] at hrest ⊢
          rw [useCalls_routeLine h, hrest]
          rfl
      | mount path router =>
          rw [Project.lineText] at hrest ⊢
          rw [useCalls_useLine h (project.isName router) path (isReceiver_name h hseen)]
          exact congrArg (project.mountOf (path, router) :: ·) hrest

/-- **The mounts of a router.** -/
theorem Project.mounts_span (router : Fin n) :
    (Router.mounts (headLine (project.nameOf router) ++
        project.bodyText (project.nameOf router) (project.routers router).lines) []
      (some (project.nameOf router))).mounts =
      (project.routers router).mounts.map project.mountOf := by
  rw [Router.mounts, useCalls_append (dot_not_mem_headLine (project.isName router))]
  exact project.useCalls_bodyText (project.isName router) _ (head_behind_line (headLine_newline _))

end

end RouteAtlas.Canonical
