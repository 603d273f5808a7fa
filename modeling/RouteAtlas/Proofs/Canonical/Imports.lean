import RouteAtlas.Proofs.Canonical.Definitions
import RouteAtlas.Proofs.Path
import RouteAtlas.Proofs.Router.ImportLines
import RouteAtlas.Proofs.Router.Locating

/-!
# Imports in canonical projects

Each import line of a project is read as one statement that binds one name to the file of that name.
A router that a file imports and does not define is therefore located in its own file, and all files
of the project agree on where that is.
-/

set_option autoImplicit false

namespace RouteAtlas.Canonical

open Text Source Route Router

/-! ## The statement of an import line -/

theorem specifier_unquoted {name : Text} (h : IsName name) :
    '\'' ∉ specifier name ∧ '"' ∉ specifier name := by
  have hsingle : '\'' ∉ name := h.not_mem (by decide)
  have hdouble : '"' ∉ name := h.not_mem (by decide)
  unfold specifier
  simp [hsingle, hdouble]

theorem specifier_one_line {name : Text} (h : IsName name) : '\n' ∉ specifier name := by
  have hname : '\n' ∉ name := h.not_mem (by decide)
  unfold specifier
  simp [hname]

/-- A name that is listed without an alias. -/
def ownName {name : Text} (h : IsName name) : BracedName where
  exported := name
  aliased := none
  isName_exported := h
  isName_aliased := fun _ haliased => absurd haliased (Option.not_mem_none _)

/-- An import line as a written statement. -/
def lineImport {name : Text} (h : IsName name) : WrittenImport where
  indent := []
  clause := .listing (.braced [ownName h]) (List.cons_ne_nil _ _)
  module := specifier name
  closed := true
  blank_indent := blank_of_no_indent
  module_ne_nil := List.cons_ne_nil _ _
  unquoted := specifier_unquoted h
  one_line := specifier_one_line h

theorem importLine_append {name : Text} (h : IsName name) (rest : Text) :
    importLine name ++ rest = (lineImport h).statement rest := by
  unfold importLine
  simp [WrittenImport.statement, WrittenImport.opening, WrittenImport.ending, lineImport, moduleText, specifier,
    Clause.text, Exports.text, bracedText, BracedName.text, ownName, join]

/-- An import line is one statement, which binds its name to the export of this name; reading goes on at the
start of the next line. -/
theorem statementsFrom_importLine {name : Text} (h : IsName name) (rest : Text) (offset : Nat) :
    ∃ clause stop, clauseNames clause = [(name, name)] ∧
      statementsFrom 0 offset true (importLine name ++ rest) =
        { clause := clause, module := specifier name, start := offset, stop := stop } ::
          statementsFrom 0 (stop + 1) true rest := by
  have hread : statement? ((lineImport h).statement rest) =
      some ((lineImport h).clause.text, specifier name, '\n' :: rest) :=
    statement?_written (lineImport h) rest
  obtain ⟨first, line, -, hline⟩ := (lineImport h).exists_line
  have htext : (lineImport h).statement rest = first :: (line ++ ';' :: '\n' :: rest) := hline rest
  rw [htext] at hread
  obtain ⟨stop, hfound⟩ := statementsFrom_found hread offset
  refine ⟨_, stop, clauseNames_text (lineImport h).clause, ?_⟩
  rw [importLine_append h, htext, hfound]
  rfl

section

variable {n : Nat} (project : Project n)

/-- **A router that is imported is bound to its own file.** -/
theorem Project.find?_binding {imports : List (Fin n)} {router : Fin n} (h : router ∈ imports)
    (rest : Text) :
    ∃ binding, (bindings (project.importText imports ++ rest)).find?
        (fun binding => binding.localName == project.nameOf router) = some binding ∧
      binding.imported = project.nameOf router ∧
      binding.module = specifier (project.nameOf router) := by
  have hfrom : ∀ offset, ∃ binding, ((statementsFrom 0 offset true
      (project.importText imports ++ rest)).flatMap Statement.bindings).find?
        (fun binding => binding.localName == project.nameOf router) = some binding ∧
      binding.imported = project.nameOf router ∧
      binding.module = specifier (project.nameOf router) := by
    induction imports with
    | nil => cases h
    | cons first imports ih =>
        intro offset
        have hcons : project.importText (first :: imports) ++ rest =
            importLine (project.nameOf first) ++ (project.importText imports ++ rest) := by
          rw [← List.append_assoc]
          rfl
        obtain ⟨clause, stop, hnames, hstatements⟩ := statementsFrom_importLine (project.isName first)
          (project.importText imports ++ rest) offset
        rw [hcons, hstatements, List.flatMap_cons, Statement.bindings, hnames, List.map_singleton,
          List.singleton_append]
        by_cases hname : project.nameOf first = project.nameOf router
        · refine ⟨_, List.find?_cons_of_pos (by simpa using hname), hname, ?_⟩
          rw [hname]
        · rw [List.find?_cons_of_neg (by simpa using hname)]
          refine ih ?_ _
          rcases List.mem_cons.1 h with rfl | hmem
          · exact absurd rfl hname
          · exact hmem
  exact hfrom 0

/-! ## Locating routers -/

/-- The declaration of a router of the project. -/
def Project.declaration (schemaSuffix : Text) (main : Path) (router : Fin n) : Declaration :=
  sourceOf schemaSuffix (project.routerText router) (project.fileOf main router)
    (project.markerOf router)

theorem Project.declaration_span (schemaSuffix : Text) (main : Path) (router : Fin n) :
    (project.declaration schemaSuffix main router).span = headLine (project.nameOf router) ++
      project.bodyText (project.nameOf router) (project.routers router).lines :=
  project.spanOf_routerText router

theorem ofText_specifier {name : Text} (h : IsName name) :
    Path.ofText (specifier name) = { slashes := 0, segments := [name ++ ".ts".toList] } := by
  have hslash : '/' ∉ name ++ ".ts".toList := by
    have hname : '/' ∉ name := h.not_mem (by decide)
    simp [hname]
  have hparts : partsBy '/' (specifier name) = [['.'], name ++ ".ts".toList] := by
    have hdot : specifier name = '.' :: '/' :: (name ++ ".ts".toList) := by
      unfold specifier
      simp
    rw [hdot, partsBy, if_neg (by decide), partsBy, if_pos rfl, partsBy_of_not_mem hslash]
  have hne : name ++ ".ts".toList ≠ ['.'] := by
    intro hsame
    have hlength := congrArg List.length hsame
    simp at hlength
  have hslashes : Path.leadingSlashes (specifier name) = 0 := rfl
  rw [Path.ofText, hslashes, Path.segmentsOf, hparts]
  simpa using hne

theorem fileName_ne_dots (name : Text) : name ++ ".ts".toList ≠ ['.', '.'] := by
  intro hsame
  have hlength := congrArg List.length hsame
  simp at hlength

/-- The files of a project lie in one folder, seen from each of them. -/
theorem Project.modulePath_fileOf (main : Path) (router other : Fin n) :
    modulePath (project.fileOf main router).parent (specifier (project.nameOf other)) =
      project.fileOf main other :=
  modulePath_parent main.parent (ofText_specifier (project.isName router))
    (fileName_ne_dots _) (ofText_specifier (project.isName other)) (fileName_ne_dots _)

/-- **An imported router is located in its own file.** -/
theorem Project.located_import {reader : Reader} {main file : Path}
    (hserved : project.Served reader main) (schemaSuffix : Text) {imports : List (Fin n)}
    {rest : Text} {router : Fin n} (hfile : reader file = .ok (project.importText imports ++ rest))
    (hundefined : definition? (project.importText imports ++ rest) (project.nameOf router) = none)
    (himport : router ∈ imports)
    (hfolder : modulePath file.parent (specifier (project.nameOf router)) = project.fileOf main router) :
    located reader schemaSuffix (project.nameOf router) file =
      .ok (project.declaration schemaSuffix main router) := by
  obtain ⟨binding, hbinding, himported, hmodule⟩ := project.find?_binding himport rest
  have htarget : textOf reader (project.fileOf main router) = .ok (project.routerText router) :=
    textOf_of_read (hserved.routerFile router)
  have hreadable : firstReadable reader (moduleEndings.map fun ending =>
      modulePath file.parent (binding.module ++ ending)) =
      .ok (some (project.fileOf main router, project.routerText router)) := by
    have hfirst : modulePath file.parent (binding.module ++ "".toList) = project.fileOf main router := by
      rw [hmodule, String.toList_empty, List.append_nil, hfolder]
    rw [moduleEndings, List.map_cons, firstReadable, hfirst, htarget]
  have hdefinition : importedDefinition? (project.routerText router) (project.nameOf router) binding =
      some (project.markerOf router) := by
    rw [importedDefinition?, himported, ite_self, project.definition?_routerText]
  have hrelative : isRelative binding.module = true := by
    rw [hmodule]
    rfl
  have hsees : SeesThrough reader (project.nameOf router) file binding (project.fileOf main router)
      (project.routerText router) := ⟨⟨_, hfile, hundefined, hbinding⟩, hrelative, hreadable⟩
  exact hsees.located_eq hdefinition

end

end RouteAtlas.Canonical
