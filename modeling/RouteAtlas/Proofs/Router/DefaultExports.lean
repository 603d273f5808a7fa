import RouteAtlas.Proofs.Router.Locating
import RouteAtlas.Proofs.Router.Markers

/-!
# Routers behind default imports

A name that a file imports is looked up in the text of the module: under the name it is exported by, where
the import gives one (`named_import_locates`), and under the name of the importing file otherwise. A
default import names no export. It is looked up under the name of the importing file first and among the
default exports only when the module defines no router of that name, so it leads to the default export
exactly when no other router of the module has the name (`default_import_locates_iff`).
-/

set_option autoImplicit false

namespace RouteAtlas.Router

open Text Step

/-- The router that the first default export of a module names. -/
def defaultExport? (code : Text) : Option Marker := (exportedName? code).bind (definition? code)

section

variable {reader : Reader} {schemaSuffix name : Text} {file target : Path} {binding : Binding} {code : Text}
  {marker : Marker}

theorem SeesThrough.locates (h : SeesThrough reader name file binding target code)
    (hmarker : importedDefinition? code name binding = some marker) {session : Session}
    (hsession : Faithful reader session) : (result (locate reader schemaSuffix name file) session).1 =
      .ok (sourceOf schemaSuffix code target marker) := by
  rw [← h.located_eq hmarker]
  exact (answers_locate schemaSuffix name file session hsession).1

/-- **A named import leads to the export of that name**, whatever the importing file calls it. -/
theorem named_import_locates (h : SeesThrough reader name file binding target code)
    (hdefault : binding.imported ≠ defaultName) (hwhole : binding.imported ≠ wholeModule)
    (hmarker : definition? code binding.imported = some marker) {session : Session}
    (hsession : Faithful reader session) : (result (locate reader schemaSuffix name file) session).1 =
      .ok (sourceOf schemaSuffix code target marker) := by
  apply h.locates _ hsession
  simp [importedDefinition?, hdefault, hwhole, hmarker]

/-- A default import is looked up under the name of the importing file before the default export. -/
theorem importedDefinition?_default (hdefault : binding.imported = defaultName)
    (hexport : defaultExport? code = some marker) :
    importedDefinition? code name binding = some ((definition? code name).getD marker) := by
  have htarget : (if binding.imported = defaultName ∨ binding.imported = wholeModule then name
      else binding.imported) = name := if_pos (.inl hdefault)
  simp only [importedDefinition?, Bool.or_eq_true, decide_eq_true_eq, htarget]
  cases definition? code name with
  | some other => rfl
  | none =>
      rw [if_pos hdefault]
      exact hexport

/-- **A default import leads to the default export exactly when no other router of the module has the name
of the import.** Otherwise it leads to the router of that name. -/
theorem default_import_locates_iff (h : SeesThrough reader name file binding target code)
    (hdefault : binding.imported = defaultName) (hexport : defaultExport? code = some marker)
    {session : Session} (hsession : Faithful reader session) :
    ∃ declaration, (result (locate reader schemaSuffix name file) session).1 = .ok declaration ∧
      declaration = sourceOf schemaSuffix code target ((definition? code name).getD marker) ∧
      (declaration.span = spanOf code marker ↔ definition? code name = none ∨ name = marker.name) := by
  refine ⟨_, h.locates (importedDefinition?_default hdefault hexport) hsession, rfl, ?_⟩
  obtain ⟨exported, -, hmarker⟩ := Option.bind_eq_some_iff.1 hexport
  cases hnamesake : definition? code name with
  | none => simp [sourceOf]
  | some other =>
      have hname : other.name = name := name_of_definition? hnamesake
      constructor
      · intro hspan
        exact .inr (hname.symm.trans (name_eq_of_spanOf_eq (mem_markers_of_definition? hnamesake)
          (mem_markers_of_definition? hmarker) hspan))
      · rintro (hnone | rfl)
        · cases hnone
        · have hsame : some other = some marker := by
            rw [← hnamesake, name_of_definition? hmarker, hmarker]
          rw [Option.some.inj hsame]
          rfl

end

/-- A module with two routers, the first of which is its default export. -/
def exportingText : Text :=
  ("export const admin = new Router();\nexport const users = new Router();\n" ++
    "export default admin;\n").toList

/-- The default export of the module. -/
def adminMarker : Marker := { name := "admin".toList, start := 0, stop := 32 }

/-- A file that imports the default export under two names, one of them that of the other router. -/
def importingText : Text :=
  "import users from './routes.ts';\nimport people from './routes.ts';\n".toList

/-- The importing file beside the module. -/
def exportingReader : Reader := fun path =>
  if path = Path.ofString "main.ts" then .ok importingText
  else if path = Path.ofString "routes.ts" then .ok exportingText
  else .error (.disk (.missing path))

/-- The bindings of the importing file. -/
def usersBinding : Binding :=
  { localName := "users".toList, imported := defaultName, module := "./routes.ts".toList, start := 0, stop := 32 }

def peopleBinding : Binding :=
  { localName := "people".toList, imported := defaultName, module := "./routes.ts".toList, start := 33, stop := 66 }

theorem exportingReader_spec : exportingReader (Path.ofString "main.ts") = .ok importingText ∧
    bindings importingText = [usersBinding, peopleBinding] ∧
    (∀ binding ∈ [usersBinding, peopleBinding], definition? importingText binding.localName = none ∧
      isRelative binding.module = true ∧
      firstReadable exportingReader (moduleEndings.map fun ending =>
        modulePath (Path.ofString "main.ts").parent (binding.module ++ ending)) =
          .ok (some (Path.ofString "routes.ts", exportingText))) ∧
    defaultExport? exportingText = some adminMarker ∧
    definition? exportingText "people".toList = none := by
  -- the texts are read character by character only once
  unfold exportingReader importingText exportingText adminMarker usersBinding peopleBinding
  simp only [String.toList_append]
  repeat rw [String.toList_ofList]
  decide +kernel

/-- The importing file sees both names through its imports. -/
theorem exportingReader_seesThrough : ∀ binding ∈ [usersBinding, peopleBinding],
    SeesThrough exportingReader binding.localName (Path.ofString "main.ts") binding
      (Path.ofString "routes.ts") exportingText := by
  obtain ⟨hread, hbindings, hseen, -, -⟩ := exportingReader_spec
  intro binding hbinding
  obtain ⟨hnone, hrelative, hreadable⟩ := hseen binding hbinding
  refine ⟨⟨importingText, hread, hnone, ?_⟩, hrelative, hreadable⟩
  rw [hbindings]
  simp only [List.mem_cons, List.not_mem_nil, or_false] at hbinding
  rcases hbinding with rfl | rfl
  · rfl
  · rfl

/-- A name that no router of the module has leads to the default export. -/
theorem people_leads_to_default : peopleBinding.imported = defaultName ∧
    defaultExport? exportingText = some adminMarker ∧
    SeesThrough exportingReader "people".toList (Path.ofString "main.ts") peopleBinding
      (Path.ofString "routes.ts") exportingText ∧ Faithful exportingReader {} ∧
    ∃ declaration, (result (locate exportingReader ".schema.ts".toList "people".toList
        (Path.ofString "main.ts")) {}).1 = .ok declaration ∧
      declaration.span = spanOf exportingText adminMarker := by
  have hsees := exportingReader_seesThrough peopleBinding (by simp)
  obtain ⟨-, -, -, hexport, hnone⟩ := exportingReader_spec
  have hfaithful := faithful_empty exportingReader
  obtain ⟨declaration, hlocated, -, hspan⟩ := default_import_locates_iff hsees rfl hexport hfaithful
  exact ⟨rfl, hexport, hsees, hfaithful, declaration, hlocated, hspan.2 (.inl hnone)⟩

/-- A name that another router of the module has leads to that router, not to the default export. -/
theorem namesake_hides_default : usersBinding.imported = defaultName ∧
    defaultExport? exportingText = some adminMarker ∧
    SeesThrough exportingReader "users".toList (Path.ofString "main.ts") usersBinding
      (Path.ofString "routes.ts") exportingText ∧
    ∃ declaration, (result (locate exportingReader ".schema.ts".toList "users".toList
        (Path.ofString "main.ts")) {}).1 = .ok declaration ∧
      declaration.name = "users".toList ∧ declaration.span ≠ spanOf exportingText adminMarker := by
  have hsees := exportingReader_seesThrough usersBinding (by simp)
  obtain ⟨-, -, -, hexport, -⟩ := exportingReader_spec
  refine ⟨rfl, hexport, hsees, ?_⟩
  refine ⟨_, hsees.locates (importedDefinition?_default rfl hexport) (faithful_empty _), ?_⟩
  unfold exportingText adminMarker
  simp only [String.toList_append]
  repeat rw [String.toList_ofList]
  decide +kernel

end RouteAtlas.Router
