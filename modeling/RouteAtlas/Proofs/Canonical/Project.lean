import RouteAtlas.Proofs.Middleware.PlainHandler
import RouteAtlas.Proofs.Source.Plain
import Mathlib.Data.Fintype.Card
import Mathlib.Logic.Relation

/-!
# Canonical projects

A canonical project has a main file that imports and mounts routers, and one file for each router,
which imports the routers mounted on it, defines the router and then declares routes and mounts in any
order. A project is kept as data, so that the names of its routers are distinct, every mounted router
is imported and no router is mounted on itself, however indirectly. This module says how the files of
a project are written and which records a walk along its mounts gives. The walk comes to an end
because the routers below a router become fewer with every mount (`rank_lt`).
-/

set_option autoImplicit false

namespace RouteAtlas.Canonical

open Text Source Route Router Middleware Api

/-- The characters of paths: letters and digits of any script and a few marks. -/
def isPathPart (c : Char) : Bool :=
  isAlphanumeric c || c == '_' || c == '-' || c == '/' || c == ':'

/-- A path as it stands in a route or in a mount. -/
structure PathText where
  text : Text
  proper : text.all isPathPart = true

theorem PathText.parts (path : PathText) : ∀ c ∈ path.text, isPathPart c = true :=
  List.all_eq_true.1 path.proper

/-- The name of a router. -/
structure Name where
  text : Text
  isName : IsName text
  deriving DecidableEq

/-- The name of a handler that stands for itself. -/
structure Handler where
  text : Text
  isHandler : IsHandler text

/-- A line behind the definition of a router, in a project of `n` routers. -/
inductive Line (n : Nat) where
  | route (verb : Verb) (path : PathText) (handler : Handler)
  | mount (path : PathText) (router : Fin n)

/-- The file of a router: its imports, its name and the lines behind its definition. -/
structure RouterFile (n : Nat) where
  name : Name
  imports : List (Fin n)
  lines : List (Line n)
  imported : ∀ path router, .mount path router ∈ lines → router ∈ imports

/-- A router is mounted on another one. -/
def Mounts {n : Nat} (routers : Fin n → RouterFile n) (outer inner : Fin n) : Prop :=
  ∃ path, .mount path inner ∈ (routers outer).lines

/-- A project of `n` routers: the imports and the mounts of the main file, and the files of the
routers. -/
structure Project (n : Nat) where
  imports : List (Fin n)
  mounts : List (PathText × Fin n)
  routers : Fin n → RouterFile n
  imported : ∀ mount ∈ mounts, mount.2 ∈ imports
  distinct : Function.Injective fun router => (routers router).name
  acyclic : ∀ router, ¬ Relation.TransGen (Mounts routers) router router

/-! ## Texts -/

/-- The import of a router from its file. -/
def importLine (name : Text) : Text :=
  "import \x7b ".toList ++ name ++ " \x7d from './".toList ++ name ++ ".ts';\n".toList

/-- The definition of a router. -/
def headLine (name : Text) : Text :=
  "export const ".toList ++ name ++ " = new Router();\n".toList

/-- A route of a router. -/
def routeLine (receiver : Text) (verb : Verb) (path handler : Text) : Text :=
  receiver ++ '.' :: (verb.name.toList ++ '(' :: (quote path ++ ", ".toList ++ handler ++ ");\n".toList))

/-- A mount on a router or on the application. -/
def useLine (receiver path name : Text) : Text :=
  receiver ++ '.' :: ("use(".toList ++
    (quote ('/' :: path) ++ ", ".toList ++ (name ++ ".routes()".toList) ++ ");\n".toList))

variable {n : Nat}

/-- The name of a router. -/
def Project.nameOf (project : Project n) (router : Fin n) : Text := (project.routers router).name.text

/-- The imports of some routers. -/
def Project.importText (project : Project n) (imports : List (Fin n)) : Text :=
  imports.flatMap fun router => importLine (project.nameOf router)

/-- A line of the file of a router. -/
def Project.lineText (project : Project n) (receiver : Text) : Line n → Text
  | .route verb path handler => routeLine receiver verb path.text handler.text
  | .mount path router => useLine receiver path.text (project.nameOf router)

/-- The lines of the file of a router. -/
def Project.bodyText (project : Project n) (receiver : Text) (lines : List (Line n)) : Text :=
  lines.flatMap (project.lineText receiver)

/-- The file of a router. -/
def Project.routerText (project : Project n) (router : Fin n) : Text :=
  project.importText (project.routers router).imports ++ (headLine (project.nameOf router) ++
    project.bodyText (project.nameOf router) (project.routers router).lines)

/-- The receiver of the mounts of the main file. -/
def application : Text := "app".toList

/-- The main file. -/
def Project.mainText (project : Project n) : Text :=
  project.importText project.imports ++
    project.mounts.flatMap fun mount => useLine application mount.1.text (project.nameOf mount.2)

/-- The module specifier of a router. -/
def specifier (name : Text) : Text := "./".toList ++ name ++ ".ts".toList

/-- The file of a router, next to the main file. -/
def Project.fileOf (project : Project n) (main : Path) (router : Fin n) : Path :=
  modulePath main.parent (specifier (project.nameOf router))

/-- A reader gives the files of a project. -/
structure Project.Served (project : Project n) (reader : Reader) (main : Path) : Prop where
  mainFile : reader main = .ok project.mainText
  routerFile : ∀ router, reader (project.fileOf main router) = .ok (project.routerText router)

/-! ## Ranks -/

open Classical in
/-- The number of routers below a router. -/
noncomputable def Project.rank (project : Project n) (router : Fin n) : Nat :=
  (Finset.univ.filter fun other => Relation.TransGen (Mounts project.routers) router other).card

/-- There are fewer routers below a router that is mounted on another one. -/
theorem Project.rank_lt (project : Project n) {outer inner : Fin n}
    (h : Mounts project.routers outer inner) : project.rank inner < project.rank outer := by
  apply Finset.card_lt_card
  refine ⟨fun other hother => ?_, fun hsubset => ?_⟩
  · simp only [Finset.mem_filter, Finset.mem_univ, true_and] at hother ⊢
    exact hother.head h
  · have hinner := @hsubset inner
    simp only [Finset.mem_filter, Finset.mem_univ, true_and] at hinner
    exact project.acyclic inner (hinner (.single h))

theorem Project.rank_lt_size (project : Project n) (router : Fin n) : project.rank router < n := by
  classical
  have hmem : router ∉ Finset.univ.filter fun other =>
      Relation.TransGen (Mounts project.routers) router other := by
    simpa using project.acyclic router
  have hcard := Finset.card_lt_univ_of_notMem hmem
  rw [Fintype.card_fin] at hcard
  rw [Project.rank]
  convert hcard

/-! ## Walking a project -/

/-- The routes of a router, below the given mounts. -/
def RouterFile.records (router : RouterFile n) (passed : List PathText) : List Record :=
  router.lines.filterMap fun
    | .route verb path handler => some
        { method := verb.name
          path := String.ofList (template (pathUnder
            (join ['/'] ((passed.map fun mount => trimSlashes mount.text).filter (!·.isEmpty))) path.text))
          summary := String.ofList handler.text
          tag := String.ofList router.name.text }
    | .mount _ _ => none

/-- The routers mounted on a router. -/
def RouterFile.mounts (router : RouterFile n) : List (PathText × Fin n) :=
  router.lines.filterMap fun
    | .route _ _ _ => none
    | .mount path inner => some (path, inner)

theorem RouterFile.mem_mounts {router : RouterFile n} {mount : PathText × Fin n} :
    mount ∈ router.mounts ↔ .mount mount.1 mount.2 ∈ router.lines := by
  rw [RouterFile.mounts, List.mem_filterMap]
  constructor
  · rintro ⟨line, hline, hsome⟩
    cases line with
    | route verb path handler => cases hsome
    | mount path inner =>
        cases hsome
        exact hline
  · intro hline
    exact ⟨_, hline, rfl⟩

/-- The records of a walk from a router, reached by the given mounts: first its own routes, then those
below each router mounted on it. -/
def Project.walk (project : Project n) (passed : List PathText) (router : Fin n) : List Record :=
  (project.routers router).records passed ++
    (project.routers router).mounts.attach.flatMap fun mount =>
      project.walk (passed ++ [mount.1.1]) mount.1.2
termination_by project.rank router
decreasing_by exact project.rank_lt ⟨_, RouterFile.mem_mounts.1 mount.2⟩

/-- The walk along the mounts of the main file. -/
def Project.records (project : Project n) : List Record :=
  project.mounts.flatMap fun mount => project.walk [mount.1] mount.2

/-- The document of a project: its records, registered in the order of the walk. -/
def Project.document (project : Project n) : Document :=
  project.records.foldl Document.register {}

theorem Project.walk_eq (project : Project n) (passed : List PathText) (router : Fin n) :
    project.walk passed router = (project.routers router).records passed ++
      (project.routers router).mounts.flatMap fun mount =>
        project.walk (passed ++ [mount.1]) mount.2 := by
  rw [Project.walk, List.flatMap_subtype]
  · rw [List.unattach_attach]
  · intro mount _
    rfl

end RouteAtlas.Canonical
