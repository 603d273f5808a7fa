import RouteAtlas.Proofs.Canonical.RouteScan
import RouteAtlas.Proofs.Disk
import RouteAtlas.Proofs.Generation.Visits
import RouteAtlas.Proofs.Route.Segments
import Mathlib.Data.List.Forall2

/-!
# Extraction from canonical projects

A run over the files of a canonical project comes to its routes in the order of the walk along its
mounts, and builds the record of the walk for each of them. The induction is on the nesting depth that
is left, which always exceeds the number of routers below the router being visited; the routers being
expanded are those above it, so a mount is never passed over as cyclic.
-/

set_option autoImplicit false

namespace RouteAtlas.Generator

open Text Route Router Middleware Api Schema Step

/-- The mounts passed on the way to a router are joined by slashes. -/
theorem mountUnder_eq_join (passed : List Mount) :
    mountUnder passed = join ['/'] ((passed.map Mount.path).filter (!·.isEmpty)) := by
  have hnested : mountUnder passed = (passed.map Mount.path).foldl nestMount [] := List.foldl_map.symm
  rw [hnested, foldl_nestMount]
  rfl

/-- Visits and the records they lead to in every session. -/
def Recorded (context : Context) : List Visit → List Record → Prop :=
  List.Forall₂ fun visit record => visit.record context = pure record

theorem Recorded.passes {context : Context} {visits : List Visit} {records : List Record}
    (h : Recorded context visits records) : ∀ visit ∈ visits, visit.Passes context := by
  induction h with
  | nil => simp
  | cons hrecord _ ih =>
      intro visit hvisit
      rcases List.mem_cons.1 hvisit with rfl | hmem
      · exact Visit.passes_of_record hrecord
      · exact ih visit hmem

/-- Following visits with known records registers the records. -/
theorem Followed.eq_foldl {context : Context} {visits : List Visit} {records : List Record}
    {before after : Document} (h : Followed context visits before after)
    (hrecorded : Recorded context visits records) : after = records.foldl Document.register before := by
  induction h generalizing records with
  | nil document =>
      cases hrecorded
      rfl
  | @register visit rest before after record start stop hrecord _ ih =>
      cases hrecorded with
      | cons hpure hrest =>
          rw [hpure] at hrecord
          obtain ⟨rfl, -⟩ := yields_pure.1 hrecord
          exact ih hrest
  | @skip visit rest before after fault hcheck _ ih =>
      cases hrecorded with
      | cons hpure hrest =>
          -- a route with a record is well formed
          obtain ⟨-, -, hbears⟩ := sees_recordOf context visit.declaration visit.tag visit.mount
            visit.token {}
          have hresult : recordOf context visit.declaration visit.tag visit.mount visit.token = _ := hpure
          rw [hresult] at hbears
          have hok : visit.check context.setup = .ok () := hbears
          cases hcheck.symm.trans hok

/-- The records below some mounts, from the records below each of them. -/
theorem recorded_gather {context : Context} {α : Type} (below : Mount → Except Failure (List Visit))
    (mount : α → Mount) (records : α → List Record) {list : List α}
    (h : ∀ item ∈ list, ∃ visits, below (mount item) = .ok visits ∧
      Recorded context visits (records item)) :
    ∃ visits, gather below (list.map mount) = .ok visits ∧
      Recorded context visits (list.flatMap records) := by
  induction list with
  | nil => exact ⟨[], rfl, .nil⟩
  | cons item list ih =>
      obtain ⟨first, hfirst, hrecorded⟩ := h item List.mem_cons_self
      obtain ⟨others, hothers, hrest⟩ := ih fun other hother => h other (List.mem_cons_of_mem _ hother)
      exact ⟨first ++ others, gather_cons hfirst hothers, List.rel_append hrecorded hrest⟩

end RouteAtlas.Generator

namespace RouteAtlas.Canonical

open Text Route Router Middleware Generator Api Schema Step

section

variable {n : Nat} {project : Project n} {context : Context} {main : Path}

/-- The visits of a router's own routes lead to its records. -/
theorem recorded_ownVisits (hsetup : context.setup = {}) (outer : List (PathText × Fin n))
    (path : PathText) (router : Fin n) (schemaSuffix : Text) :
    Recorded context
      (ownVisits ((outer ++ [(path, router)]).map project.mountOf)
        (project.declaration schemaSuffix main router))
      ((project.routers router).records ((outer ++ [(path, router)]).map Prod.fst)) := by
  have hmount : mountUnder ((outer ++ [(path, router)]).map project.mountOf) =
      join ['/'] ((((outer ++ [(path, router)]).map Prod.fst).map fun mount =>
        trimSlashes mount.text).filter (!·.isEmpty)) := by
    rw [mountUnder_eq_join, List.map_map, List.map_map]
    rfl
  have htag : ((((outer ++ [(path, router)]).map project.mountOf).getLast?.map Mount.router).getD []) =
      project.nameOf router := by
    rw [List.map_append]
    simp [Project.mountOf]
  have hname : (project.declaration schemaSuffix main router).name = project.nameOf router := rfl
  rw [ownVisits, hname, project.declaration_span, project.tokens_span, RouterFile.tokens,
    RouterFile.records]
  -- from here on, the project's own lines do not matter
  generalize (project.routers router).lines = lines
  induction lines with
  | nil => exact .nil
  | cons line lines ih =>
      cases line with
      | mount inner other => exact ih
      | route verb local' handler =>
          refine .cons ?_ ih
          rw [Visit.record]
          show recordOf context _ _ (mountUnder ((outer ++ [(path, router)]).map project.mountOf))
            (routeToken verb local'.text handler.text) = _
          rw [Visit.tag, htag, handler.isHandler.recordOf_eq hsetup _ _
            (endpoint_routeToken verb local' handler _) rfl, hmount]
          rfl

/-- The routers being expanded when a run comes to a router are routers above it. -/
def Expanding (project : Project n) (names : List Text) (router : Fin n) : Prop :=
  ∀ name ∈ names, ∃ above, name = project.nameOf above ∧
    Relation.TransGen (Mounts project.routers) above router

theorem Expanding.step {names : List Text} {outer inner : Fin n} (h : Expanding project names outer)
    (hstep : Mounts project.routers outer inner) :
    Expanding project (names ++ [project.nameOf outer]) inner := by
  intro name hname
  rcases List.mem_append.1 hname with hmem | hself
  · obtain ⟨above, hsame, hchain⟩ := h name hmem
    exact ⟨above, hsame, hchain.tail hstep⟩
  · exact ⟨outer, List.mem_singleton.1 hself, .single hstep⟩

theorem Expanding.not_mem {names : List Text} {router : Fin n} (h : Expanding project names router) :
    project.nameOf router ∉ names := by
  intro hmem
  obtain ⟨above, hsame, hchain⟩ := h _ hmem
  rw [project.nameOf_injective hsame] at hchain
  exact project.acyclic above hchain

/-- The mounts on a router are all followed, since no router above it is mounted on it. -/
theorem openMounts_declaration {router : Fin n} {names : List Text}
    (hnames : Expanding project names router) (schemaSuffix : Text) :
    openMounts (project.declaration schemaSuffix main router) (names ++ [project.nameOf router]) =
      (project.routers router).mounts.map project.mountOf := by
  have hname : (project.declaration schemaSuffix main router).name = project.nameOf router := rfl
  rw [openMounts, hname, project.declaration_span, project.mounts_span, List.filter_eq_self]
  intro found hfound
  obtain ⟨mount, hmount, rfl⟩ := List.mem_map.1 hfound
  have hstep : Mounts project.routers router mount.2 := ⟨_, RouterFile.mem_mounts.1 hmount⟩
  have hfresh : project.nameOf mount.2 ∉ names ++ [project.nameOf router] := (hnames.step hstep).not_mem
  simpa [Project.mountOf] using hfresh

/-- A router mounted on another one is located through the imports of that router. -/
theorem located_mounted (hserved : project.Served context.reader main) (schemaSuffix : Text)
    {outer inner : Fin n} (h : Mounts project.routers outer inner) :
    located context.reader schemaSuffix (project.nameOf inner) (project.fileOf main outer) =
      .ok (project.declaration schemaSuffix main inner) := by
  obtain ⟨path, hline⟩ := h
  have hother : inner ≠ outer := by
    rintro rfl
    exact project.acyclic inner (.single ⟨path, hline⟩)
  exact project.located_import hserved _ (hserved.routerFile outer) (project.definition?_other hother)
    ((project.routers outer).imported _ _ hline) (project.modulePath_fileOf main outer inner)

/-- **The visits of a router and of everything mounted on it lead to the records of the walk.** -/
theorem recorded_routerVisits (hsetup : context.setup = {})
    (hserved : project.Served context.reader main) {depth : Nat} {router : Fin n}
    (hdepth : project.rank router < depth) (outer : List (PathText × Fin n)) (path : PathText)
    {file : Path} {names : List Text}
    (hlocated : located context.reader context.schemaSuffix.toList (project.nameOf router) file =
      .ok (project.declaration context.schemaSuffix.toList main router))
    (hnames : Expanding project names router) :
    ∃ visits, routerVisits context.reader context.schemaSuffix.toList depth (outer.map project.mountOf)
        (project.mountOf (path, router)) file names = .ok visits ∧
      Recorded context visits (project.walk ((outer ++ [(path, router)]).map Prod.fst) router) := by
  -- the depth stays above the rank of the router, which falls with every mount
  induction depth generalizing router outer path file names with
  | zero => omega
  | succ depth ih =>
      have hpassed : outer.map project.mountOf ++ [project.mountOf (path, router)] =
          (outer ++ [(path, router)]).map project.mountOf := by simp
      have hbelow : ∀ mount ∈ (project.routers router).mounts, ∃ visits,
          routerVisits context.reader context.schemaSuffix.toList depth
              ((outer ++ [(path, router)]).map project.mountOf) (project.mountOf mount)
              (project.fileOf main router) (names ++ [project.nameOf router]) = .ok visits ∧
            Recorded context visits
              (project.walk ((outer ++ [(path, router)]).map Prod.fst ++ [mount.1]) mount.2) := by
        intro mount hmount
        have hstep : Mounts project.routers router mount.2 := ⟨_, RouterFile.mem_mounts.1 hmount⟩
        have hrank := project.rank_lt hstep
        have hvisits := ih (by omega) (outer ++ [(path, router)]) mount.1
          (located_mounted hserved _ hstep) (hnames.step hstep)
        have hmap : ((outer ++ [(path, router)]) ++ [mount]).map Prod.fst =
            (outer ++ [(path, router)]).map Prod.fst ++ [mount.1] := List.map_append
        rwa [hmap] at hvisits
      obtain ⟨inner, hinner, hrecorded⟩ := recorded_gather
        (fun inner => routerVisits context.reader context.schemaSuffix.toList depth
          ((outer ++ [(path, router)]).map project.mountOf) inner (project.fileOf main router)
          (names ++ [project.nameOf router]))
        project.mountOf
        (fun mount => project.walk ((outer ++ [(path, router)]).map Prod.fst ++ [mount.1]) mount.2) hbelow
      refine ⟨ownVisits ((outer ++ [(path, router)]).map project.mountOf)
        (project.declaration context.schemaSuffix.toList main router) ++ inner, ?_, ?_⟩
      · rw [routerVisits, show (project.mountOf (path, router)).router = project.nameOf router from rfl,
          hlocated, hpassed]
        have hname : (project.declaration context.schemaSuffix.toList main router).name =
            project.nameOf router := rfl
        have hfile : (project.declaration context.schemaSuffix.toList main router).file =
            project.fileOf main router := rfl
        simp only [hname, hfile, openMounts_declaration hnames, hinner]
        rfl
      · rw [project.walk_eq]
        exact List.rel_append (recorded_ownVisits hsetup outer path router _) hrecorded

/-- The router definitions in the bytes of a file. -/
def definitionsIn (bytes : ByteArray) : List Marker :=
  match Disk.decode bytes with
  | .ok text => markers text
  | .error _ => []

theorem definitionsIn_toUTF8 (text : String) :
    definitionsIn text.toUTF8 = markers (spelled (Disk.unifyNewlines text.toList)) := by
  rw [definitionsIn, Disk.decode_toUTF8]

theorem definitionCount_eq (disk : Disk) :
    definitionCount disk = (disk.files.flatMap fun entry => definitionsIn entry.2).length := by
  rw [definitionCount, List.length_flatMap, List.sum_eq_foldl]
  congr 1
  apply List.map_congr_left
  rintro ⟨segments, bytes⟩ -
  simp only [definitionsIn]
  cases Disk.decode bytes with
  | ok text => rfl
  | error fault => rfl

/-- A disk with the files of a project defines all its routers, so the depth of a run over it is not
exceeded. -/
theorem Project.size_le_depthFor (project : Project n) {disk : Disk}
    (hserved : project.Served disk.read main) : n ≤ depthFor disk := by
  -- every router is defined in a file of the disk, and the names of the routers are distinct
  have hnames : (List.finRange n).map project.nameOf ⊆
      (disk.files.flatMap fun entry => definitionsIn entry.2).map Marker.name := by
    intro name hname
    obtain ⟨router, -, rfl⟩ := List.mem_map.1 hname
    obtain ⟨entry, hentry, htext⟩ := Disk.mem_of_read (hserved.routerFile router)
    have hmarkers : definitionsIn entry.2 = [project.markerOf router] := by
      rw [definitionsIn, htext]
      exact project.markers_routerText router
    refine List.mem_map.2 ⟨project.markerOf router, ?_, rfl⟩
    rw [List.mem_flatMap]
    exact ⟨entry, hentry, hmarkers ▸ List.mem_singleton_self _⟩
  have hnodup : ((List.finRange n).map project.nameOf).Nodup :=
    (List.nodup_finRange n).map project.nameOf_injective
  have hcount : n ≤ definitionCount disk := by
    have hlength := (hnodup.subperm hnames).length_le
    rwa [List.length_map, List.length_map, List.length_finRange, ← definitionCount_eq] at hlength
  calc n ≤ definitionCount disk + 1 := Nat.le_succ_of_le hcount
    _ ≤ depthFor disk := Nat.le_mul_of_pos_right _ (Nat.succ_pos _)

/-- **Extraction from a canonical project is exact.** Without custom or denied middlewares, a run over
the files of a project succeeds at every nesting depth of at least the number of routers, and its
document holds the records of the walk along the mounts of the project and nothing else. The depth that
is chosen for a disk with these files is such a depth. -/
theorem generate_project (project : Project n) (hsetup : context.setup = {})
    (hserved : project.Served context.reader main) :
    (∀ depth, n ≤ depth → ∃ stop, Yields (generate context depth main "" []) {} project.document stop) ∧
      ∀ disk : Disk, context.reader = disk.read → n ≤ depthFor disk := by
  refine ⟨fun depth hdepth => ?_, fun disk hdisk => project.size_le_depthFor (hdisk ▸ hserved)⟩
  have hcode : textOf context.reader main = .ok project.mainText := by
    rw [textOf, hserved.mainFile]
    rfl
  have hbelow : ∀ mount ∈ project.mounts, ∃ visits,
      routerVisits context.reader context.schemaSuffix.toList depth [] (project.mountOf mount) main [] =
          .ok visits ∧ Recorded context visits (project.walk [mount.1] mount.2) := by
    intro mount hmount
    have hrank := project.rank_lt_size mount.2
    have hlocated : located context.reader context.schemaSuffix.toList (project.nameOf mount.2) main =
        .ok (project.declaration context.schemaSuffix.toList main mount.2) :=
      project.located_import hserved _ hserved.mainFile (project.definition?_mainText _)
        (project.imported mount hmount) rfl
    exact recorded_routerVisits hsetup hserved (by omega) [] mount.1 hlocated (by simp [Expanding])
  obtain ⟨visits, hvisits, hrecorded⟩ := recorded_gather
    (fun root => routerVisits context.reader context.schemaSuffix.toList depth [] root main [])
    project.mountOf (fun mount => project.walk [mount.1] mount.2) hbelow
  have hroots : gather (fun root => routerVisits context.reader context.schemaSuffix.toList depth []
      root main []) (mounts project.mainText "".toList none).mounts = .ok visits := by
    rw [String.toList_empty, project.mounts_mainText, hvisits]
  obtain ⟨document, stop, hrun⟩ : ∃ document stop,
      Yields (generate context depth main "" []) {} document stop :=
    yields_generate (faithful_empty _) hcode hroots hrecorded.passes
  obtain ⟨code, found, hcode', hfound, hfollowed⟩ := generate_cases (faithful_empty _) hrun
  cases hcode.symm.trans hcode'
  cases hroots.symm.trans hfound
  have hdocument : document = project.document := hfollowed.eq_foldl hrecorded
  exact ⟨stop, hdocument ▸ hrun⟩

end

/-! ## A reader over the files of a project -/

section

variable {n : Nat} (project : Project n)

/-- The reader that knows the files of a project and no others. -/
def Project.reader (main : Path) : Reader := fun path =>
  if path = main then .ok project.mainText
  else match (List.finRange n).find? fun router => path = project.fileOf main router with
    | some router => .ok (project.routerText router)
    | none => .error (.disk (.missing path))

theorem Project.fileOf_injective (main : Path) : Function.Injective (project.fileOf main) := by
  intro router other hsame
  simp only [Project.fileOf, modulePath_name _ (ofText_specifier (project.isName _)) (fileName_ne_dots _),
    Path.mk.injEq, List.append_cancel_left_eq, List.cons.injEq, and_true, true_and,
    List.append_cancel_right_eq] at hsame
  exact project.nameOf_injective hsame

/-- The reader gives every file of the project, as long as the main file is none of the routers'. -/
theorem Project.served_reader {main : Path} (h : ∀ router, project.fileOf main router ≠ main) :
    project.Served (project.reader main) main where
  mainFile := if_pos rfl
  routerFile := by
    intro router
    have hfind : (List.finRange n).find? (fun other =>
        project.fileOf main router = project.fileOf main other) = some router := by
      rw [List.find?_eq_some_iff_append]
      obtain ⟨before, after, hsplit⟩ := List.append_of_mem (List.mem_finRange router)
      refine ⟨by simp, before, after, hsplit, ?_⟩
      intro other hother
      have hne : router ≠ other := by
        rintro rfl
        have hnodup := List.nodup_finRange n
        rw [hsplit, List.nodup_append] at hnodup
        exact hnodup.2.2 _ hother _ List.mem_cons_self rfl
      simpa using fun hsame => hne (project.fileOf_injective main hsame)
    rw [Project.reader, if_neg (h router), hfind]

end

/-! ## A shop -/

/-- The file of the users: a route and the orders below a user. -/
def usersFile : RouterFile 2 where
  name := ⟨"users".toList, by decide⟩
  imports := [1]
  lines := [.mount ⟨":id/orders".toList, by decide⟩ 1,
    .route .get ⟨"/".toList, by decide⟩ ⟨"listUsers".toList, by decide +kernel⟩]
  imported := by
    intro path router hline
    rcases List.mem_cons.1 hline with hmount | hroute
    · cases hmount
      exact List.mem_singleton_self 1
    · cases List.mem_singleton.1 hroute

/-- The file of the orders. -/
def ordersFile : RouterFile 2 where
  name := ⟨"orders".toList, by decide⟩
  imports := []
  lines := [.route .post ⟨":orderId".toList, by decide⟩ ⟨"placeOrder".toList, by decide +kernel⟩]
  imported := by simp

/-- The files of the shop. -/
def shopFiles (router : Fin 2) : RouterFile 2 := if router = 0 then usersFile else ordersFile

theorem mounts_shopFiles {outer inner : Fin 2} (h : Mounts shopFiles outer inner) :
    outer = 0 ∧ inner = 1 := by
  obtain ⟨path, hline⟩ := h
  by_cases houter : outer = 0
  · rw [shopFiles, if_pos houter] at hline
    rcases List.mem_cons.1 hline with hmount | hroute
    · cases hmount
      exact ⟨houter, rfl⟩
    · cases List.mem_singleton.1 hroute
  · rw [shopFiles, if_neg houter] at hline
    cases List.mem_singleton.1 hline

/-- A project in which the orders are mounted on the users. -/
def shop : Project 2 where
  imports := [0]
  mounts := [(⟨"api/users".toList, by decide⟩, 0)]
  routers := shopFiles
  imported := by simp
  distinct := by
    unfold Function.Injective
    decide
  acyclic := by
    intro router hcycle
    have hchain : ∀ {outer inner : Fin 2}, Relation.TransGen (Mounts shopFiles) outer inner →
        outer = 0 ∧ inner = 1 := by
      intro outer inner htrans
      induction htrans with
      | single hstep => exact mounts_shopFiles hstep
      | tail _ hstep ih => exact ⟨ih.1, (mounts_shopFiles hstep).2⟩
    obtain ⟨hzero, hone⟩ := hchain hcycle
    rw [hzero] at hone
    cases hone

theorem shop_keys : shop.records.map Record.key =
    [("get", "/api/users"), ("post", "/api/users/\x7bid\x7d/orders/\x7borderId\x7d")] := by
  have horders : ∀ passed, shop.walk passed 1 = ordersFile.records passed := by
    intro passed
    rw [Project.walk_eq]
    exact List.append_nil _
  have husers : ∀ passed, shop.walk passed 0 = usersFile.records passed ++
      ordersFile.records (passed ++ [⟨":id/orders".toList, by decide⟩]) := by
    intro passed
    rw [Project.walk_eq]
    show usersFile.records passed ++ (shop.walk (passed ++ [_]) 1 ++ []) = _
    rw [horders, List.append_nil]
  have hrecords : shop.records = shop.walk [⟨"api/users".toList, by decide⟩] 0 ++ [] := rfl
  rw [hrecords, husers]
  decide +kernel

/-- The run over the shop. -/
theorem generate_shop : ∃ stop,
    Yields (generate { reader := shop.reader (Path.ofString "main.ts"), provider := tableProvider [] } 2
      (Path.ofString "main.ts") "" []) {} shop.document stop ∧
    shop.records.map Record.key =
      [("get", "/api/users"), ("post", "/api/users/\x7bid\x7d/orders/\x7borderId\x7d")] := by
  have hfiles : ∀ router, shop.fileOf (Path.ofString "main.ts") router ≠ Path.ofString "main.ts" := by
    decide +kernel
  obtain ⟨stop, hrun⟩ : ∃ stop, Yields (generate
      { reader := shop.reader (Path.ofString "main.ts"), provider := tableProvider [] } 2
      (Path.ofString "main.ts") "" []) {} shop.document stop :=
    (generate_project shop rfl (shop.served_reader hfiles)).1 2 le_rfl
  exact ⟨stop, hrun, shop_keys⟩

end RouteAtlas.Canonical
