import RouteAtlas.Proofs.Generation.Receivers
import RouteAtlas.Proofs.Route.Ownership
import RouteAtlas.Proofs.Router.MountCalls

/-!
# Mounts in literals and comments

Route calls are taken from live code only, and mounts wherever they are written. So a document holds what
is documented from the live mounts of the main file and also what is documented from the `use` calls in
its literals and comments (`mounts_live_iff`). A mount that is commented out keeps its endpoints in the
document.
-/

set_option autoImplicit false

namespace RouteAtlas.Generator

open Text Source Route Router Middleware Api Schema Step

/-- A key is documented from a `use` call of the main file in live code. -/
def DocumentedLive (context : Context) (file : Path) (basePath code : Text) (key : String × String) :
    Prop :=
  ∃ mount ∈ liveMounts code basePath none, Documents context file mount key

/-- A key is documented from a `use` call in a literal or a comment of the main file. -/
def DocumentedSkipped (context : Context) (file : Path) (basePath code : Text) (key : String × String) :
    Prop :=
  ∃ offset mount, InSkipped code offset ∧ mountAt? basePath none code offset = some mount ∧
    Documents context file mount key

/-- The endpoints of a run are documented from live code or from literals and comments. -/
theorem mem_keys_iff_live_or_skipped {context : Context} {depth : Nat} {file : Path} {basePath : String}
    {schemes : List SecurityScheme} {code : Text} {document : Document} {stop : Session}
    (hwhole : Unbroken (lex code)) (hcode : textOf context.reader file = .ok code)
    (h : Yields (generate context depth file basePath schemes) {} document stop)
    (key : String × String) :
    key ∈ document.endpoints.keys ↔ DocumentedLive context file basePath.toList code key ∨
      DocumentedSkipped context file basePath.toList code key := by
  rw [mem_keys_of_generate hcode h key]
  constructor
  · rintro ⟨mount, hmem, hdocuments⟩
    obtain ⟨offset, hmount⟩ := mem_mounts_iff.1 hmem
    rcases codeAt_or_inSkipped hwhole (dot_of_mountAt? hmount) with hlive | hskipped
    · exact .inl ⟨mount, mem_liveMounts_iff.2 ⟨offset, hlive, hmount⟩, hdocuments⟩
    · exact .inr ⟨offset, mount, hskipped, hmount, hdocuments⟩
  · rintro (⟨mount, hmem, hdocuments⟩ | ⟨offset, mount, -, hmount, hdocuments⟩)
    · obtain ⟨offset, -, hmount⟩ := mem_liveMounts_iff.1 hmem
      exact ⟨mount, mem_mounts_iff.2 ⟨offset, hmount⟩, hdocuments⟩
    · exact ⟨mount, mem_mounts_iff.2 ⟨offset, hmount⟩, hdocuments⟩

/-- **When mounts are taken from live code.** In a text without an open literal the mounts are those of
the `use` calls at all offsets; they come from live code exactly if no call in a literal or a comment
declares one, while every route call that is extracted has its dot in live code. A run over such a main
file registers what `use` calls in live code document and what those in literals and comments do. -/
theorem mounts_live_iff {code : Text} (hwhole : Unbroken (lex code)) :
    (∀ basePath receiver,
      (mounts code basePath receiver).mounts =
          (List.range code.length).filterMap (mountAt? basePath receiver code) ∧
        ((mounts code basePath receiver).mounts = liveMounts code basePath receiver ↔
          FromLiveCode code basePath receiver) ∧
        (FromLiveCode code basePath receiver ↔
          ∀ offset, InSkipped code offset → mountAt? basePath receiver code offset = none)) ∧
    (∀ router, ∀ token ∈ (tokens code (some router)).tokens, ∃ dot stop,
      CodeAt code 0 dot '.' ∧ IsCall code token.verb.name.toList dot token.arguments stop) ∧
    ∀ {context : Context} {depth : Nat} {file : Path} {basePath : String}
      {schemes : List SecurityScheme} {document : Document} {stop : Session},
      textOf context.reader file = .ok code →
      Yields (generate context depth file basePath schemes) {} document stop →
      ∀ key, key ∈ document.endpoints.keys ↔ DocumentedLive context file basePath.toList code key ∨
        DocumentedSkipped context file basePath.toList code key := by
  refine ⟨fun basePath receiver => ⟨mounts_eq_filterMap code basePath receiver,
    mounts_eq_liveMounts_iff, fromLiveCode_iff hwhole basePath receiver⟩, ?_, ?_⟩
  · intro router token htoken
    obtain ⟨dot, stop, hcall, -⟩ := exists_callOf_of_mem_tokens htoken
    exact ⟨dot, stop, hcall.code, hcall⟩
  · intro context depth file basePath schemes document stop hcode h
    exact mem_keys_iff_live_or_skipped hwhole hcode h

/-! ## A mount that is commented out -/

/-- A main file with an old mount of a router, commented out, and a new one. -/
def retiredMain : Text :=
  "const r = new Router();\n".toList ++ "r.get('/daily', daily);\n".toList ++
    "// app.use('/old', r.routes());\n".toList ++ "app.use('/new', r.routes());\n".toList

/-- A run over the main file alone. -/
def retiredContext : Context where
  reader := fun path =>
    if path = Path.ofString "main.ts" then .ok retiredMain else .error (.disk (.missing path))
  provider := tableProvider []

theorem textOf_retiredMain :
    textOf retiredContext.reader (Path.ofString "main.ts") = .ok retiredMain := rfl

theorem unbroken_retiredMain : Unbroken (lex retiredMain) := by
  unfold Unbroken retiredMain
  repeat rw [String.toList_ofList]
  decide +kernel

/-- The routes of the main file have a plain handler, and only the old mount documents the old path. -/
theorem retiredVisits_spec : ∀ mount ∈ (mounts retiredMain [] none).mounts,
    ∃ visits ∈ (routerVisits retiredContext.reader retiredContext.schemaSuffix.toList 2 [] mount
      (Path.ofString "main.ts") []).toOption.toList,
      (∀ visit ∈ visits, visit.HandledBy "daily".toList) ∧
      (mount.path = "old".toList ↔ ∃ visit ∈ visits, visit.check retiredContext.setup = .ok () ∧
        routeKey? visit.mount visit.token = some ("get", "/old/daily")) := by
  -- the text is read character by character only once
  unfold retiredContext retiredMain
  repeat rw [String.toList_ofList]
  decide +kernel

theorem documents_retired_iff {mount : Mount} (h : mount ∈ (mounts retiredMain [] none).mounts) :
    Documents retiredContext (Path.ofString "main.ts") mount ("get", "/old/daily") ↔
      mount.path = "old".toList := by
  obtain ⟨visits, hmem, -, hold⟩ := retiredVisits_spec mount h
  exact (documents_iff (eq_ok_of_mem_toOption hmem)).trans hold.symm

theorem retiredContext_succeeds : ∃ document stop,
    Yields (generate retiredContext 2 (Path.ofString "main.ts") "" []) {} document stop := by
  refine exists_yields_generate textOf_retiredMain fun mount hmount => ?_
  obtain ⟨visits, hmem, hhandled, -⟩ := retiredVisits_spec mount hmount
  exact ⟨visits, eq_ok_of_mem_toOption hmem,
    fun visit hvisit => (hhandled visit hvisit).passes rfl (by decide +kernel)⟩

/-- The main file has no open literal, and the run over it succeeds. -/
theorem retiredMain_live_iff :
    Unbroken (lex retiredMain) ∧
      (FromLiveCode retiredMain [] none ↔
        ∀ offset, InSkipped retiredMain offset → mountAt? [] none retiredMain offset = none) ∧
      ∃ document stop,
        Yields (generate retiredContext 2 (Path.ofString "main.ts") "" []) {} document stop ∧
          ∀ key, key ∈ document.endpoints.keys ↔
            DocumentedLive retiredContext (Path.ofString "main.ts") [] retiredMain key ∨
              DocumentedSkipped retiredContext (Path.ofString "main.ts") [] retiredMain key := by
  obtain ⟨hmounts, -, hruns⟩ := mounts_live_iff unbroken_retiredMain
  obtain ⟨document, stop, h⟩ := retiredContext_succeeds
  have hkeys := hruns textOf_retiredMain h
  exact ⟨unbroken_retiredMain, (hmounts [] none).2.2, document, stop, h, hkeys⟩

/-- The mount that is commented out is found, and its endpoint is in the document, which no mount in live
code accounts for. -/
theorem retiredMain_documents_comment :
    Unbroken (lex retiredMain) ∧
      (∃ offset, mountAt? [] none retiredMain offset = some { router := "r".toList, path := "old".toList } ∧
        InSkipped retiredMain offset) ∧
      ¬ FromLiveCode retiredMain [] none ∧
      ∃ document stop,
        Yields (generate retiredContext 2 (Path.ofString "main.ts") "" []) {} document stop ∧
          ("get", "/old/daily") ∈ document.endpoints.keys ∧
          ¬ DocumentedLive retiredContext (Path.ofString "main.ts") [] retiredMain ("get", "/old/daily") := by
  -- the dot of the old mount stands in the comment, and the call behind it is read all the same
  obtain ⟨hmount, hdead, hnew⟩ :
      mountAt? [] none retiredMain 54 = some { router := "r".toList, path := "old".toList } ∧
        ¬ CodeAt retiredMain 0 54 '.' ∧
        ∀ mount ∈ liveMounts retiredMain [] none, mount.path ≠ "old".toList := by
    unfold retiredMain
    repeat rw [String.toList_ofList]
    decide +kernel
  have hmem : { router := "r".toList, path := "old".toList } ∈ (mounts retiredMain [] none).mounts :=
    mem_mounts_iff.2 ⟨54, hmount⟩
  obtain ⟨document, stop, h⟩ := retiredContext_succeeds
  refine ⟨unbroken_retiredMain, ⟨54, hmount, ?_⟩, fun hlive => hdead (hlive _ _ hmount),
    document, stop, h, ?_, ?_⟩
  · exact (codeAt_or_inSkipped unbroken_retiredMain (dot_of_mountAt? hmount)).resolve_left hdead
  · rw [mem_keys_of_generate textOf_retiredMain h]
    exact ⟨_, hmem, (documents_retired_iff hmem).2 rfl⟩
  · rintro ⟨mount, hlive, hdocuments⟩
    obtain ⟨other, -, hother⟩ := mem_liveMounts_iff.1 hlive
    exact hnew mount hlive ((documents_retired_iff (mem_mounts_iff.2 ⟨other, hother⟩)).1 hdocuments)

end RouteAtlas.Generator
