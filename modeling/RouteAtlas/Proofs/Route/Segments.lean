import RouteAtlas.Generator
import RouteAtlas.Proofs.Text.Parts
import RouteAtlas.Proofs.Text.Trimming
import Mathlib.Data.List.Infix

/-!
# Paths as lists of segments

A path is written from its segments with a slash between two of them. On written paths, taking the base
path of the application off a mount drops a prefix of segments, so a base whose text merely begins like
the mount stays. Nesting mounts concatenates their segments, and a route stands below nested mounts
where it stands when the mounts are put in front of it one by one (`paths_follow_segments`).
-/

set_option autoImplicit false

namespace RouteAtlas.Route

open Text

/-- A segment of a path: not empty, and without slashes and blanks. -/
structure Segment where
  text : Text
  text_ne_nil : text ≠ []
  plain : ∀ c ∈ text, c ≠ '/' ∧ isBlank c = false
  deriving DecidableEq

/-- The text of a path. -/
def written (segments : List Segment) : Text := join ['/'] (segments.map Segment.text)

/-- The text of a path from the root: a slash in front of every segment. -/
def rooted (segments : List Segment) : Text := segments.flatMap fun segment => '/' :: segment.text

/-- The text of a path among any number of slashes. -/
def padded (before : Nat) (segments : List Segment) (behind : Nat) : Text :=
  List.replicate before '/' ++ written segments ++ List.replicate behind '/'

/-! ## Written paths -/

theorem Segment.text_injective : Function.Injective Segment.text := by
  rintro ⟨text, _, _⟩ ⟨_, _, _⟩ rfl
  rfl

theorem Segment.slash_not_mem (segment : Segment) : '/' ∉ segment.text :=
  fun hmem => (segment.plain '/' hmem).1 rfl

theorem slash_not_mem_texts (segments : List Segment) :
    ∀ part ∈ segments.map Segment.text, '/' ∉ part :=
  List.forall_mem_map.2 fun segment _ => segment.slash_not_mem

theorem written_cons (segment : Segment) {segments : List Segment} (h : segments ≠ []) :
    written (segment :: segments) = segment.text ++ '/' :: written segments := by
  rw [written, List.map_cons, join_cons (by simpa using h), List.append_assoc]
  rfl

theorem written_append {first rest : List Segment} (hfirst : first ≠ []) (hrest : rest ≠ []) :
    written (first ++ rest) = written first ++ '/' :: written rest := by
  rw [written, List.map_append, join_append (by simpa using hfirst) (by simpa using hrest),
    List.append_assoc]
  rfl

theorem written_ne_nil {segments : List Segment} (h : segments ≠ []) : written segments ≠ [] :=
  join_ne_nil (by simpa using h) (List.forall_mem_map.2 fun segment _ => segment.text_ne_nil)

theorem written_eq_nil {segments : List Segment} : written segments = [] ↔ segments = [] := by
  constructor
  · intro h
    by_contra hne
    exact written_ne_nil hne h
  · rintro rfl
    rfl

theorem partsBy_written {segments : List Segment} (h : segments ≠ []) :
    partsBy '/' (written segments) = segments.map Segment.text :=
  partsBy_join (by simpa using h) (slash_not_mem_texts segments)

/-- A path is known from its text. -/
theorem written_injective : Function.Injective written := by
  intro first second h
  by_cases hfirst : first = []
  · rw [hfirst] at h ⊢
    exact (written_eq_nil.1 h.symm).symm
  · have hsecond : second ≠ [] := by
      rintro rfl
      exact hfirst (written_eq_nil.1 h)
    have hparts := partsBy_written hfirst
    rw [h, partsBy_written hsecond] at hparts
    exact (List.map_injective_iff.2 Segment.text_injective hparts).symm

/-- **A written path goes on behind a slash exactly where its segments do.** -/
theorem prefix_of_written {first second : List Segment} {rest : Text} (hne : first ≠ [])
    (h : written first ++ '/' :: rest = written second) : first <+: second := by
  have hsecond : second ≠ [] := by
    rintro rfl
    simp [written, join] at h
  have hparts : first.map Segment.text ++ partsBy '/' rest = second.map Segment.text := by
    rw [← partsBy_written hsecond, ← h]
    exact (partsBy_join_append (by simpa using hne) (slash_not_mem_texts first) rest).symm
  exact (List.prefix_map_iff_of_injective Segment.text_injective).1 ⟨_, hparts⟩

theorem rooted_append (first rest : List Segment) : rooted (first ++ rest) = rooted first ++ rooted rest :=
  List.flatMap_append

theorem rooted_eq {segments : List Segment} (h : segments ≠ []) : rooted segments = '/' :: written segments := by
  induction segments with
  | nil => exact absurd rfl h
  | cons segment segments ih =>
      by_cases hlast : segments = []
      · subst hlast
        simp [rooted, written, join]
      · rw [written_cons segment hlast, ← ih hlast]
        simp [rooted]

/-! ## Ends of written paths -/

theorem not_isBlank_of_mem_written {segments : List Segment} {c : Char} (h : c ∈ written segments) :
    isBlank c = false := by
  rcases mem_join h with hslash | ⟨part, hpart, hc⟩
  · rw [List.mem_singleton.1 hslash]
    decide
  · obtain ⟨segment, -, rfl⟩ := List.mem_map.1 hpart
    exact (segment.plain c hc).2

theorem head?_written {segments : List Segment} : ∀ c ∈ (written segments).head?, (c == '/') = false := by
  intro c hc
  cases segments with
  | nil => cases hc
  | cons segment segments =>
      have hhead : (written (segment :: segments)).head? = segment.text.head? := by
        by_cases hlast : segments = []
        · rw [hlast]
          rfl
        · rw [written_cons segment hlast, List.head?_append_of_ne_nil _ segment.text_ne_nil]
      rw [hhead] at hc
      simpa using (segment.plain c (List.mem_of_mem_head? hc)).1

theorem getLast?_written {segments : List Segment} :
    ∀ c ∈ (written segments).getLast?, (c == '/') = false := by
  intro c hc
  induction segments with
  | nil => cases hc
  | cons segment segments ih =>
      by_cases hlast : segments = []
      · subst hlast
        simpa using (segment.plain c (List.mem_of_mem_getLast? hc)).1
      · refine ih ?_
        obtain ⟨d, rest, hwritten⟩ := List.exists_cons_of_ne_nil (written_ne_nil hlast)
        rwa [written_cons segment hlast, hwritten, List.getLast?_append_of_ne_nil _ (List.cons_ne_nil _ _),
          List.getLast?_cons_cons, ← hwritten] at hc

theorem all_slash (n : Nat) : (List.replicate n '/').all (· == '/') = true := by simp

/-- Slashes around a path do not show when it is trimmed. -/
theorem trimSlashes_padded (before : Nat) (segments : List Segment) (behind : Nat) :
    trimSlashes (padded before segments behind) = written segments := by
  by_cases hne : segments = []
  · subst hne
    rw [padded, written, List.map_nil, join, List.append_nil, ← List.replicate_add]
    simp [trimSlashes, trimWhile, trimRightWhile]
  · exact trimWhile_surrounded (all_slash before) (all_slash behind) (written_ne_nil hne) head?_written
      getLast?_written

theorem trimSlashes_written (segments : List Segment) : trimSlashes (written segments) = written segments := by
  simpa [padded] using trimSlashes_padded 0 segments 0

theorem trim_padded (before : Nat) (segments : List Segment) (behind : Nat) :
    trim (padded before segments behind) = padded before segments behind := by
  apply trim_eq_self
  intro c hc
  have hslash : ∀ n, c ∈ List.replicate n '/' → isBlank c = false := by
    intro n hn
    rw [List.eq_of_mem_replicate hn]
    decide
  rw [padded, List.mem_append, List.mem_append] at hc
  rcases hc with (hbefore | hwritten) | hbehind
  · exact hslash _ hbefore
  · exact not_isBlank_of_mem_written hwritten
  · exact hslash _ hbehind

/-! ## Taking off the base path -/

/-- **A base path is taken off by segments.** -/
theorem mountWithin_padded (path base : List Segment) (a b c d : Nat) :
    mountWithin (padded a path b) (padded c base d) =
      written (if base ≠ [] ∧ base <+: path then path.drop base.length else path) := by
  rw [mountWithin, trim_padded, trim_padded, trimSlashes_padded, trimSlashes_padded]
  by_cases hbase : base = []
  · subst hbase
    simp [written, join]
  · have hempty : (written base).isEmpty = false := by simpa using written_ne_nil hbase
    simp only [hempty, Bool.false_eq_true, if_false]
    by_cases hprefix : base <+: path
    · have hkept : (if base ≠ [] ∧ base <+: path then path.drop base.length else path) =
          path.drop base.length := if_pos ⟨hbase, hprefix⟩
      rw [hkept]
      obtain ⟨rest, rfl⟩ := hprefix
      rw [List.drop_left]
      by_cases hrest : rest = []
      · rw [hrest, List.append_nil, if_pos rfl]
        rfl
      · have hne : written (base ++ rest) ≠ written base := fun hsame =>
          hrest (by simpa using written_injective hsame)
        have hsplit : written (base ++ rest) = written base ++ ['/'] ++ written rest := by
          rw [written_append hbase hrest, List.append_assoc]
          rfl
        rw [if_neg hne, hsplit, dropStart?_append]
        -- the rest starts with a segment, so it loses no further slash
        show (written rest).dropWhile (· == '/') = written rest
        cases hwritten : written rest with
        | nil => rfl
        | cons e others =>
            have he := head?_written e (by rw [hwritten]; rfl)
            rw [List.dropWhile_cons_of_neg (by simpa using he)]
    · have hne : written path ≠ written base := fun hsame =>
        hprefix (written_injective hsame ▸ List.prefix_rfl)
      have hnone : dropStart? (written base ++ ['/']) (written path) = none := by
        cases hdrop : dropStart? (written base ++ ['/']) (written path) with
        | none => rfl
        | some rest =>
            have happend := append_of_dropStart? hdrop
            rw [List.append_assoc] at happend
            exact absurd (prefix_of_written hbase happend) hprefix
      have hkept : (if base ≠ [] ∧ base <+: path then path.drop base.length else path) = path :=
        if_neg fun hboth => hprefix hboth.2
      rw [hkept, if_neg hne, hnone]

/-! ## Nesting mounts -/

/-- The mounts that are not empty, joined by slashes. -/
def joined (mounts : List Text) : Text := join ['/'] (mounts.filter (!·.isEmpty))

/-- **Nested mounts are joined by slashes**, and empty ones leave no trace. -/
theorem foldl_nestMount (mounts : List Text) : mounts.foldl Generator.nestMount [] = joined mounts := by
  induction mounts using List.reverseRecOn with
  | nil => rfl
  | append_singleton mounts mount ih =>
      rw [List.foldl_append, ih, List.foldl_cons, List.foldl_nil, joined, joined, List.filter_append]
      generalize hparts : mounts.filter (!·.isEmpty) = parts
      have hnonempty : ∀ part ∈ parts, part ≠ [] := by
        intro part hmem
        rw [← hparts, List.mem_filter] at hmem
        simpa using hmem.2
      by_cases hmount : mount = []
      · rw [hmount, Generator.nestMount]
        split
        · rename_i hempty
          simpa using (List.isEmpty_iff.1 hempty).symm
        · simp
      · have hsome : mount.isEmpty = false := by simpa using hmount
        by_cases hnone : parts = []
        · rw [hnone]
          simp [Generator.nestMount, join, hsome]
        · have hjoined : (join ['/'] parts).isEmpty = false := by
            simpa using join_ne_nil hnone hnonempty
          have hlast : [mount].filter (!·.isEmpty) = [mount] := by simp [hmount]
          rw [hlast, join_concat hnone, Generator.nestMount, hjoined, hsome]
          simp

/-- Joining the texts of mounts concatenates their segments. -/
theorem joined_written (mounts : List (List Segment)) : joined (mounts.map written) = written mounts.flatten := by
  induction mounts with
  | nil => rfl
  | cons mount mounts ih =>
      rw [joined] at ih ⊢
      by_cases hmount : mount = []
      · subst hmount
        simpa [written, join] using ih
      · have hsome : (written mount).isEmpty = false := by simpa using written_ne_nil hmount
        rw [List.map_cons, List.filter_cons_of_pos (by simp [hsome]), List.flatten_cons]
        by_cases hrest : mounts.flatten = []
        · have hnone : (mounts.map written).filter (!·.isEmpty) = [] := by
            rw [List.filter_eq_nil_iff, List.forall_mem_map]
            intro inner hinner
            simp [List.flatten_eq_nil_iff.1 hrest inner hinner, written, join]
          rw [hnone, hrest, List.append_nil]
          rfl
        · have hsome : (mounts.map written).filter (!·.isEmpty) ≠ [] := by
            intro hnone
            rw [hnone] at ih
            exact hrest (written_eq_nil.1 ih.symm)
          rw [join_cons hsome, ih, written_append hmount hrest, List.append_assoc]
          rfl

/-! ## Local paths -/

/-- A local path as it stands behind a mount: nothing for a blank path or a lone slash, and with one
slash in front otherwise. -/
def localPart (localPath : Text) : Text :=
  match trim localPath with
  | [] => []
  | ['/'] => []
  | '/' :: rest => '/' :: rest
  | rest => '/' :: rest

/-- A path from the root, which is a lone slash where no segment is left. -/
def orRoot (path : Text) : Text := if path.isEmpty then ['/'] else path

/-- What can stand behind a mount: nothing, or a slash with more behind it that ends with no blank. -/
def IsLocal (path : Text) : Prop := path = [] ∨ (∃ c rest, path = '/' :: c :: rest) ∧ trim path = path

theorem isLocal_localPart (localPath : Text) : IsLocal (localPart localPath) := by
  have htrim := trim_trim localPath
  unfold localPart
  generalize trim localPath = trimmed at htrim
  split
  · exact .inl rfl
  · exact .inl rfl
  · rename_i behind hne
    obtain ⟨c, rest, rfl⟩ : ∃ c rest, behind = c :: rest := List.exists_cons_of_ne_nil hne
    exact .inr ⟨⟨c, rest, rfl⟩, htrim⟩
  · rename_i hne _ _
    obtain ⟨c, rest, rfl⟩ : ∃ c rest, trimmed = c :: rest := List.exists_cons_of_ne_nil hne
    refine .inr ⟨⟨c, rest, rfl⟩, @trim_append ['/'] _ ?_ (List.cons_ne_nil _ _) htrim⟩
    intro d hd
    cases hd
    decide

/-- Read as a local path once more, what stands behind a mount stays the same. -/
theorem IsLocal.localPart_eq {path : Text} (h : IsLocal path) : localPart (orRoot path) = path := by
  rcases h with rfl | ⟨⟨c, rest, rfl⟩, htrim⟩
  · rfl
  · rw [orRoot, localPart, List.isEmpty_cons, if_neg Bool.false_ne_true, htrim]
    rfl

theorem IsLocal.rooted_append {path : Text} (h : IsLocal path) (segments : List Segment) :
    IsLocal (rooted segments ++ path) := by
  by_cases hne : segments = []
  · rwa [hne]
  · obtain ⟨c, rest, hwritten⟩ := List.exists_cons_of_ne_nil (written_ne_nil hne)
    have hslash : ∀ d ∈ '/' :: written segments, isBlank d = false := by
      intro d hd
      rcases List.mem_cons.1 hd with rfl | hmem
      · decide
      · exact not_isBlank_of_mem_written hmem
    have hhead : ∀ d ∈ ('/' :: written segments ++ path).head?, isBlank d = false := by
      intro d hd
      cases hd
      decide
    rw [rooted_eq hne]
    refine .inr ⟨⟨c, rest ++ path, by rw [hwritten]; rfl⟩, ?_⟩
    rcases h with rfl | ⟨⟨d, behind, rfl⟩, htrim⟩
    · rw [List.append_nil]
      exact trim_eq_self hslash
    · exact trim_append hhead (List.cons_ne_nil _ _) htrim

/-! ## Routes below mounts -/

/-- A route stands behind its mount, or at the root where nothing is left of the two. -/
theorem pathUnder_eq (mount localPath : Text) :
    pathUnder mount localPath = orRoot ((if (trimSlashes mount).isEmpty then [] else '/' :: trimSlashes mount) ++
      localPart localPath) := by
  rw [pathUnder, localPart, orRoot]
  generalize trim localPath = trimmed
  cases trimmed with
  | nil => simp
  | cons c rest =>
      by_cases hc : c = '/'
      · subst hc
        cases rest with
        | nil => simp
        | cons d rest => simp
      · simp [hc]

theorem pathUnder_written (segments : List Segment) (localPath : Text) :
    pathUnder (written segments) localPath = orRoot (rooted segments ++ localPart localPath) := by
  rw [pathUnder_eq, trimSlashes_written]
  by_cases hne : segments = []
  · subst hne
    rfl
  · have hempty : (written segments).isEmpty = false := by simpa using written_ne_nil hne
    rw [hempty, rooted_eq hne]
    rfl

/-- The path of a route starts with a slash. -/
theorem head?_pathUnder (mount localPath : Text) : (pathUnder mount localPath).head? = some '/' := by
  rw [pathUnder_eq]
  by_cases hmount : (trimSlashes mount).isEmpty = true
  · rcases isLocal_localPart localPath with hnone | ⟨⟨c, rest, hlocal⟩, -⟩
    · simp [hmount, hnone, orRoot]
    · simp [hmount, hlocal, orRoot]
  · simp [hmount, orRoot]

/-- **Putting mounts in front of a route one by one** puts their segments in front of it. -/
theorem foldr_pathUnder (first : List Segment) (more : List (List Segment)) (localPath : Text) :
    ((first :: more).map written).foldr pathUnder localPath =
      orRoot (rooted (first :: more).flatten ++ localPart localPath) := by
  induction more generalizing first with
  | nil => simpa using pathUnder_written first localPath
  | cons next more ih =>
      rw [List.map_cons, List.foldr_cons, ih, pathUnder_written,
        ((isLocal_localPart localPath).rooted_append _).localPart_eq, ← List.append_assoc,
        ← rooted_append]
      rfl

/-- **Paths follow their segments.** Among any number of slashes, a mount loses a base path that is a
prefix of its segments, and nothing else. A route below nested mounts stands where it stands when the
mounts are put in front of it one by one. Its path starts with a slash, and that of a route without a
path of its own is the text of the mounts. -/
theorem paths_follow_segments :
    (∀ (path base : List Segment) (a b c d : Nat),
      mountWithin (padded a path b) (padded c base d) =
        written (if base ≠ [] ∧ base <+: path then path.drop base.length else path)) ∧
    ∀ (first : List Segment) (more : List (List Segment)),
      ((first :: more).map written).foldl Generator.nestMount [] = joined ((first :: more).map written) ∧
      joined ((first :: more).map written) = written (first :: more).flatten ∧
      (∀ localPath : Text,
        pathUnder (joined ((first :: more).map written)) localPath =
          ((first :: more).map written).foldr pathUnder localPath ∧
        (pathUnder (joined ((first :: more).map written)) localPath).head? = some '/') ∧
      pathUnder (joined ((first :: more).map written)) [] = '/' :: joined ((first :: more).map written) ∧
      pathUnder (joined ((first :: more).map written)) ['/'] = '/' :: joined ((first :: more).map written) := by
  refine ⟨mountWithin_padded, fun first more => ?_⟩
  have hjoined := joined_written (first :: more)
  -- a route without a path of its own stands at the mounts
  have halone : ∀ localPath, localPart localPath = [] →
      pathUnder (joined ((first :: more).map written)) localPath = '/' :: joined ((first :: more).map written) := by
    intro localPath hlocal
    rw [hjoined, pathUnder_written, hlocal, List.append_nil]
    by_cases hne : (first :: more).flatten = []
    · rw [hne]
      rfl
    · rw [rooted_eq hne]
      rfl
  refine ⟨foldl_nestMount _, hjoined, fun localPath => ⟨?_, head?_pathUnder _ _⟩, halone [] rfl, halone ['/'] rfl⟩
  rw [foldr_pathUnder, hjoined, pathUnder_written]

/-- The segment of a text whose characters have been checked one by one. -/
def Segment.ofChecked (text : Text) (hne : text ≠ [])
    (hplain : (text.all fun c => c != '/' && !isBlank c) = true) : Segment where
  text := text
  text_ne_nil := hne
  plain c hc := by simpa using List.all_eq_true.1 hplain c hc

/-- The segments of a path to the reports of users. -/
def reportSegments : List Segment :=
  [.ofChecked "api".toList (by decide) (by decide), .ofChecked "v1".toList (by decide) (by decide),
   .ofChecked "users".toList (by decide) (by decide), .ofChecked "reports".toList (by decide) (by decide)]

/-- A base path is cut off, and a route below two mounts, the first of them without a path, stands behind
both. -/
theorem reports_path :
    mountWithin "//api/v1/users/reports/".toList "api/v1//".toList = "users/reports".toList ∧
      ["".toList, "api/v1".toList, "users/reports".toList].foldl Generator.nestMount [] =
        "api/v1/users/reports".toList ∧
      pathUnder "api/v1/users/reports".toList "/daily".toList = "/api/v1/users/reports/daily".toList := by
  obtain ⟨hwithin, hbelow⟩ := paths_follow_segments
  have hbase := hwithin reportSegments (reportSegments.take 2) 2 1 0 2
  obtain ⟨hmounts, hflat, hroute, -⟩ := hbelow [] [reportSegments.take 2, reportSegments.drop 2]
  have htext : joined ([[], reportSegments.take 2, reportSegments.drop 2].map written) =
      "api/v1/users/reports".toList := hflat.trans (by decide)
  refine ⟨hbase, hmounts.trans htext, ?_⟩
  rw [← htext, (hroute "/daily".toList).1]
  decide

/-- A base path that only begins like the mount is no prefix of its segments. -/
example : mountWithin "/api/v10/users/".toList "/api/v1".toList = "api/v10/users".toList := by decide

end RouteAtlas.Route
