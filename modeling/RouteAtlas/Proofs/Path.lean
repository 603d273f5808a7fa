import RouteAtlas.Router.Locator
import Mathlib.Data.List.Basic

/-!
# Normalized paths

Resolving double dots leaves a path whose double dots all stand at its start, and none in a path from
the root. Such a path is left alone when it is resolved again, so normalizing settles in one round.
Files named next to each other therefore see each other under the same paths, whichever of them a
relative module specifier is read from.
-/

set_option autoImplicit false

namespace RouteAtlas.Path

open Text

/-- Resolved segments, last segment first: below a double dot there are only double dots, and there
is none in a path from the root. -/
def Settled (rooted : Bool) : List Text → Prop
  | [] => True
  | segment :: rest =>
      (segment = ['.', '.'] → rooted = false ∧ ∀ other ∈ rest, other = ['.', '.']) ∧ Settled rooted rest

theorem resolveSegment_of_ne {rooted : Bool} {resolved : List Text} {segment : Text}
    (h : segment ≠ ['.', '.']) : resolveSegment rooted resolved segment = segment :: resolved := by
  unfold resolveSegment
  rw [if_neg h]

theorem Settled.resolveSegment {rooted : Bool} {resolved : List Text} (h : Settled rooted resolved)
    (segment : Text) : Settled rooted (resolveSegment rooted resolved segment) := by
  by_cases hdots : segment = ['.', '.']
  · simp only [Path.resolveSegment, hdots, if_true]
    cases resolved with
    | nil =>
        cases rooted with
        | true => exact h
        | false => exact ⟨fun _ => ⟨rfl, by simp⟩, h⟩
    | cons last before =>
        obtain ⟨hlast, hbefore⟩ := h
        by_cases hup : last = ['.', '.']
        · simp only [hup, if_true]
          obtain ⟨hrooted, hrest⟩ := hlast hup
          refine ⟨fun _ => ⟨hrooted, ?_⟩, fun _ => ⟨hrooted, hrest⟩, hbefore⟩
          intro other hother
          rcases List.mem_cons.1 hother with rfl | hmem
          · rfl
          · exact hrest other hmem
        · simp only [hup, if_false]
          exact hbefore
  · rw [resolveSegment_of_ne hdots]
    exact ⟨fun hsame => absurd hsame hdots, h⟩

theorem Settled.foldl {rooted : Bool} {resolved : List Text} (h : Settled rooted resolved)
    (segments : List Text) : Settled rooted (segments.foldl (Path.resolveSegment rooted) resolved) := by
  induction segments generalizing resolved with
  | nil => exact h
  | cons segment rest ih => exact ih (h.resolveSegment segment)

/-- Settled segments are resolved to themselves. -/
theorem Settled.foldl_reverse {rooted : Bool} {resolved : List Text} (h : Settled rooted resolved) :
    resolved.reverse.foldl (Path.resolveSegment rooted) [] = resolved := by
  induction resolved with
  | nil => rfl
  | cons segment rest ih =>
      obtain ⟨hsegment, hrest⟩ := h
      rw [List.reverse_cons, List.foldl_append, ih hrest]
      show Path.resolveSegment rooted rest segment = segment :: rest
      by_cases hdots : segment = ['.', '.']
      · obtain ⟨hrooted, hall⟩ := hsegment hdots
        cases rest with
        | nil => simp [Path.resolveSegment, hdots, hrooted]
        | cons last before => simp [Path.resolveSegment, hdots, hall last List.mem_cons_self]
      · exact resolveSegment_of_ne hdots

/-- The segments of a folder with its double dots resolved, last segment first. -/
def resolved (folder : Path) : List Text :=
  folder.segments.foldl (resolveSegment folder.isAbsolute) []

end RouteAtlas.Path

namespace RouteAtlas.Router

open Text RouteAtlas.Path

/-- The path of a file named in its folder. -/
theorem modulePath_name (folder : Path) {module name : Text}
    (hmodule : Path.ofText module = { slashes := 0, segments := [name] }) (hname : name ≠ ['.', '.']) :
    modulePath folder module = { folder with segments := (resolved folder).reverse ++ [name] } := by
  rw [modulePath, hmodule]
  show Path.normalize { folder with segments := folder.segments ++ [name] } = _
  rw [Path.normalize]
  have hfold : (folder.segments ++ [name]).foldl (resolveSegment folder.isAbsolute) [] =
      name :: resolved folder := by
    rw [List.foldl_append]
    exact resolveSegment_of_ne hname
  have hreverse := congrArg List.reverse hfold
  rw [List.reverse_cons] at hreverse
  exact congrArg (fun segments => ({ folder with segments := segments } : Path)) hreverse

/-- **Files of one folder agree on where the files of the folder are.** -/
theorem modulePath_parent (folder : Path) {module name other sibling : Text}
    (hmodule : Path.ofText module = { slashes := 0, segments := [name] }) (hname : name ≠ ['.', '.'])
    (hother : Path.ofText other = { slashes := 0, segments := [sibling] })
    (hsibling : sibling ≠ ['.', '.']) :
    modulePath (modulePath folder module).parent other = modulePath folder other := by
  have hnone : Settled folder.isAbsolute [] := trivial
  have hsettled : Settled folder.isAbsolute (resolved folder) := hnone.foldl folder.segments
  have hparent : (modulePath folder module).parent =
      { folder with segments := (resolved folder).reverse } := by
    rw [modulePath_name folder hmodule hname, Path.parent, List.dropLast_concat]
  have hresolved : resolved { folder with segments := (resolved folder).reverse } = resolved folder :=
    hsettled.foldl_reverse
  rw [hparent, modulePath_name _ hother hsibling, modulePath_name _ hother hsibling, hresolved]

end RouteAtlas.Router
