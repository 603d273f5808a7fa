import RouteAtlas.Proofs.Source.Matching
import RouteAtlas.Router.Mount

/-!
# The calls behind the mounts of a text

The scan for mounts looks at every dot of a text, so each mount can be given the offset of its dot
(`mounts_eq_filterMap`). A dot at a code position makes the mount a live one. The search looks at the
characters alone, and a `use` call in a literal or a comment declares a mount like any other: the mounts
of a text are its live ones exactly if no such call declares one (`mounts_eq_liveMounts_iff`).
-/

set_option autoImplicit false

namespace RouteAtlas.Router

open Text Source Route

/-- The mount declared by the `use` call whose dot comes first in a text, if its receiver counts. The
text before is given in reverse. -/
def mountHere? (basePath : Text) (receiver : Option Text) (seen : Text) : Text → Option Mount
  | '.' :: rest =>
      match behindUse? rest with
      | some inner =>
          if isReceiver receiver seen then
            match argumentsAt (seen.length + 1 + (rest.length - inner.length)) inner with
            | .ok given => mountOf? basePath given
            | .error _ => none
          else none
      | none => none
  | _ => none

/-- The mount declared by the `use` call of a text whose dot stands at an offset, if its receiver
counts. -/
def mountAt? (basePath : Text) (receiver : Option Text) (code : Text) (offset : Nat) : Option Mount :=
  mountHere? basePath receiver (code.take offset).reverse (code.drop offset)

section

variable {basePath : Text} {receiver : Option Text} {mount : Mount}

/-- What a mount at an offset stands for: a dot, the receiver before it, and a `use` call behind it. -/
theorem mountHere?_eq_some_iff {seen text : Text} :
    mountHere? basePath receiver seen text = some mount ↔ ∃ rest inner given,
      text = '.' :: rest ∧ behindUse? rest = some inner ∧ isReceiver receiver seen = true ∧
        argumentsAt (seen.length + 1 + (rest.length - inner.length)) inner = .ok given ∧
        mountOf? basePath given = some mount := by
  constructor
  · intro h
    unfold mountHere? at h
    split at h
    · rename_i rest
      cases hinner : behindUse? rest with
      | none => simp [hinner] at h
      | some inner =>
          by_cases hreceiver : isReceiver receiver seen = true
          · simp only [hinner, hreceiver, if_true] at h
            split at h
            · rename_i given hgiven
              exact ⟨rest, inner, given, rfl, hinner, hreceiver, hgiven, h⟩
            · cases h
          · simp [hinner, hreceiver] at h
    · cases h
  · rintro ⟨rest, inner, given, rfl, hinner, hreceiver, hgiven, hmount⟩
    simp only [mountHere?, hinner, hreceiver, if_true, hgiven, hmount]

/-- A receiver asked for leaves the calls on it. -/
theorem mountHere?_receiver {name seen text : Text} :
    mountHere? basePath (some name) seen text = some mount ↔
      mountHere? basePath none seen text = some mount ∧ isReceiver (some name) seen = true := by
  rw [mountHere?_eq_some_iff, mountHere?_eq_some_iff]
  constructor
  · rintro ⟨rest, inner, given, htext, hinner, hreceiver, hgiven, hmount⟩
    exact ⟨⟨rest, inner, given, htext, hinner, rfl, hgiven, hmount⟩, hreceiver⟩
  · rintro ⟨⟨rest, inner, given, htext, hinner, -, hgiven, hmount⟩, hreceiver⟩
    exact ⟨rest, inner, given, htext, hinner, hreceiver, hgiven, hmount⟩

/-- The mount among the outcomes of the calls that start at the head of a text. -/
theorem filterMap_useCalls_cons (seen : Text) (c : Char) (rest : Text) :
    (useCalls basePath receiver seen (c :: rest)).filterMap (fun
        | .ok found => found
        | .error _ => none) =
      (mountHere? basePath receiver seen (c :: rest)).toList ++
        (useCalls basePath receiver (c :: seen) rest).filterMap (fun
          | .ok found => found
          | .error _ => none) := by
  rw [useCalls]
  by_cases hdot : c = '.'
  · -- the scan and the head go through the same tests: a call, its receiver, its arguments, its mount
    subst hdot
    cases hinner : behindUse? rest with
    | none => simp [mountHere?, hinner]
    | some inner =>
        by_cases hreceiver : isReceiver receiver seen = true
        · cases hgiven : argumentsAt (seen.length + 1 + (rest.length - inner.length)) inner with
          | error fault => simp [mountHere?, hinner, hreceiver, hgiven, Except.map]
          | ok given =>
              cases hmount : mountOf? basePath given with
              | none => simp [mountHere?, hinner, hreceiver, hgiven, hmount, Except.map]
              | some mount => simp [mountHere?, hinner, hreceiver, hgiven, hmount, Except.map]
        · simp [mountHere?, hinner, hreceiver]
  · simp [mountHere?, hdot]

theorem filterMap_useCalls (seen code : Text) :
    (useCalls basePath receiver seen code).filterMap (fun
        | .ok found => found
        | .error _ => none) =
      (List.range' seen.length code.length).filterMap
        (mountAt? basePath receiver (seen.reverse ++ code)) := by
  induction code generalizing seen with
  | nil => rfl
  | cons c rest ih =>
      -- the dot at the head is the one at the offset behind what has been seen
      have hhere : mountAt? basePath receiver (seen.reverse ++ c :: rest) seen.length =
          mountHere? basePath receiver seen (c :: rest) := by
        have hlength : seen.length = seen.reverse.length := List.length_reverse.symm
        rw [mountAt?, hlength, List.take_left, List.drop_left, List.reverse_reverse]
      have hrest : seen.reverse ++ c :: rest = (c :: seen).reverse ++ rest := by simp
      rw [filterMap_useCalls_cons, ih, List.length_cons, List.length_cons, List.range'_succ,
        List.filterMap_cons, hhere, hrest]
      cases mountHere? basePath receiver seen (c :: rest) <;> rfl

/-- **Every mount of a text is declared by a call at an offset**, in the order of the offsets. -/
theorem mounts_eq_filterMap (code basePath : Text) (receiver : Option Text) :
    (mounts code basePath receiver).mounts =
      (List.range code.length).filterMap (mountAt? basePath receiver code) := by
  rw [List.range_eq_range']
  exact filterMap_useCalls [] code

theorem lt_length_of_mountAt? {code : Text} {offset : Nat}
    (h : mountAt? basePath receiver code offset = some mount) : offset < code.length := by
  obtain ⟨rest, _, _, hdrop, -⟩ := mountHere?_eq_some_iff.1 h
  have hlength := congrArg List.length hdrop
  rw [List.length_drop, List.length_cons] at hlength
  omega

theorem dot_of_mountAt? {code : Text} {offset : Nat}
    (h : mountAt? basePath receiver code offset = some mount) : code[offset]? = some '.' := by
  obtain ⟨rest, _, _, hdrop, -⟩ := mountHere?_eq_some_iff.1 h
  rw [← List.head?_drop, hdrop]
  rfl

theorem mem_mounts_iff {code : Text} :
    mount ∈ (mounts code basePath receiver).mounts ↔
      ∃ offset, mountAt? basePath receiver code offset = some mount := by
  rw [mounts_eq_filterMap, List.mem_filterMap]
  constructor
  · rintro ⟨offset, -, hmount⟩
    exact ⟨offset, hmount⟩
  · rintro ⟨offset, hmount⟩
    exact ⟨offset, List.mem_range.2 (lt_length_of_mountAt? hmount), hmount⟩

end

/-! ## Live mounts -/

/-- The mounts of a text that are declared by calls with their dot outside literals and comments. -/
def liveMounts (code basePath : Text) (receiver : Option Text) : List Mount :=
  ((List.range code.length).filter fun offset => CodeAt code 0 offset '.').filterMap
    (mountAt? basePath receiver code)

/-- The mounts of a text come from live code: every call that declares one has its dot at a code
position. -/
def FromLiveCode (code basePath : Text) (receiver : Option Text) : Prop :=
  ∀ offset mount, mountAt? basePath receiver code offset = some mount → CodeAt code 0 offset '.'

theorem mem_liveMounts_iff {code basePath : Text} {receiver : Option Text} {mount : Mount} :
    mount ∈ liveMounts code basePath receiver ↔
      ∃ offset, CodeAt code 0 offset '.' ∧ mountAt? basePath receiver code offset = some mount := by
  rw [liveMounts, List.mem_filterMap]
  constructor
  · rintro ⟨offset, hoffset, hmount⟩
    exact ⟨offset, of_decide_eq_true (List.mem_filter.1 hoffset).2, hmount⟩
  · rintro ⟨offset, hcode, hmount⟩
    refine ⟨offset, List.mem_filter.2 ⟨?_, decide_eq_true hcode⟩, hmount⟩
    exact List.mem_range.2 (lt_length_of_mountAt? hmount)

/-- In a text without an open literal, the mounts come from live code exactly if the literals and
comments declare none. -/
theorem fromLiveCode_iff {code : Text} (hwhole : Unbroken (lex code)) (basePath : Text)
    (receiver : Option Text) :
    FromLiveCode code basePath receiver ↔
      ∀ offset, InSkipped code offset → mountAt? basePath receiver code offset = none := by
  constructor
  · intro hlive offset hskipped
    rw [Option.eq_none_iff_forall_ne_some]
    intro mount hmount
    exact (hlive offset mount hmount).not_inSkipped hskipped
  · intro hnone offset mount hmount
    rcases codeAt_or_inSkipped hwhole (dot_of_mountAt? hmount) with hcode | hskipped
    · exact hcode
    · cases (hnone offset hskipped).symm.trans hmount

/-- What a filter keeps gives all the values exactly if no entry that it drops has one. -/
theorem filterMap_filter_eq_iff {α β : Type} {keeps : α → Bool} {value : α → Option β} {list : List α} :
    (list.filter keeps).filterMap value = list.filterMap value ↔
      ∀ a ∈ list, ∀ b, value a = some b → keeps a = true := by
  induction list with
  | nil => simp
  | cons a list ih =>
      rw [List.forall_mem_cons, ← ih, List.filter_cons]
      have hshorter : ((list.filter keeps).filterMap value).length ≤ (list.filterMap value).length :=
        (List.filter_sublist.filterMap value).length_le
      cases hvalue : value a with
      | none =>
          cases hkeeps : keeps a with
          | true => simp [hvalue]
          | false => simp [hvalue]
      | some b =>
          cases hkeeps : keeps a with
          | true => simp [hvalue]
          | false =>
              -- the value that is dropped is missing on the left
              refine iff_of_false (fun heq => ?_) fun hall => ?_
              · have hlength := congrArg List.length heq
                rw [List.filterMap_cons_some hvalue, List.length_cons] at hlength
                simp only [Bool.false_eq_true, if_false] at hlength
                omega
              · cases hall.1 b rfl

/-- **The mounts of a text are its live ones exactly if all of them come from live code.** -/
theorem mounts_eq_liveMounts_iff {code basePath : Text} {receiver : Option Text} :
    (mounts code basePath receiver).mounts = liveMounts code basePath receiver ↔
      FromLiveCode code basePath receiver := by
  rw [mounts_eq_filterMap, liveMounts, eq_comm, filterMap_filter_eq_iff]
  constructor
  · intro h offset mount hmount
    exact of_decide_eq_true (h offset (List.mem_range.2 (lt_length_of_mountAt? hmount)) mount hmount)
  · intro h offset _ mount hmount
    exact decide_eq_true (h offset mount hmount)

end RouteAtlas.Router
