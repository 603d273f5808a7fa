import Mathlib.Data.List.Forall2
import Mathlib.Data.Set.Function
import RouteAtlas.Api.Document

/-!
# Documents up to serial numbers

A model that a run composes is told apart from all others by a serial number, and two runs that compose
the same models may number them differently. A numbering pairs the serial numbers of one run with those
of another. What matches under a numbering is the same but for the numbers that are paired, and where
the numbering is one to one, the second of two matching documents is the first one renumbered, without
any two of its numbers falling together (`Document.Matches.eqUpToSerials`).
-/

set_option autoImplicit false

namespace RouteAtlas.Schema

/-- Pairs of serial numbers that stand for each other in two runs. -/
abbrev Numbering := List (Nat × Nat)

namespace Numbering

/-- No number is paired with two others, from either side. -/
def OneToOne (numbering : Numbering) : Prop :=
  ∀ pair ∈ numbering, ∀ other ∈ numbering, pair.1 = other.1 ↔ pair.2 = other.2

/-- The number that a number is paired with. -/
def rename (numbering : Numbering) (serial : Nat) : Nat :=
  ((numbering.find? fun pair => pair.1 == serial).map Prod.snd).getD serial

theorem OneToOne.rename_eq {numbering : Numbering} (h : numbering.OneToOne) {first second : Nat}
    (hpair : (first, second) ∈ numbering) : numbering.rename first = second := by
  cases hfound : numbering.find? fun pair => pair.1 == first with
  | none =>
      have hnone := List.find?_eq_none.1 hfound _ hpair
      simp at hnone
  | some pair =>
      have hfirst : pair.1 = first := by simpa using List.find?_some hfound
      have hsecond := (h pair (List.mem_of_find?_eq_some hfound) _ hpair).1 hfirst
      rw [rename, hfound]
      exact hsecond

/-- Numbers that are paired are renamed to different ones. -/
theorem OneToOne.injOn_rename {numbering : Numbering} (h : numbering.OneToOne) {serials : List Nat}
    (hpaired : ∀ serial ∈ serials, ∃ second, (serial, second) ∈ numbering) :
    Set.InjOn numbering.rename {serial | serial ∈ serials} := by
  intro first hfirst other hother hsame
  obtain ⟨second, hpair⟩ := hpaired first hfirst
  obtain ⟨second', hpair'⟩ := hpaired other hother
  rw [h.rename_eq hpair, h.rename_eq hpair'] at hsame
  exact (h _ hpair _ hpair').2 hsame

/-- A new pair of numbers can be added when neither of them is paired yet. -/
theorem OneToOne.cons {numbering : Numbering} (h : numbering.OneToOne) {first second : Nat}
    (hfirst : ∀ pair ∈ numbering, pair.1 ≠ first) (hsecond : ∀ pair ∈ numbering, pair.2 ≠ second) :
    OneToOne ((first, second) :: numbering) := by
  intro pair hpair other hother
  rcases List.mem_cons.1 hpair with rfl | hpair
  · rcases List.mem_cons.1 hother with rfl | hother
    · simp
    · simp [Ne.symm (hfirst other hother), Ne.symm (hsecond other hother)]
  · rcases List.mem_cons.1 hother with rfl | hother
    · simp [hfirst pair hpair, hsecond pair hpair]
    · exact h pair hpair other hother

end Numbering

/-! ## Models -/

namespace Identity

/-- The serial number of a composed model. -/
def serial? : Identity → Option Nat
  | .declared _ _ => none
  | .built serial => some serial

/-- The identity with its serial number changed. -/
def renumbered (rename : Nat → Nat) : Identity → Identity
  | .declared home key => .declared home key
  | .built serial => .built (rename serial)

/-- Two identities are the same, or their numbers are paired. -/
inductive Matches (numbering : Numbering) : Identity → Identity → Prop where
  | declared (home key : String) : Matches numbering (.declared home key) (.declared home key)
  | built {first second : Nat} : (first, second) ∈ numbering →
      Matches numbering (.built first) (.built second)

theorem Matches.mono {numbering wider : Numbering} {identity other : Identity}
    (h : identity.Matches numbering other) (hwider : numbering ⊆ wider) :
    identity.Matches wider other := by
  cases h with
  | declared home key => exact .declared home key
  | built hpair => exact .built (hwider hpair)

/-- **Matching keeps apart what is apart.** -/
theorem Matches.eq_iff {numbering : Numbering} (hone : numbering.OneToOne)
    {identity other identity' other' : Identity} (h : identity.Matches numbering identity')
    (hother : other.Matches numbering other') : identity = other ↔ identity' = other' := by
  cases h with
  | declared home key =>
      cases hother with
      | declared home' key' => rfl
      | built hpair => simp
  | built hpair =>
      cases hother with
      | declared home' key' => simp
      | built hpair' => simpa using hone _ hpair _ hpair'

theorem Matches.eq_renumbered {numbering : Numbering} (hone : numbering.OneToOne)
    {identity other : Identity} (h : identity.Matches numbering other) :
    other = identity.renumbered numbering.rename := by
  cases h with
  | declared home key => rfl
  | built hpair => rw [renumbered, hone.rename_eq hpair]

/-- A number that is matched is paired. -/
theorem Matches.exists_pair {numbering : Numbering} {identity other : Identity}
    (h : identity.Matches numbering other) {serial : Nat} (hserial : identity.serial? = some serial) :
    ∃ second, (serial, second) ∈ numbering := by
  cases h with
  | declared home key => cases hserial
  | @built first second hpair =>
      cases hserial
      exact ⟨second, hpair⟩

end Identity

namespace Model

/-- The model under another identity. -/
def withIdentity (model : Model) (identity : Identity) : Model :=
  match model with
  | .record _ name doc extra fields => .record identity name doc extra fields
  | .given _ name schema => .given identity name schema

@[simp] theorem name_withIdentity (model : Model) (identity : Identity) :
    (model.withIdentity identity).name = model.name := by
  cases model <;> rfl

@[simp] theorem fields_withIdentity (model : Model) (identity : Identity) :
    (model.withIdentity identity).fields = model.fields := by
  cases model <;> rfl

@[simp] theorem withIdentity_self (model : Model) : model.withIdentity model.identity = model := by
  cases model <;> rfl

/-- The model with its serial number changed. -/
def renumbered (rename : Nat → Nat) (model : Model) : Model :=
  model.withIdentity (model.identity.renumbered rename)

/-- Two models are the same but for their identities, which match. -/
def Matches (numbering : Numbering) (model other : Model) : Prop :=
  model.identity.Matches numbering other.identity ∧ other = model.withIdentity other.identity

theorem Matches.mono {numbering wider : Numbering} {model other : Model}
    (h : model.Matches numbering other) (hwider : numbering ⊆ wider) : model.Matches wider other :=
  ⟨h.1.mono hwider, h.2⟩

/-- A declared model matches itself. -/
theorem matches_of_declared {numbering : Numbering} {model : Model} {home key : String}
    (h : model.identity = .declared home key) : model.Matches numbering model := by
  refine ⟨?_, by simp⟩
  rw [h]
  exact .declared home key

theorem Matches.name_eq {numbering : Numbering} {model other : Model}
    (h : model.Matches numbering other) : other.name = model.name := by
  rw [h.2, name_withIdentity]

theorem Matches.fields_eq {numbering : Numbering} {model other : Model}
    (h : model.Matches numbering other) : other.fields = model.fields := by
  rw [h.2, fields_withIdentity]

theorem Matches.eq_renumbered {numbering : Numbering} (hone : numbering.OneToOne) {model other : Model}
    (h : model.Matches numbering other) : other = model.renumbered numbering.rename := by
  rw [renumbered, ← h.1.eq_renumbered hone]
  exact h.2

/-- Whether a composed model can be built does not depend on its number. -/
theorem checked_built (name : String) (fields : List Field) :
    (∃ fault, ∀ serial, (Model.record (.built serial) name none .ignore fields).checked = .error fault) ∨
      ∀ serial, (Model.record (.built serial) name none .ignore fields).checked =
        .ok (.record (.built serial) name none .ignore fields) := by
  cases hfault : (Model.record (.built 0) name none .ignore fields).buildFault? with
  | some fault =>
      refine .inl ⟨fault, ?_⟩
      intro serial
      have hsame : (Model.record (.built serial) name none .ignore fields).buildFault? = some fault :=
        hfault
      rw [checked, hsame]
  | none =>
      refine .inr ?_
      intro serial
      have hsame : (Model.record (.built serial) name none .ignore fields).buildFault? = none := hfault
      rw [checked, hsame]

/-- **Merging matching models** fails alike, or gives matching models once the new numbers are paired. -/
theorem Matches.merge {numbering : Numbering} (hone : numbering.OneToOne) {model other given given' : Model}
    (h : model.Matches numbering other) (hgiven : given.Matches numbering given') (first second : Nat) :
    (∃ fault, model.merge first given = .error fault ∧ other.merge second given' = .error fault) ∨
      ∃ merged merged', model.merge first given = .ok merged ∧ other.merge second given' = .ok merged' ∧
        merged.Matches ((first, second) :: numbering) merged' := by
  have hsame : given.identity = model.identity ↔ given'.identity = other.identity :=
    hgiven.1.eq_iff hone h.1
  rw [Model.merge, Model.merge]
  by_cases hidentity : given.identity = model.identity
  · rw [if_pos hidentity, if_pos (hsame.1 hidentity)]
    exact .inr ⟨model, other, rfl, rfl, h.mono (List.subset_cons_self _ _)⟩
  · rw [if_neg hidentity, if_neg fun heq => hidentity (hsame.2 heq), h.name_eq, h.fields_eq,
      hgiven.name_eq, hgiven.fields_eq]
    rcases checked_built (if model.name = given.name then model.name else model.name ++ given.name)
      (putFields (putFields [] model.fields) given.fields) with ⟨fault, hfault⟩ | hbuilt
    · exact .inl ⟨fault, hfault first, hfault second⟩
    · exact .inr ⟨_, _, hbuilt first, hbuilt second, .built List.mem_cons_self, rfl⟩

end Model

end RouteAtlas.Schema

namespace RouteAtlas.Api

open Schema

/-! ## Requests and records -/

namespace Request

/-- The request with the serial numbers of its schemas changed. -/
def renumbered (rename : Nat → Nat) (request : Request) : Request :=
  { request with
    query := request.query.map (Model.renumbered rename)
    path := request.path.map (Model.renumbered rename)
    header := request.header.map (Model.renumbered rename)
    body := request.body.map (Model.renumbered rename) }

/-- The serial numbers of the schemas of a request. -/
def serials (request : Request) : List Nat :=
  Slot.all.filterMap fun slot => (request.get? slot).bind fun model => model.identity.serial?

/-- Two requests have matching schemas in the same slots. -/
structure Matches (numbering : Numbering) (request other : Request) : Prop where
  contentType : other.contentType = request.contentType
  slots : ∀ slot, Option.Rel (Model.Matches numbering) (request.get? slot) (other.get? slot)

theorem get?_renumbered (rename : Nat → Nat) (request : Request) (slot : Slot) :
    (request.renumbered rename).get? slot = (request.get? slot).map (Model.renumbered rename) := by
  cases slot <;> rfl

/-- A request is what it holds in its slots, and its content type. -/
theorem eq_of_slots {request other : Request} (hcontent : request.contentType = other.contentType)
    (hslots : ∀ slot, request.get? slot = other.get? slot) : request = other := by
  rcases request with ⟨query, path, header, body, contentType⟩
  rcases other with ⟨query', path', header', body', contentType'⟩
  obtain rfl : query = query' := hslots .query
  obtain rfl : path = path' := hslots .path
  obtain rfl : header = header' := hslots .header
  obtain rfl : body = body' := hslots .body
  obtain rfl : contentType = contentType' := hcontent
  rfl

theorem Matches.mono {numbering wider : Numbering} {request other : Request}
    (h : request.Matches numbering other) (hwider : numbering ⊆ wider) :
    request.Matches wider other := by
  have hwiden : ∀ {held held' : Option Model}, Option.Rel (Model.Matches numbering) held held' →
      Option.Rel (Model.Matches wider) held held' := by
    intro held held' hrel
    cases hrel with
    | some hmodel => exact .some (hmodel.mono hwider)
    | none => exact .none
  exact ⟨h.contentType, fun slot => hwiden (h.slots slot)⟩

theorem Matches.set {numbering : Numbering} {request other : Request} {model model' : Model}
    (h : request.Matches numbering other) (hmodel : model.Matches numbering model') (slot : Slot) :
    (request.set slot model).Matches numbering (other.set slot model') := by
  refine ⟨?_, ?_⟩
  · cases slot <;> exact h.contentType
  · intro place
    by_cases hplace : place = slot
    · subst hplace
      rw [get?_set_self, get?_set_self]
      exact .some hmodel
    · rw [get?_set_of_ne _ _ hplace, get?_set_of_ne _ _ hplace]
      exact h.slots place

/-- **Putting matching schemas in matching requests** fails alike, or gives matching requests. -/
theorem Matches.assign {numbering : Numbering} (hone : numbering.OneToOne) {request other : Request}
    {model model' : Model} (h : request.Matches numbering other)
    (hmodel : model.Matches numbering model') (slot : Slot) (first second : Nat) :
    (∃ fault, request.assign first slot model = .error fault ∧
        other.assign second slot model' = .error fault) ∨
      ∃ assigned assigned', request.assign first slot model = .ok assigned ∧
        other.assign second slot model' = .ok assigned' ∧
        assigned.Matches ((first, second) :: numbering) assigned' := by
  have hwider : numbering ⊆ (first, second) :: numbering := List.subset_cons_self _ _
  have hslot := h.slots slot
  rw [Request.assign, Request.assign]
  cases hheld : request.get? slot with
  | none =>
      rw [hheld] at hslot
      cases hheld' : other.get? slot with
      | none => exact .inr ⟨_, _, rfl, rfl, (h.set hmodel slot).mono hwider⟩
      | some current' =>
          rw [hheld'] at hslot
          cases hslot
  | some current =>
      rw [hheld] at hslot
      cases hheld' : other.get? slot with
      | none =>
          rw [hheld'] at hslot
          cases hslot
      | some current' =>
          rw [hheld'] at hslot
          cases hslot with
          | some hcurrent =>
              rcases hcurrent.merge hone hmodel first second with
                ⟨fault, hfault, hfault'⟩ | ⟨merged, merged', hmerged, hmerged', hmatches⟩
              · refine .inl ⟨fault, ?_, ?_⟩
                · simp only [hfault, Except.map]
                · simp only [hfault', Except.map]
              · refine .inr ⟨request.set slot merged, other.set slot merged', ?_, ?_, ?_⟩
                · simp only [hmerged, Except.map]
                · simp only [hmerged', Except.map]
                · exact (h.mono hwider).set hmatches slot

theorem Matches.eq_renumbered {numbering : Numbering} (hone : numbering.OneToOne)
    {request other : Request} (h : request.Matches numbering other) :
    other = request.renumbered numbering.rename := by
  have hheld : ∀ {held held' : Option Model}, Option.Rel (Model.Matches numbering) held held' →
      held' = held.map (Model.renumbered numbering.rename) := by
    intro held held' hrel
    cases hrel with
    | some hmodel => rw [Option.map_some, hmodel.eq_renumbered hone]
    | none => rfl
  refine eq_of_slots h.contentType ?_
  intro slot
  rw [get?_renumbered]
  exact hheld (h.slots slot)

theorem Matches.exists_pair {numbering : Numbering} {request other : Request}
    (h : request.Matches numbering other) {serial : Nat} (hserial : serial ∈ request.serials) :
    ∃ second, (serial, second) ∈ numbering := by
  obtain ⟨slot, -, hslot⟩ := List.mem_filterMap.1 hserial
  obtain ⟨model, hmodel, hnumber⟩ := Option.bind_eq_some_iff.1 hslot
  have hrel := h.slots slot
  rw [hmodel] at hrel
  cases hother : other.get? slot with
  | none =>
      rw [hother] at hrel
      cases hrel
  | some model' =>
      rw [hother] at hrel
      cases hrel with
      | some hmatches => exact hmatches.1.exists_pair hnumber

end Request

namespace Record

/-- The record with the serial numbers of its schemas changed. -/
def renumbered (rename : Nat → Nat) (record : Record) : Record :=
  { record with request := record.request.renumbered rename }

/-- The serial numbers of the request schemas of a record. -/
def serials (record : Record) : List Nat := record.request.serials

/-- Two records are the same but for their requests, which match. -/
def Matches (numbering : Numbering) (record other : Record) : Prop :=
  other = { record with request := other.request } ∧ record.request.Matches numbering other.request

theorem Matches.mono {numbering wider : Numbering} {record other : Record}
    (h : record.Matches numbering other) (hwider : numbering ⊆ wider) : record.Matches wider other :=
  ⟨h.1, h.2.mono hwider⟩

theorem Matches.key_eq {numbering : Numbering} {record other : Record}
    (h : record.Matches numbering other) : other.key = record.key := by
  rw [h.1]
  rfl

theorem Matches.eq_renumbered {numbering : Numbering} (hone : numbering.OneToOne)
    {record other : Record} (h : record.Matches numbering other) :
    other = record.renumbered numbering.rename := by
  rw [renumbered, ← h.2.eq_renumbered hone]
  exact h.1

/-- The second record is the first one renumbered, with different numbers kept different. -/
def EqUpToSerials (record other : Record) : Prop :=
  ∃ rename, other = record.renumbered rename ∧ Set.InjOn rename {serial | serial ∈ record.serials}

/-- **Records that match are equal up to serial numbers.** -/
theorem Matches.eqUpToSerials {numbering : Numbering} (hone : numbering.OneToOne)
    {record other : Record} (h : record.Matches numbering other) : record.EqUpToSerials other := by
  refine ⟨numbering.rename, h.eq_renumbered hone, hone.injOn_rename ?_⟩
  intro serial hserial
  exact h.2.exists_pair hserial

end Record

/-! ## Documents -/

namespace Document

/-- The document with the serial numbers of its request schemas changed. -/
def renumbered (rename : Nat → Nat) (document : Document) : Document :=
  { document with
    endpoints := document.endpoints.map fun entry => (entry.1, entry.2.renumbered rename) }

/-- The serial numbers of the request schemas of a document. -/
def serials (document : Document) : List Nat := document.records.flatMap Record.serials

/-- Two entries have the same key and matching records. -/
def EntriesMatch (numbering : Numbering) (entry entry' : (String × String) × Record) : Prop :=
  entry'.1 = entry.1 ∧ entry.2.Matches numbering entry'.2

/-- Two documents have the same security schemes and matching records under the same keys. -/
structure Matches (numbering : Numbering) (document other : Document) : Prop where
  schemes : other.schemes = document.schemes
  endpoints : List.Forall₂ (EntriesMatch numbering) document.endpoints other.endpoints

theorem Matches.mono {numbering wider : Numbering} {document other : Document}
    (h : document.Matches numbering other) (hwider : numbering ⊆ wider) :
    document.Matches wider other := by
  refine ⟨h.schemes, h.endpoints.imp ?_⟩
  rintro entry entry' ⟨hkey, hrecord⟩
  exact ⟨hkey, hrecord.mono hwider⟩

theorem matches_of_endpoints_eq_nil {document : Document} (h : document.endpoints = [])
    (numbering : Numbering) : document.Matches numbering document := by
  refine ⟨rfl, ?_⟩
  rw [h]
  exact .nil

/-- Matching records are entered at the same place. -/
theorem forall₂_put {numbering : Numbering} {table table' : Table (String × String) Record}
    (h : List.Forall₂ (EntriesMatch numbering) table table')
    (key : String × String) {record record' : Record} (hrecord : record.Matches numbering record') :
    List.Forall₂ (EntriesMatch numbering) (table.put key record) (table'.put key record') := by
  induction h with
  | nil => exact .cons ⟨rfl, hrecord⟩ .nil
  | @cons entry entry' rest rest' hentry hrest ih =>
      rcases entry with ⟨k, v⟩
      rcases entry' with ⟨k', v'⟩
      obtain ⟨hkey, hvalue⟩ := hentry
      obtain rfl : k' = k := hkey
      rw [Table.put, Table.put]
      by_cases hk : k' = key
      · rw [if_pos hk, if_pos hk]
        exact .cons ⟨rfl, hrecord⟩ hrest
      · rw [if_neg hk, if_neg hk]
        exact .cons ⟨rfl, hvalue⟩ ih

/-- Matching entries are renumbered one by one. -/
theorem entries_eq_renumbered {numbering : Numbering} (hone : numbering.OneToOne)
    {table table' : Table (String × String) Record}
    (h : List.Forall₂ (EntriesMatch numbering) table table') :
    table' = table.map fun entry => (entry.1, entry.2.renumbered numbering.rename) := by
  induction h with
  | nil => rfl
  | @cons entry entry' rest rest' hentry _ ih =>
      obtain ⟨hkey, hrecord⟩ := hentry
      rw [List.map_cons, ← ih, ← hrecord.eq_renumbered hone, ← hkey]

theorem exists_of_forall₂ {numbering : Numbering} {table table' : Table (String × String) Record}
    (h : List.Forall₂ (EntriesMatch numbering) table table') {entry : (String × String) × Record}
    (hentry : entry ∈ table) : ∃ entry' ∈ table', EntriesMatch numbering entry entry' := by
  induction h with
  | nil => cases hentry
  | @cons first first' rest rest' hfirst _ ih =>
      rcases List.mem_cons.1 hentry with rfl | hrest
      · exact ⟨first', List.mem_cons_self, hfirst⟩
      · obtain ⟨entry', hmem, hmatch⟩ := ih hrest
        exact ⟨entry', List.mem_cons_of_mem _ hmem, hmatch⟩

theorem Matches.register {numbering : Numbering} {document other : Document} {record record' : Record}
    (h : document.Matches numbering other) (hrecord : record.Matches numbering record') :
    (document.register record).Matches numbering (other.register record') := by
  refine ⟨h.schemes, ?_⟩
  show List.Forall₂ _ (document.endpoints.put record.key record)
    (other.endpoints.put record'.key record')
  rw [hrecord.key_eq]
  exact forall₂_put h.endpoints record.key hrecord

theorem Matches.exists_pair {numbering : Numbering} {document other : Document}
    (h : document.Matches numbering other) {serial : Nat} (hserial : serial ∈ document.serials) :
    ∃ second, (serial, second) ∈ numbering := by
  obtain ⟨record, hrecord, hnumber⟩ := List.mem_flatMap.1 hserial
  obtain ⟨entry, hentry, rfl⟩ := List.mem_map.1 hrecord
  obtain ⟨entry', -, -, hmatches⟩ := exists_of_forall₂ h.endpoints hentry
  exact hmatches.2.exists_pair hnumber

/-- The second document is the first one renumbered, with different numbers kept different. -/
def EqUpToSerials (document other : Document) : Prop :=
  ∃ rename, other = document.renumbered rename ∧
    Set.InjOn rename {serial | serial ∈ document.serials}

/-- **Documents that match are equal up to serial numbers.** -/
theorem Matches.eqUpToSerials {numbering : Numbering} (hone : numbering.OneToOne)
    {document other : Document} (h : document.Matches numbering other) :
    document.EqUpToSerials other := by
  refine ⟨numbering.rename, ?_, hone.injOn_rename ?_⟩
  · rcases other with ⟨endpoints, schemes⟩
    obtain rfl : schemes = document.schemes := h.schemes
    obtain rfl : endpoints = _ := entries_eq_renumbered hone h.endpoints
    rfl
  · intro serial hserial
    exact h.exists_pair hserial

end Document

end RouteAtlas.Api
