import RouteAtlas.Disk
import RouteAtlas.Proofs.Table

/-!
# Reading from a disk and writing to it

A path that leads to a file leads to one of the files of the disk, and the text that is read there is
what the bytes of that file denote. Making folders changes no file. Writing a text changes one file at
most, and afterwards the path it was written to leads to a file that holds the text.
-/

set_option autoImplicit false

namespace RouteAtlas.Disk

/-- A place that claims to be a file of the disk is one. -/
def Stands (disk : Disk) (place : Place) : Prop :=
  ∀ segments bytes, place = .file segments bytes → disk.files.get? segments = some bytes

theorem stands_step (disk : Disk) (place : Place) (segment : Text) :
    disk.Stands (disk.step place segment) := by
  intro segments bytes hstep
  cases place with
  | folder folder =>
      simp only [step] at hstep
      split at hstep
      · cases hstep
      · split at hstep
        · cases hstep
        · split at hstep
          · rename_i hget
            cases hstep
            exact hget
          · split at hstep
            · cases hstep
            · cases hstep
  | root =>
      simp only [step] at hstep
      split at hstep
      · cases hstep
      · split at hstep
        · cases hstep
        · cases hstep
  | file => cases hstep
  | free => cases hstep
  | missing => cases hstep
  | blocked => cases hstep
  | tooLong => cases hstep

theorem Stands.foldl {disk : Disk} {place : Place} (h : disk.Stands place) (segments : List Text) :
    disk.Stands (segments.foldl disk.step place) := by
  induction segments generalizing place with
  | nil => exact h
  | cons segment rest ih => exact ih (stands_step disk place segment)

theorem stands_place (disk : Disk) (path : Path) : disk.Stands (disk.place path) := by
  intro segments bytes hplace
  rw [place] at hplace
  split at hplace
  · cases hplace
  -- a path is looked up from a folder, and only a step can lead to a file
  · refine Stands.foldl ?_ path.segments segments bytes hplace
    intro segments bytes hstart
    split at hstart
    · cases hstart
    · cases hstart

/-- The bytes of a text denote it, spelled and with its line endings unified. -/
theorem decode_toUTF8 (text : String) :
    decode text.toUTF8 = .ok (Text.spelled (unifyNewlines text.toList)) := by
  rw [decode, String.fromUTF8?, String.toUTF8_eq_toByteArray, dif_pos text.isValidUTF8]
  rfl

/-- What is read is the text of a file of the disk. -/
theorem mem_of_read {disk : Disk} {path : Path} {text : Text} (h : disk.read path = .ok text) :
    ∃ entry ∈ disk.files, decode entry.2 = .ok text := by
  rw [read] at h
  split at h
  · cases h
  · split at h
    · rename_i bytes hbytes
      rw [Disk.bytes] at hbytes
      split at hbytes
      · rename_i segments found hplace
        cases hbytes
        exact ⟨_, Table.mem_of_get? (stands_place disk path _ _ hplace), h⟩
      all_goals cases hbytes
    · cases h

/-! ## Making folders -/

theorem files_of_makeFolder {disk stop : Disk} {path : Path} (h : disk.makeFolder path = .ok stop) :
    stop.files = disk.files := by
  rw [makeFolder] at h
  split at h
  all_goals cases h
  all_goals rfl

theorem files_of_make {disk : Disk} {depth : Nat} {path : Path} {stop : Disk}
    (h : makeFolders.make disk depth path = .ok stop) : stop.files = disk.files := by
  induction depth generalizing path stop with
  | zero => exact files_of_makeFolder h
  | succ depth ih =>
      rw [makeFolders.make] at h
      split at h
      -- the parents are made first
      · cases hparent : makeFolders.make disk depth path.parent with
        | error error =>
            rw [hparent] at h
            cases h
        | ok middle =>
            rw [hparent] at h
            have hlast : middle.makeFolder path = .ok stop := h
            rw [files_of_makeFolder hlast, ih hparent]
      · exact files_of_makeFolder h

theorem files_of_makeFolders {disk stop : Disk} {path : Path}
    (h : disk.makeFolders path = .ok stop) : stop.files = disk.files :=
  files_of_make h

/-! ## Writing -/

/-- The segments of the file that a text written to a place goes to. -/
def Place.spot? : Place → Option (List Text)
  | .file segments _ => some segments
  | .free segments => some segments
  | _ => none

/-- A disk with a file entered. -/
def withFile (disk : Disk) (segments : List Text) (bytes : ByteArray) : Disk :=
  { disk with files := disk.files.put segments bytes }

/-- Nothing but a file stands under the segments. -/
def Clear (disk : Disk) (segments : List Text) : Prop :=
  disk.files.get? segments = none → disk.isFolder segments = false

/-- The places that one step from a folder can lead to. -/
inductive Enters (disk : Disk) (folder : List Text) (segment : Text) : Place → Prop
  | up (hup : isUp segment = true) :
      Enters disk folder segment
        (.folder (if folder.all isUp then folder ++ [segment] else folder.dropLast))
  | tooLong (hup : isUp segment = false) (hlength : byteLength segment > maxNameLength) :
      Enters disk folder segment .tooLong
  | file {bytes : ByteArray} (hup : isUp segment = false)
      (hlength : ¬ byteLength segment > maxNameLength)
      (hget : disk.files.get? (folder ++ [segment]) = some bytes) :
      Enters disk folder segment (.file (folder ++ [segment]) bytes)
  | folder (hup : isUp segment = false) (hlength : ¬ byteLength segment > maxNameLength)
      (hget : disk.files.get? (folder ++ [segment]) = none)
      (hfolder : disk.isFolder (folder ++ [segment]) = true) :
      Enters disk folder segment (.folder (folder ++ [segment]))
  | free (hup : isUp segment = false) (hlength : ¬ byteLength segment > maxNameLength)
      (hget : disk.files.get? (folder ++ [segment]) = none)
      (hfolder : disk.isFolder (folder ++ [segment]) = false) :
      Enters disk folder segment (.free (folder ++ [segment]))

theorem enters_step (disk : Disk) (folder : List Text) (segment : Text) :
    disk.Enters folder segment (disk.step (.folder folder) segment) := by
  cases hup : isUp segment with
  | true =>
      simp only [step, hup, if_true]
      exact .up hup
  | false =>
      by_cases hlength : byteLength segment > maxNameLength
      · simp only [step, hup, hlength, Bool.false_eq_true, if_false, if_true]
        exact .tooLong hup hlength
      · simp only [step, hup, hlength, Bool.false_eq_true, if_false]
        cases hget : disk.files.get? (folder ++ [segment]) with
        | some bytes => exact .file hup hlength hget
        | none =>
            cases hfolder : disk.isFolder (folder ++ [segment]) with
            | true => exact .folder hup hlength hget hfolder
            | false => exact .free hup hlength hget hfolder

theorem Enters.step_eq {disk : Disk} {folder : List Text} {segment : Text} {place : Place}
    (h : disk.Enters folder segment place) : disk.step (.folder folder) segment = place := by
  cases h with
  | up hup => simp only [step, hup, if_true]
  | tooLong hup hlength => simp only [step, hup, hlength, Bool.false_eq_true, if_false, if_true]
  | file hup hlength hget => simp only [step, hup, hlength, hget, Bool.false_eq_true, if_false]
  | folder hup hlength hget hfolder =>
      simp only [step, hup, hlength, hget, hfolder, Bool.false_eq_true, if_false, if_true]
  | free hup hlength hget hfolder =>
      simp only [step, hup, hlength, hget, hfolder, Bool.false_eq_true, if_false]

/-- A step leads to no place for a text but from a folder. -/
theorem spot?_step {disk : Disk} {place : Place} {segment : Text} {segments : List Text}
    (h : (disk.step place segment).spot? = some segments) : ∃ folder, place = .folder folder := by
  cases place with
  | folder folder => exact ⟨folder, rfl⟩
  | root =>
      simp only [step] at h
      split at h
      · cases h
      · split at h
        · cases h
        · cases h
  | file => cases h
  | free => cases h
  | missing => cases h
  | blocked => cases h
  | tooLong => cases h

theorem clear_of_enters {disk : Disk} {folder segments : List Text} {segment : Text} {place : Place}
    (h : disk.Enters folder segment place) (hspot : place.spot? = some segments) :
    disk.Clear segments := by
  intro hnone
  cases h with
  | up => cases hspot
  | tooLong => cases hspot
  | file hup hlength hget =>
      cases hspot
      rw [hget] at hnone
      cases hnone
  | folder => cases hspot
  | free hup hlength hget hfolder =>
      cases hspot
      exact hfolder

/-- A folder is one after a file was entered. -/
theorem isFolder_withFile {disk : Disk} {folder : List Text} (segments : List Text)
    (bytes : ByteArray) (h : disk.isFolder folder = true) :
    (disk.withFile segments bytes).isFolder folder = true := by
  simp only [isFolder, Bool.or_eq_true, List.any_eq_true] at h ⊢
  rcases h with h | ⟨entry, hentry, hbelow⟩
  · exact .inl h
  · right
    -- the keys of the files are kept, and only these are looked at
    have hkey : entry.1 ∈ Table.keys (disk.files.put segments bytes) := by
      rw [Table.keys_put]
      have hmem : entry.1 ∈ Table.keys disk.files := List.mem_map_of_mem hentry
      split
      · exact hmem
      · exact List.mem_append_left _ hmem
    obtain ⟨other, hother, hsame⟩ := List.mem_map.1 hkey
    exact ⟨other, hother, hsame ▸ hbelow⟩

/-- A file entered where nothing stood in the way leaves a step alone that does not lead to it. -/
theorem Enters.withFile {disk : Disk} {folder segments : List Text} {segment : Text} {place : Place}
    (h : disk.Enters folder segment place) (hspot : place.spot? = none) (hclear : disk.Clear segments)
    (bytes : ByteArray) : (disk.withFile segments bytes).Enters folder segment place := by
  cases h with
  | up hup => exact .up hup
  | tooLong hup hlength => exact .tooLong hup hlength
  | file => cases hspot
  | folder hup hlength hget hfolder =>
      have hne : folder ++ [segment] ≠ segments := by
        rintro rfl
        rw [hclear hget] at hfolder
        cases hfolder
      refine .folder hup hlength ?_ (isFolder_withFile segments bytes hfolder)
      exact (Table.get?_put_of_ne disk.files bytes hne).trans hget
  | free => cases hspot

/-- The step to an entered file leads to it. -/
theorem Enters.file_withFile {disk : Disk} {folder segments : List Text} {segment : Text}
    {place : Place} (h : disk.Enters folder segment place) (hspot : place.spot? = some segments)
    (bytes : ByteArray) :
    (disk.withFile segments bytes).Enters folder segment (.file segments bytes) := by
  cases h with
  | up => cases hspot
  | tooLong => cases hspot
  | file hup hlength hget =>
      cases hspot
      exact .file hup hlength (Table.get?_put_self disk.files _ bytes)
  | folder => cases hspot
  | free hup hlength hget hfolder =>
      cases hspot
      exact .file hup hlength (Table.get?_put_self disk.files _ bytes)

/-- A path that goes on behind a place for a text leads to no such place. -/
theorem spot?_foldl_of_spot {disk : Disk} {place : Place} {segments : List Text}
    (h : place.spot? = some segments) (segment : Text) (rest : List Text) :
    ((segment :: rest).foldl disk.step place).spot? = none := by
  have hover : ∀ next, next = Place.missing ∨ next = Place.blocked →
      (rest.foldl disk.step next).spot? = none := by
    intro next hnext
    induction rest with
    | nil => rcases hnext with rfl | rfl <;> rfl
    | cons segment rest ih => rcases hnext with rfl | rfl <;> exact ih
  cases place with
  | file => exact hover _ (.inr rfl)
  | free => exact hover _ (.inl rfl)
  | folder => cases h
  | root => cases h
  | missing => cases h
  | blocked => cases h
  | tooLong => cases h


/-- **Entering the file that a walk ends at.** The walk takes the same folders and ends at the file. -/
theorem foldl_step_withFile {disk : Disk} {place : Place} {path segments : List Text}
    (hstart : place.spot? = none) (h : (path.foldl disk.step place).spot? = some segments)
    (bytes : ByteArray) :
    disk.Clear segments ∧
      path.foldl (disk.withFile segments bytes).step place = .file segments bytes := by
  induction path generalizing place with
  | nil =>
      rw [List.foldl_nil, hstart] at h
      cases h
  | cons segment rest ih =>
      cases hnext : (disk.step place segment).spot? with
      | some found =>
          -- the walk is over, for nothing lies behind a file or a free name
          cases rest with
          | cons other rest =>
              rw [List.foldl_cons, spot?_foldl_of_spot hnext] at h
              cases h
          | nil =>
              rw [List.foldl_cons, List.foldl_nil, hnext] at h
              cases h
              obtain ⟨folder, rfl⟩ := spot?_step hnext
              have hstep := enters_step disk folder segment
              exact ⟨clear_of_enters hstep hnext, (hstep.file_withFile hnext bytes).step_eq⟩
      | none =>
          obtain ⟨hclear, hrest⟩ := ih hnext h
          refine ⟨hclear, ?_⟩
          have hsame : (disk.withFile segments bytes).step place segment = disk.step place segment := by
            cases place with
            | folder folder =>
                exact ((enters_step disk folder segment).withFile hnext hclear bytes).step_eq
            | root => rfl
            | file => rfl
            | free => rfl
            | missing => rfl
            | blocked => rfl
            | tooLong => rfl
          rw [List.foldl_cons, hsame]
          exact hrest

theorem place_withFile {disk : Disk} {path : Path} {segments : List Text}
    (h : (disk.place path).spot? = some segments) (bytes : ByteArray) :
    (disk.withFile segments bytes).place path = .file segments bytes := by
  rw [place] at h ⊢
  split at h
  · cases h
  · rename_i hlength
    rw [if_neg hlength]
    refine (foldl_step_withFile ?_ h bytes).2
    split
    · rfl
    · rfl

/-- One disk is another with a text written to a path: the path leads to the file under the segments,
which holds the text, and every other file is as it was. -/
structure Replaced (before after : Disk) (path : Path) (segments : List Text) (text : String) :
    Prop where
  place_eq : after.place path = .file segments (encode text.toList)
  other : ∀ other, other ≠ segments → after.files.get? other = before.files.get? other

/-- Every file of a disk is on another one as it was. -/
def Keeps (before after : Disk) : Prop :=
  ∀ segments bytes, before.files.get? segments = some bytes → after.files.get? segments = some bytes

theorem keeps_of_files_eq {before after : Disk} (h : after.files = before.files) :
    before.Keeps after := by
  intro segments bytes hget
  rw [h]
  exact hget

/-- Writing a text keeps every file exactly if there was no other text in its place. -/
theorem Replaced.keeps_iff {before after : Disk} {path : Path} {segments : List Text} {text : String}
    (h : before.Replaced after path segments text) :
    before.Keeps after ↔
      ∀ old, before.files.get? segments = some old → old = encode text.toList := by
  have hget := stands_place after path _ _ h.place_eq
  constructor
  · intro hkeeps old hold
    have hkept := hkeeps segments old hold
    rw [hget] at hkept
    exact (Option.some.inj hkept).symm
  · intro hsame other bytes hbytes
    by_cases heq : other = segments
    · subst heq
      rw [hget, hsame bytes hbytes]
    · rw [h.other other heq]
      exact hbytes

theorem Replaced.of_files_eq {before middle after : Disk} {path : Path} {segments : List Text}
    {text : String} (h : middle.Replaced after path segments text)
    (hfiles : middle.files = before.files) : before.Replaced after path segments text :=
  { place_eq := h.place_eq, other := fun other hne => hfiles ▸ h.other other hne }

theorem exists_replaced_of_write {disk stop : Disk} {path : Path} {text : String}
    (h : disk.write path text = .ok stop) : ∃ segments, disk.Replaced stop path segments text := by
  have hspot : ∃ segments, (disk.place path).spot? = some segments ∧
      stop = disk.withFile segments (encode text.toList) := by
    rw [write] at h
    split at h
    · rename_i segments old hplace
      cases h
      exact ⟨segments, congrArg Place.spot? hplace, rfl⟩
    · rename_i segments hplace
      cases h
      exact ⟨segments, congrArg Place.spot? hplace, rfl⟩
    all_goals cases h
  obtain ⟨segments, hplace, rfl⟩ := hspot
  refine ⟨segments, place_withFile hplace _, ?_⟩
  intro other hne
  exact Table.get?_put_of_ne disk.files _ hne

end RouteAtlas.Disk
