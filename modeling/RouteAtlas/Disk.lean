import RouteAtlas.Path
import RouteAtlas.Table
import RouteAtlas.Text.Surrogate

/-!
# A disk as a value

A disk holds the files below a working directory, each as its bytes, and the folders that exist there.
Paths are looked up segment by segment, a double dot going up. Folders above the working directory are
written as double dots; besides what was made there, nothing exists in them. Names and paths that are
too long are refused, and a path with a null character or half a character cannot be asked for at all.
Reading a text demands valid UTF-8 and turns every line ending into a newline. Folders are made with
their parents, and writing a file replaces its contents.
-/

set_option autoImplicit false

namespace RouteAtlas

open Text

/-- A refusal of the disk, with the path it was asked for. -/
inductive DiskError where
  | missing (path : Path)
  | occupied (path : Path)
  | notFolder (path : Path)
  | isFolder (path : Path)
  | tooLong (path : Path)
  deriving DecidableEq, Repr, Inhabited

/-- The wording of a refusal. -/
def DiskError.message : DiskError → String
  | .missing path => shown "[Errno 2] No such file or directory: " path
  | .occupied path => shown "[Errno 17] File exists: " path
  | .notFolder path => shown "[Errno 20] Not a directory: " path
  | .isFolder path => shown "[Errno 21] Is a directory: " path
  | .tooLong path => shown "[Errno 36] File name too long: " path
where
  /-- A cause and a quoted path. -/
  shown (cause : String) (path : Path) : String := cause ++ String.ofList (quoted path.text)

/-- Why no disk can be asked for a path. -/
inductive PathFault where
  | nullCharacter
  | loneSurrogate
  deriving DecidableEq, Repr, Inhabited

/-- The wording for a path with a null character. -/
def nullCharacterMessage : String := "embedded null byte"

/-- A surrogate other than those that stand for single bytes. -/
def isUnencodable (code : Nat) : Bool :=
  isSurrogate code && !(0xDC80 ≤ code && code ≤ 0xDCFF)

/-- What keeps a path from being asked for. -/
def Path.fault? (path : Path) : Option PathFault :=
  if (codePoints path.text).any isUnencodable then some .loneSurrogate
  else if path.text.contains '\x00' then some .nullCharacter
  else none

/-- Why a text could not be read. -/
inductive ReadError where
  | disk (error : DiskError)
  | path (fault : PathFault)
  | undecodable
  deriving DecidableEq, Repr, Inhabited

/-- Reads the text of a file. -/
abbrev Reader := Path → Except ReadError Text

/-- The files below a working directory and the folders made there. -/
structure Disk where
  files : Table (List Text) ByteArray
  folders : List (List Text)

namespace Disk

/-- A disk without files. -/
def empty : Disk := { files := [], folders := [] }

instance : Inhabited Disk := ⟨empty⟩

/-- What a path leads to. -/
inductive Place where
  /-- A folder below or above the working directory, by its segments. -/
  | folder (segments : List Text)
  /-- The folder that absolute paths start from. -/
  | root
  | file (segments : List Text) (bytes : ByteArray)
  /-- A name that is free in an existing folder. -/
  | free (segments : List Text)
  | missing
  /-- A path that goes on behind a file. -/
  | blocked
  /-- A path with a name that is too long. -/
  | tooLong

/-- The longest name of a file, in bytes. -/
def maxNameLength : Nat := 255

/-- The length in bytes that paths stay below. -/
def maxPathLength : Nat := 4096

/-- The number of bytes of a text; a surrogate stands for one. -/
def byteLength (text : Text) : Nat :=
  (codePoints text).foldl
    (fun total code => total + if isSurrogate code then 1 else (Char.ofNat code).utf8Size) 0

/-- A segment that goes up. -/
def isUp (segment : Text) : Bool := segment == ['.', '.']

/-- A list of segments names a folder. -/
def isFolder (disk : Disk) (segments : List Text) : Bool :=
  segments.all isUp || disk.folders.any (fun folder => segments.isPrefixOf folder)
    || disk.files.any fun entry => segments.isPrefixOf entry.1 && segments.length < entry.1.length

/-- One step from a place to a segment. -/
def step (disk : Disk) (place : Place) (segment : Text) : Place :=
  match place with
  | .folder segments =>
      if isUp segment then
        .folder (if segments.all isUp then segments ++ [segment] else segments.dropLast)
      else if byteLength segment > maxNameLength then .tooLong
      else
        let target := segments ++ [segment]
        match disk.files.get? target with
        | some bytes => .file target bytes
        | none => if disk.isFolder target then .folder target else .free target
  | .root =>
      if isUp segment then .root
      else if byteLength segment > maxNameLength then .tooLong
      else .missing
  | .file _ _ => .blocked
  | .free _ => .missing
  | .missing => .missing
  | .blocked => .blocked
  | .tooLong => .tooLong

/-- The place a path leads to. -/
def place (disk : Disk) (path : Path) : Place :=
  if byteLength path.text ≥ maxPathLength then .tooLong
  else path.segments.foldl disk.step (if path.isAbsolute then .root else .folder [])

/-- The first path of a list that leads to a file. A path that cannot be asked for leads nowhere. -/
def firstFile (disk : Disk) : List Path → Except DiskError (Option Path)
  | [] => .ok none
  | path :: rest =>
      match path.fault?, disk.place path with
      | none, .file _ _ => .ok (some path)
      | none, .tooLong => .error (.tooLong path)
      | _, _ => disk.firstFile rest

/-- Turns every line ending into a newline. -/
def unifyNewlines : Text → Text
  | [] => []
  | '\r' :: '\n' :: rest => '\n' :: unifyNewlines rest
  | '\r' :: rest => '\n' :: unifyNewlines rest
  | c :: rest => c :: unifyNewlines rest

/-- The bytes of the file a path leads to. -/
def bytes (disk : Disk) (path : Path) : Except DiskError ByteArray :=
  match disk.place path with
  | .file _ bytes => .ok bytes
  | .folder _ => .error (.isFolder path)
  | .root => .error (.isFolder path)
  | .blocked => .error (.notFolder path)
  | .free _ => .error (.missing path)
  | .missing => .error (.missing path)
  | .tooLong => .error (.tooLong path)

/-- The spelled text that bytes denote. -/
def decode (bytes : ByteArray) : Except ReadError Text :=
  match String.fromUTF8? bytes with
  | some text => .ok (spelled (unifyNewlines text.toList))
  | none => .error .undecodable

/-- The bytes of a spelled text. -/
def encode (text : Text) : ByteArray := (String.ofList (unspelled text)).toUTF8

/-- The text of the file a path leads to. -/
def read (disk : Disk) (path : Path) : Except ReadError Text :=
  match path.fault? with
  | some fault => .error (.path fault)
  | none =>
      match disk.bytes path with
      | .ok bytes => decode bytes
      | .error error => .error (.disk error)

/-- Makes one folder. -/
def makeFolder (disk : Disk) (path : Path) : Except DiskError Disk :=
  match disk.place path with
  | .free segments => .ok { disk with folders := disk.folders ++ [segments] }
  | .missing => .error (.missing path)
  | .blocked => .error (.notFolder path)
  | .file _ _ => .error (.occupied path)
  | .folder _ => .ok disk
  | .root => .ok disk
  | .tooLong => .error (.tooLong path)

/-- Makes a folder and the parents it needs, outermost first. An existing folder is left alone. -/
def makeFolders (disk : Disk) (path : Path) : Except DiskError Disk :=
  let rec make : Nat → Path → Except DiskError Disk
    | 0, path => disk.makeFolder path
    | depth + 1, path =>
        match disk.place path with
        | .missing => do
            let disk ← make depth path.parent
            disk.makeFolder path
        | _ => disk.makeFolder path
  make path.segments.length path

/-- Writes a text to a file. -/
def write (disk : Disk) (path : Path) (text : String) : Except DiskError Disk :=
  match disk.place path with
  | .file segments _ => .ok { disk with files := disk.files.put segments (encode text.toList) }
  | .free segments => .ok { disk with files := disk.files.put segments (encode text.toList) }
  | .folder _ => .error (.isFolder path)
  | .root => .error (.isFolder path)
  | .blocked => .error (.notFolder path)
  | .missing => .error (.missing path)
  | .tooLong => .error (.tooLong path)

/-- Deletes a file. -/
def remove (disk : Disk) (path : Path) : Except DiskError Disk :=
  match disk.place path with
  | .file segments _ =>
      .ok { files := disk.files.drop segments, folders := disk.folders ++ [segments.dropLast] }
  | .folder _ => .error (.isFolder path)
  | .root => .error (.isFolder path)
  | .blocked => .error (.notFolder path)
  | .free _ => .error (.missing path)
  | .missing => .error (.missing path)
  | .tooLong => .error (.tooLong path)

/-- The files below the working directory that are not there on an earlier disk. -/
def newFiles (disk earlier : Disk) : Table (List Text) ByteArray :=
  disk.files.filter fun (segments, _) =>
    !segments.head?.any isUp && (earlier.files.get? segments).isNone

/-- The absolute path of a file, written with the path of the working directory. -/
def absolute (root : String) (path : Path) : String :=
  let path := path.normalize
  if path.isAbsolute then path.toString
  else if path.segments.isEmpty then root
  else root ++ "/" ++ path.toString

end Disk

end RouteAtlas
