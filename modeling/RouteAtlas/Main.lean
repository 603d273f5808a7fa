import RouteAtlas.CommandLine.Run

/-!
# The program

The program shows the working directory to a command as a disk, runs it, writes back the folders and
files that it made or changed, and prints what it leaves behind.
-/

set_option autoImplicit false

namespace RouteAtlas

/-- The files below a folder of the working directory, each under its segments. -/
partial def gather (segments : List String) : IO (Table (List Text) ByteArray) := do
  let folder := System.mkFilePath ("." :: segments)
  let mut files : Table (List Text) ByteArray := []
  for entry in ← folder.readDir do
    let inner := segments ++ [entry.fileName]
    if ← entry.path.isDir then
      files := files ++ (← gather inner)
    else
      files := files ++ [(inner.map fun name => Text.spelled name.toList,
        ← IO.FS.readBinFile entry.path)]
  pure files

/-- A path below the working directory. -/
def located (segments : List Text) : String :=
  String.ofList (Text.unspelled (Text.join ['/'] (['.'] :: segments)))

/-- Writes back what differs between two disks. -/
def store (before after : Disk) : IO Unit := do
  for folder in after.folders do
    IO.FS.createDirAll (located folder)
  for (segments, bytes) in after.files do
    if before.files.get? segments != some bytes then
      IO.FS.createDirAll (located segments.dropLast)
      IO.FS.writeBinFile (located segments) bytes

/-- A string with its characters spelled in another way. -/
def respelled (spelling : Text → Text) (text : String) : String := String.ofList (spelling text.toList)

end RouteAtlas

open RouteAtlas

/-- Runs a command in the working directory. -/
def main (arguments : List String) : IO UInt32 := do
  let disk : Disk := { files := ← gather [], folders := [] }
  let root ← IO.currentDir
  let outcome := CommandLine.run .strict (respelled Text.spelled root.toString) disk
    (arguments.map (respelled Text.spelled))
  store disk outcome.disk
  IO.print (respelled Text.unspelled outcome.output)
  IO.eprint (respelled Text.unspelled outcome.report)
  pure outcome.exitCode.toUInt32
