import RecordMapper.Command.Footprint

/-!
# The program

Runs the command on the file system: the part of the disk that the run depends on is read first,
the command runs on it, and what it changed is written back. A file is written under another name
and then moved to its place.
-/
namespace RecordMapper

open RecordMapper.Disk

/-- What is at a path of the file system. -/
def entryAt (path : String) : IO (Option Entry) :=
  tryCatch (do return some (.file (← IO.FS.readBinFile path).toList)) fun
    | .noFileOrDirectory .. => return none
    | .inappropriateType .. => return some .directory
    | cause => throw cause

/-- A disk with what is found at a path. -/
def observeStage (disk : Disk) (path : Path) : IO Disk := do
  match disk.locate path with
  | .error _ => return disk
  | .ok location =>
    match ← entryAt path.toString with
    | some entry => return disk.put location entry
    | none => return disk

/-- A disk with what is found at a path and on the way to it. -/
def observe (disk : Disk) (path : Path) : IO Disk :=
  path.stages.foldlM observeStage disk

/-- Writes an entry to the file system. -/
def store (change : Location × Entry) : IO Unit := do
  let path := (pathOf change.1).toString
  match change.2 with
  | .directory => IO.FS.createDir path
  | .file content =>
    let draft := path ++ ".tmp"
    IO.FS.writeBinFile draft ⟨content.toArray⟩
    IO.FS.rename draft path

end RecordMapper

open RecordMapper in
/-- Exits with 1 when the run ends without an exit code of its own. -/
def main (words : List String) : IO UInt32 := do
  let here := Disk.Path.ofString (← IO.currentDir).toString
  let start := Disk.unseen here.parts.reverse
  let withInput ← (Command.footprint words start).foldlM observe start
  let disk ← (Command.footprint words withInput).foldlM observe withInput
  let (result, after) := Command.run words disk
  (Disk.changes disk after).forM store
  match result with
  | .ok outcome =>
    IO.print outcome.stdout
    IO.eprint outcome.stderr
    return outcome.exit.toUInt32
  | .error failure =>
    IO.eprintln failure.report
    return 1
