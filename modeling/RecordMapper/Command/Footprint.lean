import RecordMapper.Command.Run

/-!
# Footprints

The part of a disk that a run of the command looks at or changes. The input comes first; where the
output goes is known only once the input is, so the footprint of a disk that lacks the input holds
the input alone.
-/
namespace RecordMapper

open RecordMapper.Config RecordMapper.Disk RecordMapper.Output RecordMapper.Schema
open RecordMapper.Text

namespace Disk

/-- The paths that lead to a path, the shortest first and the path itself last. -/
def Path.stages (path : Path) : List Path :=
  (List.range path.parts.length).map fun n => ⟨path.root, path.parts.take (n + 1)⟩

/-- A disk on which nothing is known but the way to the working directory. -/
def unseen (here : Location) : Disk where
  entries := (List.range here.length).map fun n => (here.drop n, .directory)
  here

/-- What differs on a later disk, directories before what is in them. -/
def changes (before after : Disk) : List (Location × Entry) :=
  (after.entries.filter fun e => before.nodeAt e.1 ≠ some e.2).mergeSort fun a b =>
    a.1.length ≤ b.1.length

/-- A place as a path from the root. -/
def pathOf (location : Location) : Path := ⟨"/", location.reverse⟩

end Disk

namespace Command

/-- Where the sources of a table go; nowhere when its class has no usable name. -/
def sourcePaths (t : TableOutput) : List Path :=
  match t.resolvedName with
  | .ok name => [Target.model, Target.spec, Target.arbitrary].map fun of => (of t.config name).path
  | .error _ => []

/-- Where the output for loaded input goes. -/
def outputPaths (a : Arguments) (input : Input) : List Path :=
  let named := classNames a input
  (input.tables.flatMap fun table => sourcePaths ⟨input.config, table, named.lookup table.name⟩) ++
    a.manifest.toList.map Path.ofString

/-- The paths that a run depends on, as far as the disk tells. A path that no file can have is left
out. -/
def footprint (words : List String) (disk : Disk) : List Path :=
  match Arguments.parse words with
  | .error _ => []
  | .ok a =>
    match inputPath a disk, load a disk with
    | .error _, _ => []
    | .ok path, .error _ => [path]
    | .ok path, .ok input =>
      path :: (outputPaths a input).filter fun path => !path.parts.any hasNul

end Command

end RecordMapper
