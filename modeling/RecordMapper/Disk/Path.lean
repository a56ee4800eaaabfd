import RecordMapper.Text.Lines

/-!
# Paths

File paths as they are written: a root and named parts. Empty parts and single dots vanish, double
dots stay, since what they mean depends on the directories that exist.
-/
namespace RecordMapper.Disk

open RecordMapper.Text

/-- `root` is empty for a relative path and one or two slashes for an absolute one. -/
structure Path where
  root : String
  parts : List String
  deriving DecidableEq, Repr

namespace Path

/-- The path without any part. -/
def here : Path := ⟨"", []⟩

/-- The root of a written path: exactly two leading slashes are kept, more count as one. -/
def rootOf (s : String) : String :=
  match (s.toList.takeWhile (· = '/')).length with
  | 0 => ""
  | 2 => "//"
  | _ => "/"

def ofString (s : String) : Path :=
  ⟨rootOf s, (split '/' s).filter fun part => part ≠ "" && part ≠ "."⟩

/-- One path below another; an absolute path stands for itself. -/
def append (base path : Path) : Path :=
  if path.root = "" then ⟨base.root, base.parts ++ path.parts⟩ else path

instance : Append Path := ⟨append⟩

/-- The path through several written segments. -/
def ofSegments (segments : List String) : Path :=
  segments.foldl (fun path segment => path ++ ofString segment) here

def toString (path : Path) : String :=
  if path.root = "" && path.parts.isEmpty then "." else path.root ++ join "/" path.parts

/-- The path without its last part. -/
def parent (path : Path) : Path := ⟨path.root, path.parts.dropLast⟩

/-- The last part, empty when there is none. -/
def name (path : Path) : String := path.parts.getLast?.getD ""

/-- The last part from its last dot on. A dot at the beginning or at the end does not count. -/
def suffix (path : Path) : String :=
  let reversed := path.name.toList.reverse
  let ending := reversed.takeWhile (· ≠ '.')
  let before := (reversed.drop ending.length).drop 1
  if ending.isEmpty || before.isEmpty then "" else String.ofList ('.' :: ending.reverse)

end Path

/-- The directory of a package below a source directory. -/
def packagePath (package : String) : Path :=
  if package.isEmpty then Path.here else Path.ofSegments (split '.' package)

end RecordMapper.Disk
