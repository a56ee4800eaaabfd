import RecordMapper.Action
import RecordMapper.Disk.Path
import RecordMapper.Text.Encoding

/-!
# The disk

Files and directories as a finite map from places to entries, with a working directory and the code
pages of the host. A path is followed part by part, and every place it passes has to be a directory,
so double dots mean the directory above the one that was reached. There are no links.
-/
namespace RecordMapper

open RecordMapper.Text

namespace Disk

/-- A place: the names on the way to it, the last one first. -/
abbrev Location := List String

inductive Entry where
  | directory
  | file (content : List UInt8)
  deriving DecidableEq, Repr

end Disk

open Disk in
/-- `here` is the working directory, and the code pages are those of the host. The root is a
directory and not listed. -/
structure Disk where
  entries : List (Location × Entry)
  here : Location
  codePages : CodePages := .none

namespace Disk

def nodeAt (d : Disk) : Location → Option Entry
  | [] => some .directory
  | location => d.entries.lookup location

/-- Puts an entry in the place of whatever is there. -/
def put (d : Disk) (location : Location) (entry : Entry) : Disk :=
  { d with entries := (location, entry) :: d.entries.filter fun e => e.1 ≠ location }

theorem nodeAt_put_self (d : Disk) (name : String) (above : Location) (entry : Entry) :
    (d.put (name :: above) entry).nodeAt (name :: above) = some entry := by
  simp [put, nodeAt]

/-- Entries that a filter keeps are found in what it leaves. -/
theorem lookup_filter_of_kept {entries : List (Location × Entry)} {p : Location × Entry → Bool}
    {location : Location} (h : ∀ entry, p (location, entry) = true) :
    (entries.filter p).lookup location = entries.lookup location := by
  induction entries with
  | nil => rfl
  | cons e rest ih =>
    obtain ⟨place, entry⟩ := e
    by_cases hp : location = place
    · subst hp
      simp [h entry]
    · have hne := beq_false_of_ne hp
      rw [List.filter_cons]
      split <;> simp [List.lookup_cons, hne, ih]

theorem nodeAt_put_of_ne {location other : Location} (h : other ≠ location) (d : Disk)
    (entry : Entry) : (d.put location entry).nodeAt other = d.nodeAt other := by
  cases other with
  | nil => rfl
  | cons name above =>
    simp only [nodeAt, put, List.lookup_cons, beq_false_of_ne h]
    exact lookup_filter_of_kept fun _ => decide_eq_true h

/-- Why a path leads nowhere, or not to a new place. -/
inductive Obstacle where
  | missing
  | notDirectory
  | alreadyExists
  deriving DecidableEq, Repr

/-- The failure to create a directory at a path. -/
def Obstacle.failure (path : Path) : Obstacle → Failure
  | missing => .directoryMissing path.toString
  | notDirectory => .notDirectory path.toString
  | alreadyExists => .alreadyExists path.toString

/-- One step from a directory. -/
def step (location : Location) (part : String) : Location :=
  if part = ".." then location.tail else part :: location

/-- The place that parts lead to. All but the last place have to be directories. -/
def follow (d : Disk) : Location → List String → Except Obstacle Location
  | location, [] => .ok location
  | location, part :: rest =>
    match d.nodeAt location with
    | none => .error .missing
    | some (.file _) => .error .notDirectory
    | some .directory => d.follow (step location part) rest

/-- Parts are followed one after another. -/
theorem follow_append (d : Disk) (location : Location) (parts more : List String) :
    d.follow location (parts ++ more) = (d.follow location parts).bind (d.follow · more) := by
  fun_induction follow d location parts with
  | case1 => rfl
  | case2 location part rest h => simp [follow, h, Except.bind]
  | case3 location part rest content h => simp [follow, h, Except.bind]
  | case4 location part rest h ih => simp [follow, h, ih]

/-- The place where a path starts. -/
def start (d : Disk) (path : Path) : Location := if path.root = "" then d.here else []

/-- The place that a path means once all directories on its way exist. -/
def placeOf (d : Disk) (path : Path) : Location := path.parts.foldl step (d.start path)

/-- The place a path means, which may be free. -/
def locate (d : Disk) (path : Path) : Except Obstacle Location :=
  d.follow (d.start path) path.parts

def find? (d : Disk) (path : Path) : Option Entry :=
  match d.locate path with
  | .ok location => d.nodeAt location
  | .error _ => none

def has (d : Disk) (path : Path) : Bool := (d.find? path).isSome

def isDirectory (d : Disk) (path : Path) : Bool := d.find? path = some .directory

/-- The content of a file. -/
def content? (d : Disk) (path : Path) : Option (List UInt8) :=
  match d.find? path with
  | some (.file content) => some content
  | _ => none

/-- Whether a path ends in the name of an entry. -/
def endsInName (path : Path) : Bool :=
  match path.parts.getLast? with
  | some part => part ≠ ".."
  | none => false

/-- A new directory in an existing one. -/
def makeDirectory (d : Disk) (path : Path) : Except Obstacle Disk :=
  match d.locate path with
  | .error obstacle => .error obstacle
  | .ok location =>
    if endsInName path && (d.nodeAt location).isNone then .ok (d.put location .directory)
    else .error .alreadyExists

/-- A change of the disk. -/
abbrev Change (α : Type) := Action Disk α

namespace Change

variable {α : Type}

/-- Runs a change. -/
abbrev on (d : Disk) (change : Change α) : Except Failure α × Disk := Action.on d change

end Change

/-- A directory that cannot be made anew is fine when it is there already. -/
def acceptExisting (path : Path) (obstacle : Obstacle) : Change Unit := do
  if !(← get).isDirectory path then throw (obstacle.failure path)

/-- A directory and those above it, given by the parts of its path from the last one on. -/
def ensureParts (root : String) : List String → Change Unit
  | [] => acceptExisting ⟨root, []⟩ .alreadyExists
  | part :: above => do
    let path : Path := ⟨root, (part :: above).reverse⟩
    match (← get).makeDirectory path with
    | .ok d => set d
    | .error .missing =>
      ensureParts root above
      match (← get).makeDirectory path with
      | .ok d => set d
      | .error obstacle => acceptExisting path obstacle
    | .error obstacle => acceptExisting path obstacle

/-- Makes sure that a directory exists. -/
def ensureDirectory (path : Path) : Change Unit :=
  if path.parts.any hasNul then throw .nulInPath else ensureParts path.root path.parts.reverse

/-- Takes away the entry of one place. -/
def erase (d : Disk) (location : Location) : Disk :=
  { d with entries := d.entries.filter fun e => e.1 ≠ location }

/-- The length of all names on the disk together. -/
def namesLength (d : Disk) : Nat :=
  (d.entries.map fun e => (e.1.headD "").length).foldr (· + ·) 0

/-- A name that nothing on the disk has: it is longer than all names together. -/
def temporaryName (d : Disk) (path : Path) : String :=
  "." ++ path.name ++ "." ++ String.ofList (List.replicate d.namesLength '_') ++ ".tmp"

/-- The path of a temporary file in the directory of a path. -/
def temporaryPath (d : Disk) (path : Path) : Path :=
  ⟨path.root, path.parts.dropLast ++ [d.temporaryName path]⟩

/-- Moves the entry of a place to a path, over a file that may be there. -/
def move (source : Location) (path : Path) : Change Unit := do
  let d ← get
  match d.locate path with
  | .error obstacle => throw (obstacle.failure path)
  | .ok location =>
    if !endsInName path then throw (.pathBusy path.toString)
    else if d.nodeAt location = some .directory then throw (.isDirectory path.toString)
    else match d.nodeAt source with
      | some entry => set ((d.erase source).put location entry)
      | none => throw (.directoryMissing path.toString)

/-- Puts a file in the place of one that may be there. The content goes to a temporary file in the
same directory, which is then moved to the path, or taken away again when it cannot be moved. -/
def replaceFile (path : Path) (content : List UInt8) : Change Unit := do
  let d ← get
  match d.locate (d.temporaryPath path) with
  | .error obstacle => throw (obstacle.failure path)
  | .ok source =>
    set (d.put source (.file content))
    tryCatch (move source path) fun failure => do
      modify fun d => d.erase source
      throw failure

/-- Everything below a place is gone as well. -/
def remove (d : Disk) (location : Location) : Disk :=
  { d with entries := d.entries.filter fun e => !location.isSuffixOf e.1 }

end Disk

end RecordMapper
