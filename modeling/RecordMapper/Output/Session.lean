import RecordMapper.Disk.File
import RecordMapper.Output.Event
import RecordMapper.Output.Unit

/-!
# Write sessions

Requests to write sources, with the disk they change and the log they are recorded in. A request
that succeeds records one event; one that fails records none, and what it did to the disk stays.
-/
namespace RecordMapper.Output

open RecordMapper.Disk

structure Workspace where
  disk : Disk
  log : Log

abbrev Session (α : Type) := Action Workspace α

namespace Session

variable {α : Type}

abbrev on (w : Workspace) (session : Session α) : Except Failure α × Workspace :=
  Action.on w session

/-- A change of the disk as part of a session. -/
def ofChange (change : Change α) : Session α := fun w =>
  let (result, disk) := change.on w.disk
  (result, { w with disk })

def record (event : Event) : Session Event := do
  modify fun w => { w with log := w.log.add event }
  return event

def has (path : Path) : Session Bool := return (← get).disk.has path

def alreadyExists (target : String) (path : Path) : Session Event :=
  record ⟨target, path, .alreadyExists, 0⟩

def skipped (target : String) (path : Path) : Session Event :=
  record ⟨target, path, .skippedBySettings, 0⟩

def noOutput (target : String) (path : Path) : Session Event :=
  record ⟨target, path, .noOutput, 0⟩

/-- Writes a unit over whatever file is there. -/
def write (encoding : String) (unit : SourceUnit) : Session Event := do
  let size ← ofChange (writeText encoding unit.path unit.content)
  record ⟨unit.target, unit.path, .created, size⟩

/-- Writes a unit unless something is at its path. -/
def writeIfAbsent (encoding : String) (unit : SourceUnit) : Session Event := do
  if ← has unit.path then alreadyExists unit.target unit.path
  else write encoding unit

end Session

end RecordMapper.Output
