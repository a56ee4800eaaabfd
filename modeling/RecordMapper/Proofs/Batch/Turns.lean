import RecordMapper.Proofs.Batch.TableRequests

/-!
# Turns of tables

A run gives every table its turn, in order, whatever became of the ones before. The turns of a run
account for all its failures and for the workspace that it leaves.
-/
namespace RecordMapper.Batch

open RecordMapper.Config RecordMapper.Output RecordMapper.Schema

/-- The work on one table, with what it found and what it left. -/
structure Turn where
  output : TableOutput
  before : Workspace
  result : Except Failure Unit
  after : Workspace

namespace Turn

def ofTable (options : Options) (config : Settings) (classNames : ClassNames) (w : Workspace)
    (table : Table) : Turn :=
  let output : TableOutput := ⟨config, table, classNames.lookup table.name⟩
  let out := Action.on w (writeTable options output)
  ⟨output, w, out.1, out.2⟩

/-- The failure that is reported for the table. -/
def failure? (turn : Turn) : Option TableFailure :=
  match turn.result with
  | .ok _ => none
  | .error cause => some ⟨turn.output.table.name, cause⟩

end Turn

/-- The turns of tables, each beginning where the one before it ended. -/
def turns (options : Options) (config : Settings) (classNames : ClassNames) :
    List Table → Workspace → List Turn
  | [], _ => []
  | table :: rest, w =>
    let turn := Turn.ofTable options config classNames w table
    turn :: turns options config classNames rest turn.after

/-- What the last of some turns leaves, or what was there when there is none. -/
def leftBy (w : Workspace) (turns : List Turn) : Workspace :=
  turns.foldl (fun _ turn => turn.after) w

section

variable (options : Options) (config : Settings) (classNames : ClassNames)

/-- The failures of a run are those of its turns, and it leaves what its last turn leaves. -/
theorem writeTables_eq (tables : List Table) (w : Workspace) :
    writeTables options config classNames tables w =
      ((turns options config classNames tables w).filterMap Turn.failure?,
        leftBy w (turns options config classNames tables w)) := by
  induction tables generalizing w with
  | nil => rfl
  | cons table rest ih =>
    rcases hon : Action.on w (writeTable options ⟨config, table, classNames.lookup table.name⟩) with
      ⟨cause | _, after⟩
    · have hturn : Turn.ofTable options config classNames w table =
          ⟨⟨config, table, classNames.lookup table.name⟩, w, .error cause, after⟩ := by
        rw [Turn.ofTable, hon]
      rw [writeTables, Session.on, hon, turns, hturn]
      simp only [ih after, List.filterMap_cons, Turn.failure?, leftBy, List.foldl_cons]
    · have hturn : Turn.ofTable options config classNames w table =
          ⟨⟨config, table, classNames.lookup table.name⟩, w, .ok (), after⟩ := by
        rw [Turn.ofTable, hon]
      rw [writeTables, Session.on, hon, turns, hturn]
      simp only [ih after, List.filterMap_cons, Turn.failure?, leftBy, List.foldl_cons]

/-- Every table has its turn. -/
theorem map_table_turns (tables : List Table) (w : Workspace) :
    (turns options config classNames tables w).map (fun turn => turn.output.table) = tables := by
  induction tables generalizing w with
  | nil => rfl
  | cons table rest ih => exact congrArg (table :: ·) (ih _)

/-- What every turn preserves is preserved by all of them. -/
theorem leftBy_turns_preserves {P : Workspace → Prop} {tables : List Table} {w : Workspace}
    (hstep : ∀ table ∈ tables, ∀ w, P w →
      P (Action.on w (writeTable options ⟨config, table, classNames.lookup table.name⟩)).2)
    (hw : P w) : P (leftBy w (turns options config classNames tables w)) := by
  induction tables generalizing w with
  | nil => exact hw
  | cons table rest ih =>
    refine ih (fun other hother => hstep other (List.mem_cons_of_mem _ hother)) ?_
    exact hstep table (List.mem_cons_self ..) w hw

end

/-- The work on a table is a row of its requests. -/
theorem row_writeTable (options : Options) {t : TableOutput} {name : String} (w : Workspace)
    (hname : t.resolvedName = .ok name) :
    ∃ events, Row (requests options t name w.disk) w events
      (Action.on w (writeTable options t)).1 (Action.on w (writeTable options t)).2 := by
  rw [on_writeTable options hname]
  exact row_performAll _ w

namespace Sample

/-- A key column of type BIGINT. -/
def id : Column := ⟨"id", -5, "BIGINT", 0, true, false, false⟩

/-- A table that is nothing but its key. -/
def emp : Table where
  name := "emp"
  columns := [id]
  autoIncrement := []
  primaryKey := [id]
  generated := []
  schema := none
  autoIncrement_declared := by decide
  primaryKey_declared := by decide
  generated_declared := by decide

/-- Another table of the same shape. -/
def dept : Table := { emp with name := "dept" }

/-- Settings that leave the other table out. -/
def skipping : Settings := { Settings.default with skipNames := ["dept"] }

/-- A disk with nothing on it. -/
def bare : Disk where
  entries := []
  here := []

/-- A file stands where the directory for tests would be. -/
def blocked : Disk where
  entries := [(["test", "src"], .file []), (["src"], .directory)]
  here := []

end Sample

end RecordMapper.Batch
