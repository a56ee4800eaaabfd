import RecordMapper.Disk.Path
import RecordMapper.Failure
import RecordMapper.Json.Printer

/-!
# Write events

One event for every request to write a source, in the order of the requests. The list of events is
the manifest of a run.
-/
namespace RecordMapper.Output

open RecordMapper.Disk

inductive Outcome where
  | created
  | alreadyExists
  | skippedBySettings
  | noOutput
  deriving DecidableEq, Repr

namespace Outcome

def all : List Outcome := [created, alreadyExists, skippedBySettings, noOutput]

def label : Outcome → String
  | created => "created"
  | alreadyExists => "already_exists"
  | skippedBySettings => "skipped_by_settings"
  | noOutput => "no_output"

def ofLabel? (s : String) : Option Outcome := all.find? fun o => o.label = s

def read (v : Value) : Except Failure Outcome :=
  match v with
  | .text s => match ofLabel? s with
    | some o => .ok o
    | none => .error (.notMember v "WriteOutcome")
  | _ => .error (.notMember v "WriteOutcome")

/-- What happened, as the end of a sentence about the target. -/
def phrase : Outcome → String
  | created => "created."
  | alreadyExists => "already exists."
  | skippedBySettings => "is skipped by settings."
  | noOutput => "has no output for the configured template."

def wrote (o : Outcome) : Bool := o = created

end Outcome

/-- `size` is the number of bytes written. -/
structure Event where
  target : String
  path : Path
  outcome : Outcome
  size : Nat
  deriving DecidableEq, Repr

namespace Event

def message (e : Event) : String := "\"" ++ e.target ++ "\" " ++ e.outcome.phrase

def toValue (e : Event) : Value := .mapping [
  ("target", .text e.target), ("path", .text e.path.toString), ("outcome", .text e.outcome.label),
  ("size_bytes", .int e.size)]

end Event

structure Log where
  events : List Event
  deriving DecidableEq, Repr

namespace Log

def empty : Log := ⟨[]⟩

def add (log : Log) (event : Event) : Log := ⟨log.events ++ [event]⟩

def withOutcome (log : Log) (outcome : Outcome) : List Event :=
  log.events.filter fun e => e.outcome = outcome

def created (log : Log) : List Event := log.withOutcome .created

def totalBytes (log : Log) : Nat := (log.events.map Event.size).foldr (· + ·) 0

theorem withOutcome_add (log : Log) (event : Event) (outcome : Outcome) :
    (log.add event).withOutcome outcome =
      log.withOutcome outcome ++ if event.outcome = outcome then [event] else [] := by
  by_cases h : event.outcome = outcome <;> simp [add, withOutcome, h]

/-- What is said about the events. Those without output are left to the manifest. -/
def messages (log : Log) : List String :=
  (log.events.filter fun e => e.outcome ≠ .noOutput).map Event.message

def toValue (log : Log) : Value := .mapping [
  ("total_events", .int log.events.length), ("total_created", .int log.created.length),
  ("total_bytes", .int log.totalBytes), ("events", .list (log.events.map Event.toValue))]

/-- The manifest with the given indentation, on one line without one. -/
def manifest (log : Log) (indent : Option Int) : String := Json.render indent log.toValue

end Log

end RecordMapper.Output
