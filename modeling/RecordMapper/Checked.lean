import RecordMapper.Failure
import RecordMapper.Text.Case

/-!
# Checking raw values

Readers that turn a raw value into a typed one or say what is wrong with it. Readers of several
parts report the faults of all of them; a value that has no sensible reading at all ends the
reading and hides the faults beside it.
-/
namespace RecordMapper

open RecordMapper.Text RecordMapper.Number

/-- Why a raw value is turned down: for its faults, or because a reader makes no sense of it, be it
of a wrong type or an infinity in the place of a whole number. -/
inductive Rejection where
  | faults (all : List Fault)
  | wrongType
  | infiniteWhole
  deriving DecidableEq, Repr

abbrev Checked (α : Type) := Except Rejection α

namespace Rejection

/-- Two rejections of parts of one value. What makes no sense hides all faults, and the first of
two such parts counts. -/
def and : Rejection → Rejection → Rejection
  | faults first, faults second => faults (first ++ second)
  | faults _, other => other
  | other, _ => other

def within (step : Step) : Rejection → Rejection
  | faults all => faults (all.map (Fault.within step))
  | other => other

def toFailure (document : Document) : Rejection → Failure
  | faults all => .invalid document all
  | wrongType => .wrongType
  | infiniteWhole => .infiniteWhole

end Rejection

namespace Checked

variable {α β : Type}

def fault (kind : FaultKind) : Checked α := .error (.faults [⟨kind, []⟩])

/-- The reading of a part at one step below. -/
def within (step : Step) : Checked α → Checked α
  | .ok a => .ok a
  | .error r => .error (r.within step)

/-- Both readings, with the faults of both. -/
def both : Checked α → Checked β → Checked (α × β)
  | .ok a, .ok b => .ok (a, b)
  | .ok _, .error r => .error r
  | .error r, .ok _ => .error r
  | .error r, .error s => .error (r.and s)

theorem both_eq_ok_iff {x : Checked α} {y : Checked β} {a : α} {b : β} :
    both x y = .ok (a, b) ↔ x = .ok a ∧ y = .ok b := by
  cases x <;> cases y <;> simp [both]

theorem within_eq_ok_iff {step : Step} {x : Checked α} {a : α} :
    within step x = .ok a ↔ x = .ok a := by
  cases x <;> simp [within]

/-- All readings of a list, with the faults of all. -/
def all : List (Checked α) → Checked (List α)
  | [] => .ok []
  | reading :: rest =>
    match both reading (all rest) with
    | .ok (a, as) => .ok (a :: as)
    | .error r => .error r

theorem all_map_ok (as : List α) : all (as.map .ok) = .ok as := by
  induction as with
  | nil => rfl
  | cons a rest ih => simp [all, both, ih]

/-- A list is read only when every item is. -/
theorem eq_map_ok_of_all_eq_ok {readings : List (Checked α)} {as : List α}
    (h : all readings = .ok as) : readings = as.map .ok := by
  induction readings generalizing as with
  | nil => simpa [all] using h
  | cons reading rest ih =>
    rw [all] at h
    split at h
    · next a done hb =>
      obtain ⟨hr, hd⟩ := both_eq_ok_iff.1 hb
      simp only [Except.ok.injEq] at h
      rw [← h, List.map_cons, hr, ← ih hd]
    · simp at h

def result (document : Document) : Checked α → Except Failure α
  | .ok a => .ok a
  | .error r => .error (r.toFailure document)

theorem result_eq_ok_iff {document : Document} {x : Checked α} {a : α} :
    result document x = .ok a ↔ x = .ok a := by
  cases x <;> simp [result]

end Checked

namespace Value

open Checked

def readText : Value → Checked String
  | text s => .ok s
  | _ => fault .notText

/-- A text of at least one character. -/
def readFilledText (v : Value) : Checked String :=
  match v.readText with
  | .ok s => if s.isEmpty then fault .tooShort else .ok s
  | .error r => .error r

/-- Digits with single underscores between them. -/
def digitRuns (cs : List Char) : Bool :=
  (pieces '_' cs).all fun run => !run.isEmpty && run.all Char.isDigit

/-- A whole number in a text: white space around it, a sign, underscores between digits and a
fraction of zeros are allowed. -/
def wholeOfText? (s : String) : Option Int :=
  let trimmed := ((s.toList.dropWhile isSpacing).reverse.dropWhile isSpacing).reverse
  let (negative, body) := match trimmed with
    | '-' :: rest => (true, rest)
    | '+' :: rest => (false, rest)
    | rest => (false, rest)
  let whole := body.takeWhile (· ≠ '.')
  let fraction := (body.dropWhile (· ≠ '.')).drop 1
  if digitRuns whole && fraction.all (· = '0') then
    let n : Int := (whole.filter Char.isDigit).foldl (fun n c => n * 10 + (c.toNat - 48)) 0
    some (if negative then -n else n)
  else none

/-- A whole number: given as such, as a truth value, as a number without fraction or as a text.
Only numbers that come with a point or an exponent are bounded, by 63 bits. -/
def readWhole : Value → Checked Int
  | int n => .ok n
  | bool b => .ok (if b then 1 else 0)
  | real (.finite x) =>
    if !x.isIntegral then fault .wholeFromFraction
    else if x.truncated.natAbs < Nat.pow 2 63 then .ok x.truncated
    else fault .wholeTooLarge
  | real _ => fault .notFinite
  | text s => match wholeOfText? s with
    | some n => .ok n
    | none => fault .wholeUnreadable
  | _ => fault .notWhole

/-- A whole number that is not negative. -/
def readCount (v : Value) : Checked Nat :=
  match v.readWhole with
  | .ok n => if n < 0 then fault .belowMinimum else .ok n.toNat
  | .error r => .error r

/-- The truth value that a word stands for. -/
def boolOfText? (s : String) : Option Bool :=
  let word := String.ofList (s.toList.map Char.toLower)
  if word ∈ ["true", "t", "yes", "y", "on", "1"] then some true
  else if word ∈ ["false", "f", "no", "n", "off", "0"] then some false
  else none

def readBool : Value → Checked Bool
  | bool b => .ok b
  | int n => if n = 1 then .ok true else if n = 0 then .ok false else fault .boolUnreadable
  | real (.finite x) =>
    if x.isZero then .ok false
    else if x.isIntegral && x.truncated == 1 then .ok true
    else fault .notBool
  | text s => match boolOfText? s with
    | some b => .ok b
    | none => fault .boolUnreadable
  | _ => fault .notBool

/-- A list, every item by the same reader. -/
def readList {α : Type} (read : Value → Checked α) : Value → Checked (List α)
  | list items => all (items.mapIdx fun i item => within (.index i) (read item))
  | _ => fault .notList

def readTexts : Value → Checked (List String) := readList readText

/-- A text, or null for none. -/
def readOptionalText : Value → Checked (Option String)
  | null => .ok none
  | v => v.readText.map some

/-- A field that has to be there. -/
def required {α : Type} (key : String) (read : Value → Checked α)
    (fields : List (String × Value)) : Checked α :=
  within (.key key) (match fields.lookup key with
    | some v => read v
    | none => fault .missing)

/-- A field with a default. -/
def optional {α : Type} (key : String) (default : α) (read : Value → Checked α)
    (fields : List (String × Value)) : Checked α :=
  match fields.lookup key with
  | some v => within (.key key) (read v)
  | none => .ok default

/-- No field but the known ones. -/
def onlyFields {α : Type} (known : List String) (fields : List (String × α)) : Checked Unit :=
  match (fields.map Prod.fst).filter (· ∉ known) with
  | [] => .ok ()
  | unknown => .error (.faults (unknown.map fun key => ⟨.unknownField, [.key key]⟩))

end Value

end RecordMapper
