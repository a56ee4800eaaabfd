import RecordMapper.Action
import RecordMapper.Checked

/-!
# Senseless readings

Most readers turn a raw value down with faults, but some values they cannot take at all. A reading
of several parts fails so when one of its parts does, whatever faults there are beside it.
-/
namespace RecordMapper

/-- Reasons to turn a value down, some of which mean that no sense can be made of it. -/
class Reason (ε : Type) where
  isNonsense : ε → Bool

/-- A reading that makes no sense of its value. -/
def Nonsense {ε α : Type} [Reason ε] (x : Except ε α) : Prop :=
  ∃ e, x = .error e ∧ Reason.isNonsense e = true

section Failing

variable {ε α β : Type} [Reason ε]

@[simp]
theorem not_nonsense_ok {a : α} : ¬Nonsense (.ok a : Except ε α) := fun ⟨_, h, _⟩ => nomatch h

@[simp]
theorem nonsense_error_iff {e : ε} :
    Nonsense (.error e : Except ε α) ↔ Reason.isNonsense e = true := by
  simp [Nonsense]

theorem nonsense_bind_iff {x : Except ε α} {next : α → Except ε β} :
    Nonsense (x >>= next) ↔ Nonsense x ∨ ∃ a, x = .ok a ∧ Nonsense (next a) := by
  constructor
  · rintro ⟨e, h, he⟩
    rcases bind_eq_error_iff.mp h with h | ⟨a, ha, h⟩
    · exact .inl ⟨e, h, he⟩
    · exact .inr ⟨a, ha, e, h, he⟩
  · rintro (⟨e, h, he⟩ | ⟨a, ha, e, h, he⟩)
    · exact ⟨e, bind_eq_error_iff.mpr (.inl h), he⟩
    · exact ⟨e, bind_eq_error_iff.mpr (.inr ⟨a, ha, h⟩), he⟩

theorem nonsense_map_iff {f : α → β} {x : Except ε α} : Nonsense (x.map f) ↔ Nonsense x := by
  simp only [Nonsense, map_eq_error_iff]

theorem nonsense_mapM_iff {f : α → Except ε β} {items : List α} :
    Nonsense (items.mapM f) ↔ ∃ before item after, items = before ++ item :: after ∧
      (∀ a ∈ before, ∃ b, f a = .ok b) ∧ Nonsense (f item) := by
  simp only [Nonsense, mapM_eq_error_iff]
  constructor
  · rintro ⟨e, ⟨before, item, after, hitems, hbefore, h⟩, he⟩
    exact ⟨before, item, after, hitems, hbefore, e, h, he⟩
  · rintro ⟨before, item, after, hitems, hbefore, e, h, he⟩
    exact ⟨e, ⟨before, item, after, hitems, hbefore, h⟩, he⟩

end Failing

/-- Faults can be told, all other rejections mean that a value makes no sense. -/
instance : Reason Rejection where
  isNonsense
    | .faults _ => false
    | .wrongType | .infiniteWhole => true

/-- The failures of readers that make no sense of a value. -/
instance : Reason Failure where
  isNonsense
    | .wrongType | .infiniteWhole => true
    | _ => false

@[simp]
theorem Rejection.isNonsense_faults (all : List Fault) :
    Reason.isNonsense (Rejection.faults all) = false := rfl

theorem Rejection.isNonsense_within (step : Step) (r : Rejection) :
    Reason.isNonsense (r.within step) = Reason.isNonsense r := by
  cases r <;> rfl

theorem Rejection.isNonsense_and (r s : Rejection) :
    Reason.isNonsense (r.and s) = (Reason.isNonsense r || Reason.isNonsense s) := by
  cases r <;> cases s <;> rfl

theorem Rejection.isNonsense_toFailure (document : Document) (r : Rejection) :
    Reason.isNonsense (r.toFailure document) = Reason.isNonsense r := by
  cases r <;> rfl

/-- What makes no sense is not told as bad input, and nothing catches it. -/
theorem Failure.isBadInput_of_isNonsense {failure : Failure}
    (h : Reason.isNonsense failure = true) : failure.isBadInput = false := by
  cases failure <;> first | rfl | cases h

theorem Failure.isNonsense_of_isUnusable {failure : Failure}
    (h : failure.kind.isUnusable = true) : Reason.isNonsense failure = false := by
  cases hnonsense : Reason.isNonsense failure with
  | false => rfl
  | true =>
    have hbad := isBadInput_of_isNonsense hnonsense
    rw [isBadInput, h] at hbad
    cases hbad

theorem not_nonsense_of_unusable {α : Type} {x : Except Failure α}
    (h : ∀ failure, x = .error failure → failure.kind.isUnusable = true) : ¬Nonsense x := by
  rintro ⟨failure, hfailure, hnonsense⟩
  rw [Failure.isNonsense_of_isUnusable (h failure hfailure)] at hnonsense
  cases hnonsense

namespace Checked

variable {α β : Type}

@[simp]
theorem not_nonsense_fault {kind : FaultKind} : ¬Nonsense (fault kind : Checked α) := by
  simp [fault]

theorem nonsense_both_iff {x : Checked α} {y : Checked β} :
    Nonsense (both x y) ↔ Nonsense x ∨ Nonsense y := by
  cases x <;> cases y <;> simp [both, Rejection.isNonsense_and]

theorem nonsense_within_iff {step : Step} {x : Checked α} :
    Nonsense (within step x) ↔ Nonsense x := by
  cases x <;> simp [within, Rejection.isNonsense_within]

theorem nonsense_error_congr {r : Rejection} :
    Nonsense (.error r : Checked β) ↔ Nonsense (.error r : Checked α) := by
  simp

theorem nonsense_all_iff {readings : List (Checked α)} :
    Nonsense (all readings) ↔ ∃ reading ∈ readings, Nonsense reading := by
  induction readings with
  | nil => simp [all]
  | cons reading rest ih =>
    simp only [List.mem_cons, exists_eq_or_imp, ← ih]
    rw [← nonsense_both_iff, all]
    rcases both reading (all rest) with _ | ⟨a, as⟩ <;> simp

theorem nonsense_result_iff {document : Document} {x : Checked α} :
    Nonsense (result document x) ↔ Nonsense x := by
  cases x <;> simp [result, Rejection.isNonsense_toFailure]

end Checked

namespace Value

open Checked

variable {α : Type}

/-- A reader that turns values down with faults only. -/
def OnlyFaults (read : Value → Checked α) : Prop := ∀ v, ¬Nonsense (read v)

theorem onlyFaults_readText : OnlyFaults readText := by
  intro v
  cases v <;> simp [readText]

theorem onlyFaults_readFilledText : OnlyFaults readFilledText := by
  intro v
  cases v with
  | text s =>
    simp only [readFilledText, readText]
    split <;> simp
  | null | bool | int | real | list | mapping =>
    simp [readFilledText, readText, fault]

theorem onlyFaults_readWhole : OnlyFaults readWhole := by
  intro v
  cases v with
  | real x =>
    cases x with
    | finite x =>
      simp only [readWhole]
      repeat' split
      all_goals simp
    | infinite | notNumber => simp [readWhole]
  | text s =>
    simp only [readWhole]
    split <;> simp
  | null | bool | int | list | mapping => simp [readWhole]

theorem onlyFaults_readCount : OnlyFaults readCount := by
  intro v
  unfold readCount
  split
  · split <;> simp
  next r h =>
    have hwhole := onlyFaults_readWhole v
    rw [h] at hwhole
    rwa [nonsense_error_congr]

theorem onlyFaults_readBool : OnlyFaults readBool := by
  intro v
  cases v with
  | int n =>
    simp only [readBool]
    repeat' split
    all_goals simp
  | real x =>
    cases x with
    | finite x =>
      simp only [readBool]
      repeat' split
      all_goals simp
    | infinite | notNumber => simp [readBool]
  | text s =>
    simp only [readBool]
    split <;> simp
  | null | bool | list | mapping => simp [readBool]

theorem onlyFaults_readOptionalText : OnlyFaults readOptionalText := by
  intro v
  cases v <;> simp [readOptionalText, readText, nonsense_map_iff]

theorem nonsense_readList_iff {read : Value → Checked α} {v : Value} :
    Nonsense (readList read v) ↔
      ∃ items, v = .list items ∧ ∃ item ∈ items, Nonsense (read item) := by
  cases v with
  | list items =>
    rw [readList, nonsense_all_iff]
    simp only [List.mem_mapIdx, list.injEq, exists_eq_left']
    constructor
    · rintro ⟨_, ⟨i, hi, rfl⟩, h⟩
      exact ⟨items[i], List.getElem_mem hi, nonsense_within_iff.mp h⟩
    · rintro ⟨item, hitem, h⟩
      obtain ⟨i, hi, rfl⟩ := List.mem_iff_getElem.mp hitem
      exact ⟨_, ⟨i, hi, rfl⟩, nonsense_within_iff.mpr h⟩
  | null | bool | int | real | text | mapping => simp [readList]

theorem onlyFaults_readList {read : Value → Checked α} (h : OnlyFaults read) :
    OnlyFaults (readList read) := by
  intro v hv
  obtain ⟨items, -, item, -, hitem⟩ := nonsense_readList_iff.mp hv
  exact h item hitem

variable {key : String} {fields : List (String × Value)}

theorem nonsense_required_iff (read : Value → Checked α) :
    Nonsense (required key read fields) ↔
      ∃ v, fields.lookup key = some v ∧ Nonsense (read v) := by
  rw [required, nonsense_within_iff]
  cases fields.lookup key <;> simp

theorem nonsense_optional_iff (read : Value → Checked α) {default : α} :
    Nonsense (optional key default read fields) ↔
      ∃ v, fields.lookup key = some v ∧ Nonsense (read v) := by
  unfold optional
  cases fields.lookup key <;> simp [nonsense_within_iff]

theorem not_nonsense_required {read : Value → Checked α} (h : OnlyFaults read) :
    ¬Nonsense (required key read fields) := by
  rw [nonsense_required_iff]
  exact fun ⟨v, _, hv⟩ => h v hv

theorem not_nonsense_optional {read : Value → Checked α} (h : OnlyFaults read) {default : α} :
    ¬Nonsense (optional key default read fields) := by
  rw [nonsense_optional_iff]
  exact fun ⟨v, _, hv⟩ => h v hv

theorem not_nonsense_onlyFields {known : List String} {fields : List (String × α)} :
    ¬Nonsense (onlyFields known fields) := by
  unfold onlyFields
  split <;> simp

end Value

/-- A reading that fails, if it does, because a value is unusable or makes no sense. -/
def FailsAsInput {α : Type} (x : Except Failure α) : Prop :=
  ∀ failure, x = .error failure → failure.kind.isUnusable = true ∨ Reason.isNonsense failure = true

/-- A reading that gives a result or turns an unusable value down. -/
def Told {α : Type} (x : Except Failure α) : Prop :=
  (∃ a, x = .ok a) ∨ ∃ failure, x = .error failure ∧ failure.kind.isUnusable = true

namespace FailsAsInput

variable {α β : Type}

theorem told_iff {x : Except Failure α} (h : FailsAsInput x) : Told x ↔ ¬Nonsense x := by
  cases x with
  | ok a => exact iff_of_true (.inl ⟨a, rfl⟩) not_nonsense_ok
  | error failure =>
    rcases h failure rfl with hunusable | hnonsense
    · refine iff_of_true (.inr ⟨failure, rfl, hunusable⟩) ?_
      simp [Failure.isNonsense_of_isUnusable hunusable]
    · refine iff_of_false ?_ (not_not_intro (nonsense_error_iff.mpr hnonsense))
      rintro (⟨a, h⟩ | ⟨_, ⟨rfl⟩, hunusable⟩)
      · cases h
      · rw [Failure.isNonsense_of_isUnusable hunusable] at hnonsense
        cases hnonsense

theorem ok (a : α) : FailsAsInput (.ok a) := fun _ h => nomatch h

theorem error {failure : Failure}
    (h : failure.kind.isUnusable = true ∨ Reason.isNonsense failure = true) :
    FailsAsInput (.error failure : Except Failure α) := by
  rintro _ ⟨rfl⟩
  exact h

theorem bind {x : Except Failure α} {next : α → Except Failure β} (hx : FailsAsInput x)
    (hnext : ∀ a, FailsAsInput (next a)) : FailsAsInput (x >>= next) := by
  intro failure h
  rcases bind_eq_error_iff.mp h with h | ⟨a, -, h⟩
  · exact hx failure h
  · exact hnext a failure h

theorem mapM {f : α → Except Failure β} {items : List α} (h : ∀ a ∈ items, FailsAsInput (f a)) :
    FailsAsInput (items.mapM f) := by
  intro failure hfailure
  obtain ⟨before, item, after, rfl, -, hitem⟩ := mapM_eq_error_iff.mp hfailure
  exact h item (by simp) failure hitem

/-- A reading that fails tells faults or makes no sense. -/
theorem result {document : Document} {x : Checked α} :
    FailsAsInput (Checked.result document x) := by
  cases x with
  | ok a => exact ok a
  | error r =>
    cases r with
    | faults all => exact error (.inl rfl)
    | wrongType | infiniteWhole => exact error (.inr rfl)

end FailsAsInput

end RecordMapper
