import RecordMapper.Command.Run
import RecordMapper.Proofs.Document.DefaultNames
import RecordMapper.Proofs.Validation.Conditions

/-!
# Loaded input

What a document and the options can make of a configuration leaves classes and fields named by
default. The checks of loaded input are therefore possible, unless its encoding cannot be looked up.
Words that are accepted end with the exit code of bad input exactly when no input comes out of them.
-/
namespace RecordMapper

open RecordMapper.Config RecordMapper.Schema RecordMapper.Validation

theorem Config.Settings.NamesByDefault.answers {config : Settings} (h : config.NamesByDefault)
    (tables : List Table) : Answers config Naming.className Naming.fieldName tables where
  classes table := by rw [h.className]; rfl
  fields column := by rw [h.fieldName]; rfl
  types table _ column _ := h.fieldType _ _

theorem Input.namesByDefault_of_ofDocument {document : Value} {input : Input}
    (h : Input.ofDocument document = .ok input) : input.config.NamesByDefault := by
  obtain ⟨entries, -, h⟩ := bind_eq_ok_iff.mp h
  obtain ⟨tables, -, h⟩ := bind_eq_ok_iff.mp h
  obtain ⟨config, hconfig, h⟩ := bind_eq_ok_iff.mp h
  cases h
  unfold inContext at hconfig
  cases hread : Settings.read ((configValue? document).getD (.mapping [])) with
  | ok c =>
    rw [hread] at hconfig
    cases hconfig
    exact Settings.namesByDefault_of_read hread
  | error cause =>
    rw [hread] at hconfig
    cases hconfig

namespace Command

variable {a : Arguments} {disk : Disk} {input : Input}

theorem namesByDefault_of_inputOf {document : Value} (h : inputOf a document = .ok input) :
    input.config.NamesByDefault := by
  obtain ⟨read, hread, h⟩ := bind_eq_ok_iff.mp h
  have hnames := Input.namesByDefault_of_ofDocument hread
  dsimp only at h
  split at h
  · obtain ⟨config, hconfig, h⟩ := bind_eq_ok_iff.mp h
    obtain ⟨tables, -, h⟩ := bind_eq_ok_iff.mp h
    cases hconfig
    cases h
    exact hnames
  · obtain ⟨config, hconfig, h⟩ := bind_eq_ok_iff.mp h
    obtain ⟨tables, -, h⟩ := bind_eq_ok_iff.mp h
    cases h
    exact hnames.withOverrides hconfig

theorem answers_of_load (h : load a disk = .ok input) :
    Answers input.config Naming.className Naming.fieldName input.tables := by
  obtain ⟨document, -, h⟩ := bind_eq_ok_iff.mp h
  exact (namesByDefault_of_inputOf h).answers input.tables

/-- The checks of loaded input are possible where its encoding can be looked up. -/
theorem check_of_load (h : load a disk = .ok input)
    (hnul : Text.hasNul input.config.encoding = false) :
    ∃ checkup, check input.tables input.config = .ok checkup := by
  obtain ⟨checkup, hcheck, -⟩ := check_decided (answers_of_load h) hnul
  exact ⟨checkup, hcheck⟩

/-- Input depends on few of the arguments. -/
theorem load_congr {b : Arguments} (hinput : a.input = b.input) (htables : a.tables = b.tables)
    (hoverrides : a.overrides = b.overrides) (disk : Disk) : load a disk = load b disk := by
  unfold load loadDocument inputPath inputOf
  rw [hinput, htables, hoverrides]

/-- What is requested is looked for when all other input is there. -/
theorem exists_load_of_requested (h : load a disk = .ok input) : ∃ tables, ∀ requested,
    load { a with tables := requested } disk =
      (selectTables requested tables).map fun selected => ⟨selected, input.config⟩ := by
  obtain ⟨document, hdocument, h⟩ := bind_eq_ok_iff.mp h
  obtain ⟨read, hread, h⟩ := bind_eq_ok_iff.mp h
  refine ⟨read.tables, fun requested => ?_⟩
  have hsame : loadDocument { a with tables := requested } disk = .ok document := hdocument
  rw [load, hsame, ok_bind, inputOf, hread, ok_bind]
  have hoverrides : { a with tables := requested }.overrides = a.overrides := rfl
  rw [hoverrides]
  dsimp only at h ⊢
  split at h
  next hnone =>
    obtain ⟨config, hconfig, h⟩ := bind_eq_ok_iff.mp h
    obtain ⟨tables, -, h⟩ := bind_eq_ok_iff.mp h
    cases h
    rw [if_pos hnone, hconfig]
    rfl
  next hsome =>
    obtain ⟨config, hconfig, h⟩ := bind_eq_ok_iff.mp h
    obtain ⟨tables, -, h⟩ := bind_eq_ok_iff.mp h
    cases h
    rw [if_neg hsome, hconfig]
    rfl

section Exits

/-- The command ends with an exit code. -/
def ExitsWith (code : Nat) (words : List String) (disk : Disk) : Prop :=
  ∃ outcome after, Command.run words disk = (.ok outcome, after) ∧ outcome.exit = code

variable {words : List String} {after : Disk} {outcome : Outcome}

theorem run_of_parse (h : Arguments.parse words = .ok a) (disk : Disk) :
    Command.run words disk = runArguments a disk := by
  unfold Command.run
  rw [h]

theorem exitOf_ne_input (r : Batch.Report) : exitOf r ≠ Exit.input := by
  unfold exitOf
  split
  · decide
  · split
    · decide
    · split <;> decide

/-- No mode answers with the exit code of bad input. -/
theorem exit_ne_input_of_runMode (h : runMode a input disk = (.ok outcome, after)) :
    outcome.exit ≠ Exit.input := by
  unfold runMode at h
  split at h
  · obtain ⟨checkup, -, houtcome⟩ := bind_eq_ok_iff.mp (Prod.mk.inj h).1
    cases houtcome
    dsimp only
    split <;> decide
  · split at h
    · cases h
      unfold runEcho
      split
      · exact fun h => nomatch h
      · exact fun h => nomatch h
    · unfold runGeneration at h
      split at h
      · cases h
      · split at h
        · cases h
        · cases h
          exact exitOf_ne_input _

/-- Input that is loaded is handed to the mode that the arguments ask for. -/
theorem run_of_load (h : Arguments.parse words = .ok a) (hconsistent : a.isConsistent = true)
    (hload : load a disk = .ok input) : ∃ text, Command.run words disk =
      ((runMode a input disk).1.map (Outcome.after text), (runMode a input disk).2) := by
  rw [run_of_parse h, runArguments, hconsistent, hload]
  exact ⟨_, rfl⟩

theorem exitsWith_iff_of_load (h : Arguments.parse words = .ok a)
    (hconsistent : a.isConsistent = true) (hload : load a disk = .ok input) (code : Nat) :
    ExitsWith code words disk ↔
      ∃ outcome after, runMode a input disk = (.ok outcome, after) ∧ outcome.exit = code := by
  obtain ⟨text, hrun⟩ := run_of_load h hconsistent hload
  rw [ExitsWith, hrun]
  constructor
  · rintro ⟨outcome, after, houtcome, hexit⟩
    obtain ⟨hresult, hdisk⟩ := Prod.mk.inj houtcome
    rcases hmode : runMode a input disk with ⟨_ | told, left⟩
    · rw [hmode] at hresult
      exact nomatch hresult
    · rw [hmode] at hresult
      have hsame : told.after text = outcome := Except.ok.inj hresult
      rw [← hsame] at hexit
      exact ⟨told, left, rfl, hexit⟩
  · rintro ⟨outcome, after, hmode, hexit⟩
    rw [hmode]
    exact ⟨_, _, rfl, hexit⟩

theorem ExitsWith.unique {code other : Nat} (h : ExitsWith code words disk)
    (hother : ExitsWith other words disk) : code = other := by
  obtain ⟨outcome, after, hrun, rfl⟩ := h
  obtain ⟨told, left, hsame, rfl⟩ := hother
  rw [hrun] at hsame
  rw [Except.ok.inj (Prod.mk.inj hsame).1]

/-- Bad input is an explicit class name without its table, or an input that cannot be loaded for a
reason that lies in it. -/
theorem exitsWith_input_iff (h : Arguments.parse words = .ok a) :
    ExitsWith Exit.input words disk ↔ a.isConsistent = false ∨
      ∃ failure, load a disk = .error failure ∧ failure.isBadInput = true := by
  cases hconsistent : a.isConsistent with
  | false =>
    refine iff_of_true ?_ (.inl rfl)
    rw [ExitsWith, run_of_parse h, runArguments, hconsistent]
    exact ⟨_, _, rfl, rfl⟩
  | true =>
    rw [or_iff_right Bool.true_eq_false.mp]
    cases hload : load a disk with
    | error failure =>
      rw [ExitsWith, run_of_parse h, runArguments, hconsistent, hload]
      dsimp only
      cases hbad : failure.isBadInput with
      | true => exact iff_of_true ⟨_, _, rfl, rfl⟩ ⟨failure, rfl, hbad⟩
      | false =>
        refine iff_of_false ?_ ?_
        · rintro ⟨outcome, after, houtcome, -⟩
          exact nomatch (Prod.mk.inj houtcome).1
        · rintro ⟨_, hsame, hother⟩
          rw [← Except.error.inj hsame, hbad] at hother
          cases hother
    | ok input =>
      refine iff_of_false ?_ ?_
      · rw [exitsWith_iff_of_load h hconsistent hload]
        rintro ⟨outcome, after, hmode, hexit⟩
        exact exit_ne_input_of_runMode hmode hexit
      · rintro ⟨_, hfailure, -⟩
        cases hfailure

/-- Any other exit code is that of a mode. -/
theorem exists_loaded_of_exitsWith (h : Arguments.parse words = .ok a) {code : Nat}
    (hne : code ≠ Exit.input) (hexits : ExitsWith code words disk) :
    a.isConsistent = true ∧ ∃ input, load a disk = .ok input := by
  have hgood := mt hexits.unique hne
  rw [exitsWith_input_iff h, not_or, Bool.not_eq_false] at hgood
  obtain ⟨hconsistent, hgood⟩ := hgood
  refine ⟨hconsistent, ?_⟩
  cases hload : load a disk with
  | ok input => exact ⟨input, rfl⟩
  | error failure =>
    have hother : failure.isBadInput = false :=
      Bool.eq_false_iff.mpr fun hbad => hgood ⟨failure, hload, hbad⟩
    rw [ExitsWith, run_of_parse h, runArguments, hconsistent, hload] at hexits
    obtain ⟨outcome, after, houtcome, -⟩ := hexits
    dsimp only at houtcome
    rw [hother] at houtcome
    exact nomatch (Prod.mk.inj houtcome).1

end Exits

end Command

end RecordMapper
