import RecordMapper.Proofs.Text.Case

/-!
# Lower case

Lower case is lower case already. The runs of the case mapping lead out of all of them: what a run
is moved to lies between the other runs or in the gaps of a run of every second character.
-/
namespace RecordMapper.Text

namespace CaseRun

/-- The run moves a code point. -/
structure Covers (run : CaseRun) (code : Nat) : Prop where
  first_le : run.first ≤ code
  le_last : code ≤ run.last
  step_dvd : (code - run.first) % run.step = 0

/-- None of the code points from `first` to `last`, or of every second one, is in a run. -/
def misses (first last : Nat) (everySecond : Bool) (run : CaseRun) : Bool :=
  last.blt run.first || run.last.blt first ||
    (everySecond && run.step.beq 2 && ((first + run.first) % 2).beq 1)

/-- Nothing that a run is moved to is in one of the runs. -/
def leaves (run : CaseRun) (runs : List CaseRun) : Bool :=
  runs.all (misses (run.first + run.offset).toNat (run.last + run.offset).toNat
    (run.first.beq run.last || run.step.beq 2))

theorem not_covers_of_leaves {run other : CaseRun} {runs : List CaseRun}
    (h : run.leaves runs = true) (hother : other ∈ runs) (hpositive : 0 ≤ run.first + run.offset)
    {code : Nat} (hcovers : run.Covers code) : ¬other.Covers (code + run.offset).toNat := by
  rintro ⟨hfirst, hlast, hstep⟩
  obtain ⟨hcodeFirst, hcodeLast, hcodeStep⟩ := hcovers
  have hmisses := List.all_eq_true.mp h other hother
  simp only [misses, Bool.or_eq_true, Bool.and_eq_true, Nat.blt_eq, Nat.beq_eq] at hmisses
  rcases hmisses with (hbefore | hafter) | ⟨⟨hsteps, hother⟩, hparity⟩
  · omega
  · omega
  · rw [hother] at hstep
    rcases hsteps with hsingle | hsecond
    · omega
    · rw [hsecond] at hcodeStep
      omega

end CaseRun

section Codes

theorem leaves_lowerRuns : ∀ run ∈ lowerRuns, run.leaves lowerRuns = true := by decide +kernel

theorem caseOffset_cases (runs : List CaseRun) (code : Nat) :
    (∃ run ∈ runs, run.Covers code ∧ caseOffset runs code = run.offset) ∨
      (∀ run ∈ runs, ¬run.Covers code) ∧ caseOffset runs code = 0 := by
  unfold caseOffset
  split
  next run hfound =>
    have hcovers := List.find?_some hfound
    simp only [Bool.and_eq_true, decide_eq_true_eq, beq_iff_eq] at hcovers
    exact .inl ⟨run, List.mem_of_find?_eq_some hfound,
      ⟨hcovers.1.1, hcovers.1.2, hcovers.2⟩, rfl⟩
  next hnone =>
    refine .inr ⟨fun run hrun hcovers => ?_, rfl⟩
    have hnot := List.find?_eq_none.mp hnone run hrun
    simp [hcovers.first_le, hcovers.le_last, hcovers.step_dvd] at hnot

theorem caseOffset_eq_zero_iff {code : Nat} :
    caseOffset lowerRuns code = 0 ↔ ∀ run ∈ lowerRuns, ¬run.Covers code := by
  rcases caseOffset_cases lowerRuns code with ⟨run, hrun, hcovers, hoffset⟩ | ⟨hnone, hoffset⟩
  · exact iff_of_false (hoffset ▸ (lowerRuns_bounds run hrun).1) fun h => h run hrun hcovers
  · exact iff_of_true hoffset hnone

/-- What a code point is moved to stays, and it is not the capital I with a dot, which the runs
leave out. -/
theorem caseOffset_lowered {code : Nat} (h : code ≠ 304) :
    caseOffset lowerRuns (code + caseOffset lowerRuns code).toNat = 0 ∧
      (code + caseOffset lowerRuns code).toNat ≠ 304 := by
  rcases caseOffset_cases lowerRuns code with ⟨run, hrun, hcovers, hoffset⟩ | ⟨-, hoffset⟩
  · obtain ⟨-, -, hbeyond, hdotted⟩ := lowerRuns_bounds run hrun
    rw [hoffset]
    refine ⟨caseOffset_eq_zero_iff.mpr fun other hother => ?_, ?_⟩
    · exact CaseRun.not_covers_of_leaves (leaves_lowerRuns run hrun) hother (by omega) hcovers
    · have := hcovers.first_le
      have := hcovers.le_last
      omega
  · rw [hoffset]
    simpa using ⟨hoffset, h⟩

end Codes

/-- The character is what it is lowered to, wherever it stands. -/
structure IsLow (c : Char) : Prop where
  ne_sigma : c ≠ 'Σ'
  lowerChar_eq : lowerChar c = [c]

section Characters

variable {c d : Char}

theorem isLow_ofNat {n : Nat} (hstays : caseOffset lowerRuns n = 0) (hdotted : n ≠ 304)
    (hupper : (Char.ofNat n).isUpper = false) : IsLow (Char.ofNat n) := by
  have hcode : (Char.ofNat n).toNat = n ∨ (Char.ofNat n).toNat = 0 := by
    rw [Char.toNat_ofNat]
    split <;> simp
  constructor
  · intro hsigma
    have hmoves : caseOffset lowerRuns 931 ≠ 0 := by decide +kernel
    have hcodeOfSigma : ('Σ').toNat = 931 := rfl
    rw [hsigma, hcodeOfSigma] at hcode
    rcases hcode with rfl | hzero
    · exact hmoves hstays
    · cases hzero
  · by_cases hascii : (Char.ofNat n).toNat < 128
    · rw [lowerChar_of_ascii hascii, Char.toLower_eq_of_not_isUpper (by simp [hupper])]
    · have hvalid : (Char.ofNat n).toNat = n := by omega
      have hdot : Char.ofNat n ≠ 'İ' := by
        intro hsame
        rw [hsame] at hvalid
        exact hdotted hvalid.symm
      rw [lowerChar, if_neg hascii, if_neg hdot, hvalid, hstays]
      simp

theorem caseOffset_of_ascii {n : Nat} (h : n < 128) : caseOffset lowerRuns n = 0 := by
  refine caseOffset_eq_zero_iff.mpr fun run hrun hcovers => ?_
  have := (lowerRuns_bounds run hrun).2.1
  have := hcovers.first_le
  omega

theorem toNat_toLower_lt (h : c.toNat < 128) : c.toLower.toNat < 128 := by
  have hall : ∀ n < 128, (Char.ofNat n).toLower.toNat < 128 := by decide +kernel
  simpa using hall c.toNat h

/-- What the dotted capital I and the sigmas are lowered to is low. -/
theorem isLow_special : IsLow 'i' ∧ IsLow '\u0307' ∧ IsLow 'ς' ∧ IsLow 'σ' := by
  have hlow : lowerChar 'i' = ['i'] ∧ lowerChar '\u0307' = ['\u0307'] ∧ lowerChar 'ς' = ['ς'] ∧
      lowerChar 'σ' = ['σ'] := by
    decide +kernel
  obtain ⟨hletter, hdot, hfinal, hsigma⟩ := hlow
  exact ⟨⟨by decide, hletter⟩, ⟨by decide, hdot⟩, ⟨by decide, hfinal⟩, ⟨by decide, hsigma⟩⟩

/-- Whatever a character is lowered to is low. -/
theorem isLow_of_mem_lowerChar (h : d ∈ lowerChar c) : IsLow d := by
  have hupper := isUpper_of_mem_lowerChar h
  unfold lowerChar at h
  split at h
  next hascii =>
    obtain rfl := List.mem_singleton.mp h
    have hlt := toNat_toLower_lt hascii
    rw [← Char.ofNat_toNat c.toLower] at hupper ⊢
    exact isLow_ofNat (caseOffset_of_ascii hlt) (by omega) hupper
  next =>
    split at h
    next =>
      rcases List.mem_pair.mp h with rfl | rfl
      · exact isLow_special.1
      · exact isLow_special.2.1
    next hdotted =>
      obtain rfl := List.mem_singleton.mp h
      have hcode : c.toNat ≠ 304 := fun hsame => hdotted (Char.toNat_inj.mp hsame)
      obtain ⟨hstays, hne⟩ := caseOffset_lowered hcode
      exact isLow_ofNat hstays hne hupper

theorem isLow_of_mem_lowerAfter {before cs : List Char} (h : d ∈ lowerAfter before cs) :
    IsLow d := by
  induction cs generalizing before with
  | nil => cases h
  | cons c rest ih =>
    rw [lowerAfter, List.mem_append] at h
    rcases h with h | h
    · split at h
      · rw [List.mem_singleton.mp h]
        split
        · exact isLow_special.2.2.1
        · exact isLow_special.2.2.2
      · exact isLow_of_mem_lowerChar h
    · exact ih h

theorem lowerAfter_of_isLow {cs : List Char} (before : List Char) (h : ∀ c ∈ cs, IsLow c) :
    lowerAfter before cs = cs := by
  induction cs generalizing before with
  | nil => rfl
  | cons c rest ih =>
    have hc := h c (List.mem_cons_self ..)
    rw [lowerAfter, if_neg hc.ne_sigma, hc.lowerChar_eq,
      ih _ fun d hd => h d (List.mem_cons_of_mem _ hd), List.singleton_append]

end Characters

/-- Lowering a text a second time changes nothing. -/
theorem lower_lower (s : String) : lower (lower s) = lower s := by
  rw [lower, lower, String.toList_ofList, lowerAfter_of_isLow _ fun _ => isLow_of_mem_lowerAfter]

end RecordMapper.Text
