import Mathlib
import RecordMapper.Text.Case

/-!
# Capitals and small letters

Lower case holds no capital of ASCII, whatever it was made from. On ASCII the two cases are those of
single letters, wherever a letter stands in a text.
-/
namespace RecordMapper.Text

theorem isUpper_iff {c : Char} : c.isUpper = true ↔ 65 ≤ c.toNat ∧ c.toNat ≤ 90 := by
  simp [Char.isUpper, UInt32.le_iff_toNat_le]

theorem isLower_iff {c : Char} : c.isLower = true ↔ 97 ≤ c.toNat ∧ c.toNat ≤ 122 := by
  simp [Char.isLower, UInt32.le_iff_toNat_le]

theorem isDigit_iff {c : Char} : c.isDigit = true ↔ 48 ≤ c.toNat ∧ c.toNat ≤ 57 := by
  simp [Char.isDigit, UInt32.le_iff_toNat_le]

theorem isDigit_of_isAlpha {c : Char} (h : c.isAlpha = true) : c.isDigit = false := by
  rw [Bool.eq_false_iff, ne_eq, isDigit_iff]
  rw [Char.isAlpha, Bool.or_eq_true, isUpper_iff, isLower_iff] at h
  omega

/-- No code beyond the capitals stands for one. -/
theorem isUpper_ofNat {n : Nat} (h : 90 < n) : (Char.ofNat n).isUpper = false := by
  rw [Bool.eq_false_iff, ne_eq, isUpper_iff, Char.toNat_ofNat]
  split <;> omega

/-- Every run moves characters beyond ASCII to characters beyond the capitals, and none to the
capital I with a dot. -/
theorem lowerRuns_bounds : ∀ run ∈ lowerRuns, run.offset ≠ 0 ∧ 128 ≤ run.first ∧
    90 < run.first + run.offset ∧
    (run.last + run.offset < 304 ∨ 304 < run.first + run.offset) := by
  decide +kernel

theorem lt_lowered {code : Nat} (h : 128 ≤ code) :
    90 < (code + caseOffset lowerRuns code).toNat := by
  unfold caseOffset
  split
  · rename_i run hfound
    have hrun := (lowerRuns_bounds run (List.mem_of_find?_eq_some hfound)).2.2.1
    have hcovers := List.find?_some hfound
    simp only [Bool.and_eq_true, decide_eq_true_eq] at hcovers
    omega
  · omega

theorem isUpper_of_mem_lowerChar {c d : Char} (h : d ∈ lowerChar c) : d.isUpper = false := by
  unfold lowerChar at h
  split at h
  · rw [List.mem_singleton.mp h]
    exact Char.isUpper_toLower_eq_false c
  · rename_i hcode
    split at h
    · rcases List.mem_pair.mp h with rfl | rfl <;> decide
    · rw [List.mem_singleton.mp h]
      exact isUpper_ofNat (lt_lowered (Nat.le_of_not_lt hcode))

theorem lowerChar_ne_nil (c : Char) : lowerChar c ≠ [] := by
  unfold lowerChar
  split
  · exact List.cons_ne_nil _ _
  · split <;> exact List.cons_ne_nil _ _

theorem isUpper_of_mem_lowerAfter {before cs : List Char} {d : Char}
    (h : d ∈ lowerAfter before cs) : d.isUpper = false := by
  induction cs generalizing before with
  | nil => cases h
  | cons c rest ih =>
    rw [lowerAfter, List.mem_append] at h
    rcases h with h | h
    · split at h
      · rw [List.mem_singleton.mp h]
        split <;> decide
      · exact isUpper_of_mem_lowerChar h
    · exact ih h

section Ascii

theorem lowerChar_of_ascii {c : Char} (h : c.toNat < 128) : lowerChar c = [c.toLower] := by
  rw [lowerChar, if_pos h]

theorem upperChar_of_ascii {c : Char} (h : c.toNat < 128) : upperChar c = [c.toUpper] := by
  rw [upperChar, if_pos h]

theorem lowerAfter_of_ascii (before : List Char) {cs : List Char} (h : ∀ c ∈ cs, c.toNat < 128) :
    lowerAfter before cs = cs.map Char.toLower := by
  induction cs generalizing before with
  | nil => rfl
  | cons c rest ih =>
    have hc := h c (List.mem_cons_self ..)
    have hsigma : c ≠ 'Σ' := by
      rintro rfl
      revert hc
      decide
    rw [lowerAfter, if_neg hsigma, lowerChar_of_ascii hc,
      ih _ fun d hd => h d (List.mem_cons_of_mem _ hd)]
    rfl

theorem lt_of_isUpper {c : Char} (h : c.isUpper = true) : c.toNat < 128 :=
  Nat.lt_of_le_of_lt (isUpper_iff.mp h).2 (by decide)

theorem lt_of_isLower {c : Char} (h : c.isLower = true) : c.toNat < 128 :=
  Nat.lt_of_le_of_lt (isLower_iff.mp h).2 (by decide)

theorem lt_of_isDigit {c : Char} (h : c.isDigit = true) : c.toNat < 128 :=
  Nat.lt_of_le_of_lt (isDigit_iff.mp h).2 (by decide)

end Ascii

end RecordMapper.Text
