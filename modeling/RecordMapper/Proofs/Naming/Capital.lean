import RecordMapper.Proofs.Naming.Identifier
import RecordMapper.Proofs.Text.Case

/-!
# Capitalised fields

A name of identifier characters keeps to them with a capital first, and a name that starts small is
known by what it is capitalised. The default policy makes fields that start small: it lowers the
first letter, and what it puts into back-quotes or gives a suffix is small already.
-/
namespace RecordMapper.Naming

open RecordMapper.Text

/-- The first character is no capital. -/
def SmallStart (name : String) : Prop := ∀ ch ∈ name.toList.head?, ch.isUpper = false

instance (name : String) : Decidable (SmallStart name) :=
  decidable_of_iff (name.toList.head?.all (fun ch => !ch.isUpper) = true)
    (by simp [SmallStart, Option.all_eq_true])

section Capitals

theorem lt_of_isIdentifierPart {ch : Char} (h : isIdentifierPart ch = true) : ch.toNat < 128 := by
  simp only [isIdentifierPart, Char.isAlphanum, Char.isAlpha, Bool.or_eq_true,
    decide_eq_true_eq] at h
  rcases h with ((((hupper | hlower) | hdigit) | rfl) | rfl)
  · exact lt_of_isUpper hupper
  · exact lt_of_isLower hlower
  · exact lt_of_isDigit hdigit
  · decide
  · decide

theorem isIdentifierPart_toUpper {ch : Char} (h : isIdentifierPart ch = true) :
    isIdentifierPart ch.toUpper = true := by
  by_cases hlower : ch.isLower = true
  · have hletter : ch.toUpper.isAlpha = true := by simp [Char.isAlpha, hlower]
    simp [isIdentifierPart, Char.isAlphanum, hletter]
  · rwa [Char.toUpper_eq_of_not_isLower hlower]

theorem isIdentifierPart_capitalize {name : String}
    (h : ∀ ch ∈ name.toList, isIdentifierPart ch = true) :
    ∀ ch ∈ (capitalize name).toList, isIdentifierPart ch = true := by
  unfold capitalize
  split
  · exact fun ch hch => absurd hch List.not_mem_nil
  · rename_i first rest hname
    rw [hname] at h
    have hfirst := h first (List.mem_cons_self ..)
    rw [upperChar_of_ascii (lt_of_isIdentifierPart hfirst), String.toList_ofList]
    intro ch hch
    rcases List.mem_cons.mp hch with rfl | hch
    · exact isIdentifierPart_toUpper hfirst
    · exact h ch (List.mem_cons_of_mem _ hch)

/-- The capital is lowered again in a name that starts small. -/
theorem toList_eq_of_smallStart {name : String} (h : SmallStart name)
    (hparts : ∀ ch ∈ name.toList, isIdentifierPart ch = true) :
    name.toList = (capitalize name).toList.modifyHead Char.toLower := by
  unfold SmallStart at h
  unfold capitalize
  split
  · rename_i hname
    exact hname
  · rename_i first rest hname
    rw [hname] at h hparts ⊢
    have hfirst : first.isUpper = false := h first rfl
    have hlower : first.toLower = first := Char.toLower_eq_of_not_isUpper (by simp [hfirst])
    rw [upperChar_of_ascii (lt_of_isIdentifierPart (hparts first (List.mem_cons_self ..))),
      String.toList_ofList, List.singleton_append, List.modifyHead_cons,
      Char.toLower_toUpper_eq_toLower, hlower]

end Capitals

section Defaults

theorem smallStart_lowerCamelCase (name : String) : SmallStart (lowerCamelCase name) := by
  unfold SmallStart lowerCamelCase lowerCamelChars
  rw [String.toList_ofList]
  split
  · exact fun ch hch => absurd hch (Option.not_mem_none ch)
  · rename_i first rest _
    have hne : lowerAfter [] [first] ≠ [] := by
      rw [lowerAfter]
      split <;> simp [lowerChar_ne_nil]
    intro ch hch
    rw [List.head?_append_of_ne_nil _ hne] at hch
    exact isUpper_of_mem_lowerAfter (List.mem_of_mem_head? hch)

/-- A field is a reserved word in back-quotes, a member with the suffix, or the name itself. -/
theorem fieldName_cases (column : String) :
    (∃ word ∈ reservedWords, fieldName column = backQuoted word) ∨
    (∃ word ∈ caseClassMembers, fieldName column = word ++ conflictSuffix) ∨
    fieldName column = lowerCamelCase column ∧ lowerCamelCase column ∉ reservedWords := by
  have hapart : ∀ word ∈ reservedWords, backQuoted word ∉ caseClassMembers := by decide +kernel
  unfold fieldName plainFieldName quoteReserved suffixConflict
  by_cases hreserved : lowerCamelCase column ∈ reservedWords
  · rw [if_pos hreserved]
    exact .inl ⟨_, hreserved, if_neg (hapart _ hreserved)⟩
  · rw [if_neg hreserved]
    by_cases hmember : lowerCamelCase column ∈ caseClassMembers
    · rw [if_pos hmember]
      exact .inr (.inl ⟨_, hmember, rfl⟩)
    · rw [if_neg hmember]
      exact .inr (.inr ⟨rfl, hreserved⟩)

theorem fieldName_not_reserved (column : String) : fieldName column ∉ reservedWords := by
  have hquoted : ∀ word ∈ reservedWords, backQuoted word ∉ reservedWords := by decide +kernel
  have hsuffixed : ∀ word ∈ caseClassMembers, word ++ conflictSuffix ∉ reservedWords := by
    decide +kernel
  rcases fieldName_cases column with ⟨word, hword, h⟩ | ⟨word, hword, h⟩ | ⟨h, hfree⟩
  · exact h ▸ hquoted word hword
  · exact h ▸ hsuffixed word hword
  · exact h ▸ hfree

theorem smallStart_fieldName (column : String) : SmallStart (fieldName column) := by
  have hquoted : ∀ word ∈ reservedWords, SmallStart (backQuoted word) := by decide +kernel
  have hsuffixed : ∀ word ∈ caseClassMembers, SmallStart (word ++ conflictSuffix) := by
    decide +kernel
  rcases fieldName_cases column with ⟨word, hword, h⟩ | ⟨word, hword, h⟩ | ⟨h, -⟩
  · exact h ▸ hquoted word hword
  · exact h ▸ hsuffixed word hword
  · exact h ▸ smallStart_lowerCamelCase column

end Defaults

end RecordMapper.Naming
