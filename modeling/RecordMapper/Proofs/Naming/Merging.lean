import RecordMapper.Proofs.Naming.Capital
import RecordMapper.Proofs.Naming.SnakeCase

/-!
# Merged fields

The default policy keeps canonical names apart up to one case. A name that comes out as a member of
every case class gets a suffix, and the suffix is what another name has as its last word. The
suffix also keeps the fields apart from the members, as the back-quotes do from the reserved words.
-/
namespace RecordMapper.Naming

open RecordMapper.Text

/-- The word of a column name that becomes the suffix. -/
def suffixWord : String := "_column"

/-- A name that comes out as a member of case classes, and this name followed by the word that
becomes the suffix. -/
structure MergesInto (plain suffixed : String) : Prop where
  member : lowerCamelCase plain ∈ caseClassMembers
  suffixed_eq : suffixed = plain ++ suffixWord

theorem MergesInto.ne {plain suffixed : String} (h : MergesInto plain suffixed) :
    plain ≠ suffixed := by
  intro hsame
  have hlength := congrArg String.length (hsame.trans h.suffixed_eq)
  simp [suffixWord] at hlength

section Members

variable {name : String}

theorem backQuoted_not_mem_members {word : String} (h : word ∈ reservedWords) :
    backQuoted word ∉ caseClassMembers := by
  have hall : ∀ word ∈ reservedWords, backQuoted word ∉ caseClassMembers := by decide +kernel
  exact hall word h

theorem suffixed_not_mem_members {word : String} (h : word ∈ caseClassMembers) :
    word ++ conflictSuffix ∉ caseClassMembers := by
  have hall : ∀ word ∈ caseClassMembers, word ++ conflictSuffix ∉ caseClassMembers := by
    decide +kernel
  exact hall word h

theorem member_not_reserved {word : String} (h : word ∈ caseClassMembers) :
    word ∉ reservedWords := by
  have hall : ∀ word ∈ caseClassMembers, word ∉ reservedWords := by decide +kernel
  exact hall word h

/-- A member is not put into back-quotes, and nothing in back-quotes is a member. -/
theorem plainFieldName_mem_members_iff :
    plainFieldName name ∈ caseClassMembers ↔ lowerCamelCase name ∈ caseClassMembers := by
  unfold plainFieldName quoteReserved
  split
  next hreserved =>
    exact iff_of_false (backQuoted_not_mem_members hreserved)
      fun hmember => member_not_reserved hmember hreserved
  next => rfl

theorem plainFieldName_of_member (h : lowerCamelCase name ∈ caseClassMembers) :
    plainFieldName name = lowerCamelCase name := by
  rw [plainFieldName, quoteReserved, if_neg (member_not_reserved h)]

theorem fieldName_of_member (h : lowerCamelCase name ∈ caseClassMembers) :
    fieldName name = lowerCamelCase name ++ conflictSuffix := by
  rw [fieldName, plainFieldName_of_member h, suffixConflict, if_pos h]

theorem fieldName_of_not_member (h : lowerCamelCase name ∉ caseClassMembers) :
    fieldName name = plainFieldName name := by
  rw [fieldName, suffixConflict, if_neg (mt plainFieldName_mem_members_iff.mp h)]

theorem fieldName_not_member (name : String) : fieldName name ∉ caseClassMembers := by
  by_cases h : lowerCamelCase name ∈ caseClassMembers
  · rw [fieldName_of_member h]
    exact suffixed_not_mem_members h
  · rwa [fieldName_of_not_member h, plainFieldName_mem_members_iff]

end Members

section Merging

variable {m n : String}

theorem lowerCamelCase_injective (hm : Canonical m) (hn : Canonical n)
    (h : lowerCamelCase m = lowerCamelCase n) : m = n := by
  rw [← snakeCase_lowerCamelCase hm, h, snakeCase_lowerCamelCase hn]

theorem plainFieldName_injective (hm : Canonical m) (hn : Canonical n)
    (h : plainFieldName m = plainFieldName n) : m = n := by
  refine lowerCamelCase_injective hm hn ?_
  rw [← unquote_plainFieldName hm, h, unquote_plainFieldName hn]

theorem pieces_suffixed (m : String) :
    pieces '_' (m ++ suffixWord).toList = pieces '_' m.toList ++ ["column".toList] := by
  rw [String.toList_append]
  exact pieces_append _ _

theorem Canonical.suffixed (h : Canonical m) : Canonical (m ++ suffixWord) := by
  rw [Canonical, pieces_suffixed]
  refine List.forall_mem_append.mpr ⟨h, ?_⟩
  decide

/-- The last word of a suffixed name becomes the suffix. -/
theorem lowerCamelCase_suffixed (h : Canonical m) :
    lowerCamelCase (m ++ suffixWord) = lowerCamelCase m ++ conflictSuffix := by
  obtain ⟨word, rest, hpieces⟩ := List.exists_cons_of_ne_nil (pieces_ne_nil '_' m.toList)
  have hword : CanonicalWord word := by
    rw [Canonical, hpieces] at h
    exact h word (List.mem_cons_self ..)
  have hsuffixed : pieces '_' (m ++ suffixWord).toList = word :: (rest ++ ["column".toList]) := by
    rw [pieces_suffixed, hpieces, List.cons_append]
  have hlast : properChars "column".toList = conflictSuffix.toList := by decide +kernel
  have hwith : (lowerCamelCase (m ++ suffixWord)).toList =
      word ++ (rest.flatMap properChars ++ conflictSuffix.toList) := by
    rw [lowerCamelCase, String.toList_ofList, lowerCamelChars_of_canonical hsuffixed hword,
      List.flatMap_append, List.flatMap_singleton, hlast]
  have hwithout : (lowerCamelCase m).toList = word ++ rest.flatMap properChars := by
    rw [lowerCamelCase, String.toList_ofList, lowerCamelChars_of_canonical hpieces hword]
  apply String.toList_injective
  rw [String.toList_append, hwith, hwithout, List.append_assoc]

/-- The suffix of a member is met by a name that ends in the word of the suffix. -/
theorem MergesInto.fieldName_eq (hm : Canonical m) (h : MergesInto m n) :
    fieldName m = lowerCamelCase m ++ conflictSuffix ∧
      fieldName n = lowerCamelCase m ++ conflictSuffix := by
  obtain ⟨hmember, rfl⟩ := h
  have hreserved : ∀ word ∈ caseClassMembers, word ++ conflictSuffix ∉ reservedWords := by
    decide +kernel
  have hother : lowerCamelCase (m ++ suffixWord) ∉ caseClassMembers := by
    rw [lowerCamelCase_suffixed hm]
    exact suffixed_not_mem_members hmember
  refine ⟨fieldName_of_member hmember, ?_⟩
  rw [fieldName_of_not_member hother, plainFieldName, lowerCamelCase_suffixed hm, quoteReserved,
    if_neg (hreserved _ hmember)]

/-- Only one of two names can need the suffix. -/
theorem mergesInto_of_fieldName_eq (hm : Canonical m) (hn : Canonical n)
    (hmember : lowerCamelCase m ∈ caseClassMembers) (hother : lowerCamelCase n ∉ caseClassMembers)
    (h : fieldName m = fieldName n) : MergesInto m n := by
  rw [fieldName_of_member hmember, fieldName_of_not_member hother,
    ← lowerCamelCase_suffixed hm] at h
  have hfree : '\x60' ∉ (lowerCamelCase (m ++ suffixWord)).toList :=
    backQuote_not_mem_lowerCamelCase hm.suffixed
  have hbare : lowerCamelCase (m ++ suffixWord) = lowerCamelCase n := by
    rw [← unquote_plainFieldName hn, ← h, unquote_of_free hfree]
  exact ⟨hmember, (lowerCamelCase_injective hm.suffixed hn hbare).symm⟩

theorem fieldName_eq_iff (hm : Canonical m) (hn : Canonical n) (hne : m ≠ n) :
    fieldName m = fieldName n ↔ MergesInto m n ∨ MergesInto n m := by
  constructor
  · intro h
    by_cases hmember : lowerCamelCase m ∈ caseClassMembers
    · by_cases hother : lowerCamelCase n ∈ caseClassMembers
      · rw [fieldName_of_member hmember, fieldName_of_member hother] at h
        exact absurd (lowerCamelCase_injective hm hn (String.append_left_inj _ |>.mp h)) hne
      · exact .inl (mergesInto_of_fieldName_eq hm hn hmember hother h)
    · by_cases hother : lowerCamelCase n ∈ caseClassMembers
      · exact .inr (mergesInto_of_fieldName_eq hn hm hother hmember h.symm)
      · rw [fieldName_of_not_member hmember, fieldName_of_not_member hother] at h
        exact absurd (plainFieldName_injective hm hn h) hne
  · rintro (h | h)
    · exact (h.fieldName_eq hm).1.trans (h.fieldName_eq hm).2.symm
    · exact (h.fieldName_eq hn).2.trans (h.fieldName_eq hn).1.symm

/-- A field that two names share belongs to no third one. -/
theorem MergesInto.fieldName_eq_iff_or {other : String} (h : MergesInto m n) (hm : Canonical m)
    (hother : Canonical other) : fieldName other = fieldName m ↔ other = m ∨ other = n := by
  constructor
  · intro hsame
    by_cases hne : other = m
    · exact .inl hne
    · refine .inr ?_
      rcases (fieldName_eq_iff hother hm hne).mp hsame with hbefore | hafter
      · -- The name itself would have the suffix and be a member.
        have hmember := h.member
        rw [hbefore.suffixed_eq, lowerCamelCase_suffixed hother] at hmember
        exact absurd hmember (suffixed_not_mem_members hbefore.member)
      · rw [hafter.suffixed_eq, h.suffixed_eq]
  · rintro (rfl | rfl)
    · rfl
    · exact (h.fieldName_eq hm).2.trans (h.fieldName_eq hm).1.symm

end Merging

end RecordMapper.Naming
