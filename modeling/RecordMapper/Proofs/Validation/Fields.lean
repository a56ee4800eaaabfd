import RecordMapper.Proofs.Validation.Names

/-!
# Checked fields

What checks without errors say about the columns of a table, whatever policy names their fields:
there are some, each is there once, and the policy answers with an identifier.
-/
namespace RecordMapper.Validation

open RecordMapper.Config RecordMapper.Naming RecordMapper.Schema

theorem name_eq_ok_iff {answer : Value} {name : String} :
    Policy.name answer = .ok name ↔ answer = .text name := by
  cases answer <;> simp [Policy.name]

/-- Checked one by one, the columns have names of their own and accepted fields. -/
theorem fields_of_errorFree {config : Settings} {table : String} {seen : List String}
    {columns : List Column} {issues : List Issue}
    (h : fieldNameIssues config table seen columns = .ok issues) (hfree : ErrorFree issues) :
    (∀ column ∈ columns, column.name ∉ seen ∧
      ∃ name, config.fieldName column.name = .text name ∧ isIdentifier name = true) ∧
    (namesOf columns).Nodup := by
  -- The names seen so far grow along the list, so the statement is about any of them.
  induction columns generalizing seen issues with
  | nil => exact ⟨fun _ h => absurd h List.not_mem_nil, List.nodup_nil⟩
  | cons column rest ih =>
    obtain ⟨name, hname, h⟩ := bind_eq_ok_iff.mp h
    obtain ⟨later, hlater, h⟩ := bind_eq_ok_iff.mp h
    cases h
    rw [errorFree_append, errorFree_append] at hfree
    obtain ⟨⟨hduplicate, hinvalid⟩, hrest⟩ := hfree
    have hnew : column.name ∉ seen := by
      intro hseen
      rw [if_pos hseen] at hduplicate
      exact hduplicate _ (List.mem_singleton_self _) rfl
    have hidentifier : isIdentifier name = true := by
      refine Decidable.byContradiction fun hbad => ?_
      rw [if_neg hbad] at hinvalid
      exact hinvalid _ (List.mem_singleton_self _) rfl
    obtain ⟨hothers, hnodup⟩ := ih hlater hrest
    refine ⟨fun other hother => ?_, List.nodup_cons.mpr ⟨fun hmem => ?_, hnodup⟩⟩
    · rcases List.mem_cons.mp hother with rfl | hother
      · exact ⟨hnew, name, name_eq_ok_iff.mp hname, hidentifier⟩
      · obtain ⟨hseen, hfield⟩ := hothers other hother
        exact ⟨fun hmem => hseen (List.mem_cons_of_mem _ hmem), hfield⟩
    · obtain ⟨other, hother, hsame⟩ := List.mem_map.mp hmem
      exact (hothers other hother).1 (hsame ▸ List.mem_cons_self ..)

/-- Columns of which each is defined once and has an identifier as its field. -/
structure ProperColumns (config : Settings) (columns : List Column) : Prop where
  filled : columns ≠ []
  nodup : (namesOf columns).Nodup
  named : ∀ column ∈ columns, ∃ name, config.fieldName column.name = .text name ∧
    isIdentifier name = true

theorem properColumns_of_check {tables : List Table} {config : Settings} {checkup : Checkup}
    (h : check tables config = .ok checkup) (hvalid : checkup.report.hasErrors = false)
    {table : Table} (htable : table ∈ tables) : ProperColumns config table.columns := by
  obtain ⟨-, ⟨issues, hissues, hfree⟩, -⟩ := errorFree_of_check h hvalid
  obtain ⟨lists, hlists, -⟩ := bind_eq_ok_iff.mp hissues
  obtain ⟨own, hown⟩ := exists_of_mapM_eq_ok hlists table htable
  have hownFree : ErrorFree own := fun issue hissue =>
    hfree issue ((mem_each_iff hissues).mpr ⟨table, htable, own, hown, hissue⟩)
  unfold checkColumnsOf at hown
  split at hown
  · cases hown
    exact absurd rfl (hownFree _ (List.mem_singleton_self _))
  · rename_i hcolumns
    obtain ⟨single, hsingle, hown⟩ := bind_eq_ok_iff.mp hown
    obtain ⟨names, -, hown⟩ := bind_eq_ok_iff.mp hown
    cases hown
    obtain ⟨hfields, hnodup⟩ := fields_of_errorFree hsingle (errorFree_append.mp hownFree).1
    exact ⟨fun hempty => hcolumns (List.isEmpty_iff.mpr hempty), hnodup,
      fun column hcolumn => (hfields column hcolumn).2⟩

end RecordMapper.Validation
