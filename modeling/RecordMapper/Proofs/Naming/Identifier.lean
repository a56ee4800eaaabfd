import RecordMapper.Naming
import RecordMapper.Naming.Identifier

/-!
# Languages of identifiers

What the recognisers of identifiers accept, told by the characters of a name. Two identifiers are
one name without back-quotes only if they are equal or one is the other in back-quotes.
-/
namespace RecordMapper.Naming

/-- What may follow a name: nothing, or one line break. -/
def IsEnding (cs : List Char) : Prop := cs = [] ∨ cs = ['\n']

/-- A character that starts an identifier, and then characters that continue one. -/
def PlainIdentifier (name : String) : Prop :=
  ∃ first rest ending, name.toList = first :: rest ++ ending ∧ isIdentifierStart first = true ∧
    (∀ c ∈ rest, isIdentifierPart c = true) ∧ IsEnding ending

/-- Back-quotes around something without back-quotes. -/
def QuotedIdentifier (name : String) : Prop :=
  ∃ inner ending, name.toList = '\x60' :: inner ++ '\x60' :: ending ∧ inner ≠ [] ∧
    '\x60' ∉ inner ∧ IsEnding ending

theorem isEnding_of_dropFinalBreak (cs : List Char) :
    ∃ ending, IsEnding ending ∧ cs = dropFinalBreak cs ++ ending := by
  unfold dropFinalBreak
  split
  · rename_i hlast
    refine ⟨['\n'], .inr rfl, ?_⟩
    rw [List.getLast?_eq_some_iff] at hlast
    obtain ⟨before, rfl⟩ := hlast
    rw [List.dropLast_concat]
  · exact ⟨[], .inl rfl, (List.append_nil _).symm⟩

theorem dropFinalBreak_append {cs ending : List Char} (hcs : cs.getLast? ≠ some '\n')
    (hending : IsEnding ending) : dropFinalBreak (cs ++ ending) = cs := by
  unfold dropFinalBreak
  rcases hending with rfl | rfl
  · rw [List.append_nil, if_neg hcs]
  · rw [if_pos List.getLast?_concat, List.dropLast_concat]

theorem isPlainIdentifier_iff {name : String} :
    isPlainIdentifier name = true ↔ PlainIdentifier name := by
  constructor
  · intro h
    obtain ⟨ending, hending, hname⟩ := isEnding_of_dropFinalBreak name.toList
    unfold isPlainIdentifier at h
    split at h
    · rename_i first rest hword
      rw [hword] at hname
      rw [Bool.and_eq_true, List.all_eq_true] at h
      exact ⟨first, rest, ending, hname, h.1, h.2, hending⟩
    · cases h
  · rintro ⟨first, rest, ending, hname, hfirst, hrest, hending⟩
    have hword : dropFinalBreak name.toList = first :: rest := by
      rw [hname]
      refine dropFinalBreak_append (fun hlast => ?_) hending
      rcases List.mem_cons.mp (List.mem_of_getLast? hlast) with rfl | hmem
      · cases hfirst
      · cases hrest _ hmem
    unfold isPlainIdentifier
    rw [hword]
    exact Bool.and_eq_true_iff.mpr ⟨hfirst, List.all_eq_true.mpr hrest⟩

theorem isIdentifierPart_of_isIdentifierStart {c : Char} (h : isIdentifierStart c = true) :
    isIdentifierPart c = true := by
  simp only [isIdentifierStart, Bool.or_eq_true] at h
  simp only [isIdentifierPart, Char.isAlphanum, Bool.or_eq_true]
  rcases h with (h | h) | h
  · exact .inl (.inl (.inl h))
  · exact .inl (.inr h)
  · exact .inr h

/-- An identifier has no character that cannot be a part of one, but for a break at its end. -/
theorem not_mem_of_isPlainIdentifier {name : String} (h : isPlainIdentifier name = true) {c : Char}
    (hpart : isIdentifierPart c = false) (hbreak : c ≠ '\n') : c ∉ name.toList := by
  obtain ⟨first, rest, ending, hname, hfirst, hrest, hending⟩ := isPlainIdentifier_iff.mp h
  rw [hname]
  intro hmem
  rcases List.mem_append.mp hmem with hmem | hmem
  · rcases List.mem_cons.mp hmem with rfl | hmem
    · rw [isIdentifierPart_of_isIdentifierStart hfirst] at hpart
      cases hpart
    · rw [hrest c hmem] at hpart
      cases hpart
  · rcases hending with rfl | rfl
    · cases hmem
    · exact hbreak (List.mem_singleton.mp hmem)

theorem isQuotedIdentifier_iff {name : String} :
    isQuotedIdentifier name = true ↔ QuotedIdentifier name := by
  constructor
  · intro h
    obtain ⟨ending, hending, hname⟩ := isEnding_of_dropFinalBreak name.toList
    unfold isQuotedIdentifier at h
    split at h
    · rename_i rest hword
      simp only [Bool.and_eq_true, decide_eq_true_eq, Bool.not_eq_true', List.all_eq_true] at h
      obtain ⟨⟨hlast, hne⟩, hall⟩ := h
      obtain ⟨inner, rfl⟩ := List.getLast?_eq_some_iff.mp hlast
      rw [List.dropLast_concat] at hne hall
      have hfilled : inner ≠ [] := List.isEmpty_eq_false_iff.mp hne
      refine ⟨inner, ending, ?_, hfilled, fun hmem => hall _ hmem rfl, hending⟩
      rw [hname, hword, List.cons_append, List.append_assoc]
      rfl
    · cases h
  · rintro ⟨inner, ending, hname, hne, hfree, hending⟩
    have hword : dropFinalBreak name.toList = '\x60' :: (inner ++ ['\x60']) := by
      rw [hname, show '\x60' :: inner ++ '\x60' :: ending =
        '\x60' :: (inner ++ ['\x60']) ++ ending by simp]
      refine dropFinalBreak_append ?_ hending
      rw [← List.cons_append, List.getLast?_concat]
      decide
    unfold isQuotedIdentifier
    rw [hword]
    simp only [List.getLast?_concat, List.dropLast_concat, decide_true, Bool.true_and,
      Bool.and_eq_true, Bool.not_eq_true', List.isEmpty_eq_false_iff, List.all_eq_true,
      decide_eq_true_eq]
    exact ⟨hne, fun c hc heq => hfree (heq ▸ hc)⟩

theorem isIdentifier_iff {name : String} :
    isIdentifier name = true ↔ PlainIdentifier name ∨ QuotedIdentifier name := by
  rw [isIdentifier, Bool.or_eq_true, isPlainIdentifier_iff, isQuotedIdentifier_iff]

section BackQuotes

def backQuoted (name : String) : String := "`" ++ name ++ "`"

theorem toList_backQuoted (name : String) :
    (backQuoted name).toList = '\x60' :: name.toList ++ ['\x60'] := by
  rw [backQuoted, String.toList_append, String.toList_append]
  rfl

theorem unquote_backQuoted (name : String) : unquote (backQuoted name) = name := by
  unfold unquote
  rw [toList_backQuoted]
  simp

theorem unquote_of_free {name : String} (h : '\x60' ∉ name.toList) : unquote name = name := by
  unfold unquote
  split
  · rename_i rest hname
    rw [hname] at h
    exact absurd (List.mem_cons_self ..) h
  · rfl

/-- What changes without its back-quotes is made of them and the rest. -/
theorem eq_backQuoted_of_unquote_ne {name : String} (h : unquote name ≠ name) :
    name = backQuoted (unquote name) := by
  unfold unquote at h ⊢
  split at h
  · rename_i rest hname
    split at h
    · rename_i hlast
      obtain ⟨inner, rfl⟩ := List.getLast?_eq_some_iff.mp hlast
      apply String.toList_inj.mp
      rw [toList_backQuoted]
      simp [hname]
    · exact absurd rfl h
  · exact absurd rfl h

theorem free_of_isIdentifier_backQuoted {name : String}
    (h : isIdentifier (backQuoted name) = true) : '\x60' ∉ name.toList := by
  rcases isIdentifier_iff.mp h with ⟨first, rest, ending, hname, hfirst, -⟩ |
    ⟨inner, ending, hname, -, hfree, hending⟩
  · rw [toList_backQuoted, List.cons_append, List.cons_append] at hname
    rw [← (List.cons.inj hname).1] at hfirst
    cases hfirst
  · rw [toList_backQuoted, List.cons_append, List.cons_append] at hname
    have htail := (List.cons.inj hname).2
    rcases hending with rfl | rfl
    · rwa [(List.append_inj' htail rfl).1]
    · -- A line break is no back-quote.
      have hlast := congrArg List.getLast? htail
      simp at hlast

/-- When two identifiers are one name without back-quotes. -/
theorem unquote_eq_unquote_iff {first second : String} (hfirst : isIdentifier first = true)
    (hsecond : isIdentifier second = true) :
    unquote first = unquote second ↔
      first = second ∨ first = backQuoted second ∨ second = backQuoted first := by
  constructor
  · intro h
    by_cases hf : unquote first = first
    · by_cases hs : unquote second = second
      · exact .inl (by rw [← hf, h, hs])
      · exact .inr (.inr (by rw [eq_backQuoted_of_unquote_ne hs, ← h, hf]))
    · by_cases hs : unquote second = second
      · exact .inr (.inl (by rw [eq_backQuoted_of_unquote_ne hf, h, hs]))
      · exact .inl (by rw [eq_backQuoted_of_unquote_ne hf, h, ← eq_backQuoted_of_unquote_ne hs])
  · rintro (rfl | rfl | rfl)
    · rfl
    · rw [unquote_backQuoted, unquote_of_free (free_of_isIdentifier_backQuoted hfirst)]
    · rw [unquote_backQuoted, unquote_of_free (free_of_isIdentifier_backQuoted hsecond)]

end BackQuotes

end RecordMapper.Naming
