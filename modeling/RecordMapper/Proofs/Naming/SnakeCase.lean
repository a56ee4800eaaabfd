import RecordMapper.Proofs.Naming.Identifier
import RecordMapper.Proofs.Text.Case
import RecordMapper.Proofs.Text.Lines

/-!
# Snake case

A canonical name is made of words with one underscore between any two. Its lower camel case has a
capital just where a word after the first one begins, so a name is found again by the capitals of
its lower camel case.
-/
namespace RecordMapper.Naming

open RecordMapper.Text

/-- Small letters and digits of ASCII, a letter first. -/
def CanonicalWord : List Char → Prop
  | [] => False
  | first :: rest => first.isLower = true ∧ ∀ c ∈ rest, c.isLower = true ∨ c.isDigit = true

/-- The words between underscores are canonical; none is empty. -/
def Canonical (name : String) : Prop := ∀ word ∈ pieces '_' name.toList, CanonicalWord word

instance (word : List Char) : Decidable (CanonicalWord word) :=
  match word with
  | [] => inferInstanceAs (Decidable False)
  | _ :: rest => @instDecidableAnd _ _ _ (List.decidableBAll _ rest)

instance (name : String) : Decidable (Canonical name) := List.decidableBAll _ _

/-- A capital becomes an underscore and the small letter. -/
def snakeChar (c : Char) : List Char := if c.isUpper then ['_', c.toLower] else [c]

/-- Puts an underscore before every capital and makes it small. -/
def snakeCase (name : String) : String := String.ofList (name.toList.flatMap snakeChar)

section Words

variable {word : List Char} {c : Char}

theorem CanonicalWord.small (h : CanonicalWord word) (hc : c ∈ word) :
    c.isLower = true ∨ c.isDigit = true := by
  cases word with
  | nil => exact absurd hc List.not_mem_nil
  | cons first rest =>
    rcases List.mem_cons.mp hc with rfl | hc
    · exact .inl h.1
    · exact h.2 c hc

theorem isUpper_of_small (h : c.isLower = true ∨ c.isDigit = true) : c.isUpper = false := by
  rw [Bool.eq_false_iff]
  intro hupper
  rcases h with hlower | hdigit
  · exact Char.not_isLower_of_isUpper hupper hlower
  · exact absurd (Nat.le_trans (isUpper_iff.mp hupper).1 (isDigit_iff.mp hdigit).2) (by decide)

theorem toLower_of_small (h : c.isLower = true ∨ c.isDigit = true) : c.toLower = c := by
  refine Char.toLower_eq_of_not_isUpper ?_
  rw [isUpper_of_small h]
  exact Bool.false_ne_true

theorem lt_of_small (h : c.isLower = true ∨ c.isDigit = true) : c.toNat < 128 :=
  h.elim lt_of_isLower lt_of_isDigit

theorem isBlank_of_isLower (h : c.isLower = true) : isBlank c = false := by
  have hcode := isLower_iff.mp h
  rw [Bool.eq_false_iff]
  intro hblank
  simp only [isBlank, Bool.or_eq_true, Bool.and_eq_true, decide_eq_true_eq, beq_iff_eq] at hblank
  omega

theorem isUpper_toUpper_of_isLower (h : c.isLower = true) : c.toUpper.isUpper = true := by
  simp [Char.isAlpha, h]

theorem toUpper_toLower_of_isLower (h : c.isLower = true) : c.toUpper.toLower = c := by
  rw [Char.toLower_toUpper_eq_toLower, toLower_of_small (.inl h)]

/-- A canonical word in proper case has a capital first and is the same after that. -/
theorem properChars_of_canonical {first : Char} {rest : List Char}
    (h : CanonicalWord (first :: rest)) : properChars (first :: rest) = first.toUpper :: rest := by
  have hword : ¬(first :: rest).all isBlank = true := by
    rw [List.all_cons, isBlank_of_isLower h.1]
    exact Bool.false_ne_true
  have hrest : rest.map Char.toLower = rest :=
    List.map_congr_left (fun c hc => toLower_of_small (h.2 c hc)) |>.trans (List.map_id rest)
  rw [properChars, if_neg hword, upperChar_of_ascii (lt_of_isLower h.1),
    lowerAfter_of_ascii [] fun c hc => lt_of_small (h.2 c hc), hrest]
  rfl

theorem snakeChars_of_small (h : ∀ c ∈ word, c.isLower = true ∨ c.isDigit = true) :
    word.flatMap snakeChar = word := by
  induction word with
  | nil => rfl
  | cons c rest ih =>
    have hc : snakeChar c = [c] := by
      rw [snakeChar, isUpper_of_small (h c (List.mem_cons_self ..))]
      rfl
    rw [List.flatMap_cons, hc, ih fun d hd => h d (List.mem_cons_of_mem _ hd),
      List.singleton_append]

/-- The capital of a word tells where the underscore before the word was. -/
theorem snakeChars_properChars (h : CanonicalWord word) :
    (properChars word).flatMap snakeChar = '_' :: word := by
  cases word with
  | nil => exact absurd h id
  | cons first rest =>
    have hfirst : snakeChar first.toUpper = ['_', first] := by
      rw [snakeChar, if_pos (isUpper_toUpper_of_isLower h.1), toUpper_toLower_of_isLower h.1]
    rw [properChars_of_canonical h, List.flatMap_cons, hfirst, snakeChars_of_small h.2]
    rfl

end Words

section Names

variable {name : String}

/-- The lower camel case of a canonical name is its first word as it is and the others in proper
case. -/
theorem lowerCamelChars_of_canonical {cs word : List Char} {rest : List (List Char)}
    (hpieces : pieces '_' cs = word :: rest) (h : CanonicalWord word) :
    lowerCamelChars cs = word ++ rest.flatMap properChars := by
  cases word with
  | nil => exact absurd h id
  | cons first tail =>
    have hascii : ∀ c ∈ [first.toUpper], c.toNat < 128 := by
      intro c hc
      rw [List.mem_singleton.mp hc]
      exact lt_of_isUpper (isUpper_toUpper_of_isLower h.1)
    rw [lowerCamelChars, camelChars, hpieces, List.flatMap_cons, properChars_of_canonical h,
      List.cons_append]
    simp only [lowerAfter_of_ascii [] hascii, List.map_cons, List.map_nil,
      toUpper_toLower_of_isLower h.1, List.cons_append, List.nil_append]

/-- Lower camel case is undone on canonical names. -/
theorem snakeCase_lowerCamelCase (h : Canonical name) : snakeCase (lowerCamelCase name) = name := by
  obtain ⟨word, rest, hpieces⟩ := List.exists_cons_of_ne_nil (pieces_ne_nil '_' name.toList)
  rw [Canonical, hpieces] at h
  have hword : CanonicalWord word := h word (List.mem_cons_self ..)
  have hname : name.toList = word ++ rest.flatMap ('_' :: ·) := by
    rw [← intercalate_pieces '_' name.toList, hpieces, intercalate_cons]
  have hrest : (rest.flatMap properChars).flatMap snakeChar = rest.flatMap ('_' :: ·) := by
    rw [List.flatMap_assoc]
    exact List.flatMap_congr fun other hother =>
      snakeChars_properChars (h other (List.mem_cons_of_mem _ hother))
  apply String.toList_injective
  rw [snakeCase, lowerCamelCase, String.toList_ofList, String.toList_ofList,
    lowerCamelChars_of_canonical hpieces hword, List.flatMap_append,
    snakeChars_of_small fun c hc => hword.small hc, hrest, hname]

/-- Snake case would keep a back-quote, and a canonical name has none. -/
theorem backQuote_not_mem_lowerCamelCase (h : Canonical name) :
    '\x60' ∉ (lowerCamelCase name).toList := by
  intro hmem
  have hsnake : '\x60' ∈ (snakeCase (lowerCamelCase name)).toList := by
    rw [snakeCase, String.toList_ofList, List.mem_flatMap]
    exact ⟨_, hmem, by decide⟩
  rw [snakeCase_lowerCamelCase h, ← exists_mem_pieces_iff (show '\x60' ≠ '_' by decide)] at hsnake
  obtain ⟨word, hword, hquote⟩ := hsnake
  have hsmall := (h word hword).small hquote
  revert hsmall
  decide

/-- Without back-quotes, the field that a canonical name gets by itself is its lower camel case. -/
theorem unquote_plainFieldName (h : Canonical name) :
    unquote (plainFieldName name) = lowerCamelCase name := by
  unfold plainFieldName quoteReserved
  split
  · exact unquote_backQuoted _
  · exact unquote_of_free (backQuote_not_mem_lowerCamelCase h)

end Names

end RecordMapper.Naming
