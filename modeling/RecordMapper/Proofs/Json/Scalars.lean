import Mathlib.Data.List.TakeWhile
import RecordMapper.Json.Printer
import RecordMapper.Json.Reader

/-!
# Strings and whole numbers in JSON

A string is read back character by character: what is written for a character is read as this
character, whatever comes after it. A whole number is read back from its digits in front of anything
that cannot be taken for more of a number.
-/
namespace RecordMapper.Json

open RecordMapper.Text

section Strings

theorem hex_four : ∀ n < 32, hex 4 n = ['0', '0', (n / 16).digitChar, (n % 16).digitChar] := by
  decide

theorem hexUnit?_digits :
    ∀ n < 32, hexUnit? '0' '0' (n / 16).digitChar (n % 16).digitChar = some n := by
  decide

/-- A unit below the surrogates stands for itself, whatever comes after it. -/
theorem readString_unit {a b c d : Char} {unit : Nat} (hunit : hexUnit? a b c d = some unit)
    (hlow : unit < 0xD800) (done rest : List Char) :
    readString done ('\\' :: 'u' :: a :: b :: c :: d :: rest) =
      readString (Char.ofNat unit :: done) rest := by
  by_cases hpair : ∃ e f g h more, rest = '\\' :: 'u' :: e :: f :: g :: h :: more
  · obtain ⟨e, f, g, h, more, rfl⟩ := hpair
    rw [readString, hunit]
    cases hexUnit? e f g h with
    | none => rfl
    | some low => simp [Nat.not_le.mpr hlow]
  · rw [readString, hunit]
    exact fun e f g h more hrest => hpair ⟨e, f, g, h, more, hrest⟩

theorem readString_simple {c e : Char} (hc : c ≠ 'u') (he : simpleEscape? c = some e)
    (done rest : List Char) :
    readString done ('\\' :: c :: rest) = readString (e :: done) rest := by
  rw [readString, he]
  · exact fun _ _ _ _ _ _ _ _ _ h _ => hc h
  · exact fun _ _ _ _ _ h _ => hc h

theorem readString_plain {c : Char} (hquote : c ≠ '\x22') (hbackslash : c ≠ '\\')
    (hcontrol : ¬c.toNat < 32) (done rest : List Char) :
    readString done (c :: rest) = readString (c :: done) rest := by
  rw [readString]
  · simp [hcontrol, hbackslash]
  · exact hquote
  · exact fun _ _ _ _ _ _ _ _ _ h _ => hbackslash h
  · exact fun _ _ _ _ _ h _ => hbackslash h
  · exact fun _ _ h _ => hbackslash h

/-- What a character is written as is read as this character. -/
theorem readString_escapeChar (c : Char) (done rest : List Char) :
    readString done (escapeChar c ++ rest) = readString (c :: done) rest := by
  have hsimple {letter : Char} (hu : letter ≠ 'u') (hletter : simpleEscape? letter = some c) :
      readString done (['\\', letter] ++ rest) = readString (c :: done) rest :=
    readString_simple hu hletter done rest
  unfold escapeChar
  split
  next h => exact hsimple (by decide) (by rw [h]; rfl)
  next hquote =>
  split
  next h => exact hsimple (by decide) (by rw [h]; rfl)
  next hbackslash =>
  split
  next h => exact hsimple (by decide) (by rw [h]; rfl)
  split
  next h => exact hsimple (by decide) (by rw [h]; rfl)
  split
  next h => exact hsimple (by decide) (by rw [h]; rfl)
  split
  next h => exact hsimple (by decide) (by rw [h]; rfl)
  split
  next h => exact hsimple (by decide) (by rw [h]; rfl)
  split
  next hcontrol =>
    have hunit := readString_unit (hexUnit?_digits c.toNat hcontrol) (by omega) done rest
    rw [Char.ofNat_toNat] at hunit
    rw [hex_four c.toNat hcontrol]
    exact hunit
  next hcontrol => exact readString_plain hquote hbackslash hcontrol done rest

theorem readString_escaped (text done rest : List Char) :
    readString done (text.flatMap escapeChar ++ '\x22' :: rest) =
      some (String.ofList (done.reverse ++ text), rest) := by
  induction text generalizing done with
  | nil => rw [List.flatMap_nil, List.nil_append, readString, List.append_nil]
  | cons c more ih =>
    rw [List.flatMap_cons, List.append_assoc, readString_escapeChar, ih, List.reverse_cons,
      List.append_assoc, List.singleton_append]

theorem toList_quote (s : String) :
    (quote s).toList = '\x22' :: (s.toList.flatMap escapeChar ++ ['\x22']) := by
  rw [quote, String.toList_ofList]
  rfl

theorem readString_quote (s : String) (rest : List Char) :
    readString [] (s.toList.flatMap escapeChar ++ '\x22' :: rest) = some (s, rest) := by
  rw [readString_escaped, List.reverse_nil, List.nil_append, String.ofList_toList]

end Strings

section Numbers

/-- What ends a value in a text: white space, a comma or a closing bracket. -/
def isStop (c : Char) : Bool := isSpace c || c = ',' || c = ']' || c = '\x7d'

/-- Nothing here can be taken for more of a value. -/
def Stops (rest : List Char) : Prop := ∀ c ∈ rest.head?, isStop c = true

theorem ne_of_isStop {c d : Char} (h : isStop c = true) (hd : isStop d = false) : c ≠ d := by
  rintro rfl
  rw [h] at hd
  cases hd

theorem isDigit_of_isStop {c : Char} (h : isStop c = true) : c.isDigit = false := by
  simp only [isStop, isSpace, Bool.or_eq_true, decide_eq_true_eq] at h
  rcases h with (((((rfl | rfl) | rfl) | rfl) | rfl) | rfl) | rfl <;> rfl

theorem stops_cons {c : Char} (h : isStop c = true) (rest : List Char) : Stops (c :: rest) := by
  intro d hd
  obtain rfl : c = d := by simpa using hd
  exact h

theorem digitsValue_toDigits (n : Nat) : digitsValue (Nat.toDigits 10 n) = n := by
  have hvalue (digits : List Char) : digitsValue digits = Nat.ofDigitChars 10 digits 0 := by
    simp only [digitsValue, Nat.ofDigitChars_eq_foldl, Nat.mul_comm 10]
    rfl
  rw [hvalue, Nat.ofDigitChars_ten_toDigits]

/-- No number but zero has zero for its first digit. -/
theorem eq_zero_of_toDigits {n : Nat} {rest : List Char} (h : Nat.toDigits 10 n = '0' :: rest) :
    n = 0 := by
  induction n using Nat.strongRecOn generalizing rest with
  | ind n ih =>
    rw [Nat.toDigits_eq_if (by decide)] at h
    split at h
    · exact Nat.digitChar_eq_zero.mp (List.cons.inj h).1
    next hlarge =>
      obtain ⟨first, others, hdigits⟩ := List.exists_cons_of_ne_nil
        (Nat.toDigits_ne_nil : Nat.toDigits 10 (n / 10) ≠ [])
      rw [hdigits, List.cons_append, List.cons.injEq] at h
      rw [h.1] at hdigits
      have := ih (n / 10) (by omega) hdigits
      omega

theorem takeWhile_isDigit_toDigits (n : Nat) {rest : List Char} (h : Stops rest) :
    (Nat.toDigits 10 n ++ rest).takeWhile Char.isDigit = Nat.toDigits 10 n := by
  have hrest : rest.takeWhile Char.isDigit = [] := by
    cases rest with
    | nil => rfl
    | cons c more => simp [isDigit_of_isStop (h c rfl)]
  rw [List.takeWhile_append_of_pos fun c hc =>
    Nat.isDigit_of_mem_toDigits (by decide) (by decide) hc, hrest, List.append_nil]

theorem readFraction_of_stops {rest : List Char} (h : Stops rest) :
    readFraction rest = (none, rest) := by
  unfold readFraction
  split
  · exact absurd rfl (ne_of_isStop (h '.' rfl) (by decide))
  · rfl

theorem readExponent_of_stops {rest : List Char} (h : Stops rest) :
    readExponent rest = (none, rest) := by
  cases rest with
  | nil => rfl
  | cons c more =>
    have hlower := ne_of_isStop (h c rfl) (show isStop 'e' = false by decide)
    have hupper := ne_of_isStop (h c rfl) (show isStop 'E' = false by decide)
    simp [readExponent, hlower, hupper]

theorem isDigit_of_toDigits {n : Nat} {first : Char} {others : List Char}
    (h : Nat.toDigits 10 n = first :: others) : first.isDigit = true :=
  Nat.isDigit_of_mem_toDigits (by decide) (by decide) (h ▸ List.mem_cons_self)

/-- A number is read from its digits, with or without a sign before them. -/
theorem readNumber_digits (n : Nat) {rest : List Char} (h : Stops rest) :
    readNumber (Nat.toDigits 10 n ++ rest) = some (.int n, rest) ∧
      readNumber ('-' :: (Nat.toDigits 10 n ++ rest)) = some (.int (-n), rest) := by
  by_cases hzero : n = 0
  · subst hzero
    simp [readNumber, readFraction_of_stops h, readExponent_of_stops h, digitsValue]
  · obtain ⟨first, others, hdigits⟩ :=
      List.exists_cons_of_ne_nil (Nat.toDigits_ne_nil : Nat.toDigits 10 n ≠ [])
    have hfirst : first ≠ '0' := by
      rintro rfl
      exact hzero (eq_zero_of_toDigits hdigits)
    have hminus : first ≠ '-' := by
      rintro rfl
      exact absurd (isDigit_of_toDigits hdigits) (by decide)
    have hwhole := takeWhile_isDigit_toDigits n h
    have hvalue := digitsValue_toDigits n
    rw [hdigits] at hwhole hvalue ⊢
    simp [readNumber, readFraction_of_stops h, readExponent_of_stops h, hfirst, hminus, hvalue,
      List.cons_append ▸ hwhole]

/-- The digits of a number come after its sign. -/
theorem toList_toString (n : Int) :
    (n = n.natAbs ∧ (toString n).toList = Nat.toDigits 10 n.natAbs) ∨
      (n = -n.natAbs ∧ (toString n).toList = '-' :: Nat.toDigits 10 n.natAbs) := by
  cases n with
  | ofNat m => exact .inl ⟨rfl, Nat.toList_repr⟩
  | negSucc m =>
    refine .inr ⟨rfl, ?_⟩
    rw [show toString (Int.negSucc m) = "-" ++ (m + 1).repr from rfl, String.toList_append,
      Nat.toList_repr]
    rfl

theorem exists_digits (n : Nat) : ∃ first others, Nat.toDigits 10 n = first :: others ∧
    first.isDigit = true := by
  obtain ⟨first, others, hfirst⟩ :=
    List.exists_cons_of_ne_nil (Nat.toDigits_ne_nil : Nat.toDigits 10 n ≠ [])
  exact ⟨first, others, hfirst, isDigit_of_toDigits hfirst⟩

/-- A digit stands in front, or a sign and then a digit. -/
def BeginsNumber (first : Char) (rest : List Char) : Prop :=
  first.isDigit = true ∨ first = '-' ∧ ∃ next more, rest = next :: more ∧ next.isDigit = true

theorem BeginsNumber.append {first : Char} {rest : List Char} (h : BeginsNumber first rest)
    (more : List Char) : BeginsNumber first (rest ++ more) := by
  refine h.imp_right fun ⟨hsign, next, others, hrest, hnext⟩ => ?_
  exact ⟨hsign, next, others ++ more, by rw [hrest, List.cons_append], hnext⟩

theorem exists_toList_toString (n : Int) :
    ∃ first more, (toString n).toList = first :: more ∧ BeginsNumber first more := by
  obtain ⟨first, others, hfirst, hdigit⟩ := exists_digits n.natAbs
  rcases toList_toString n with ⟨-, hdigits⟩ | ⟨-, hdigits⟩
  · exact ⟨first, others, hdigits.trans hfirst, .inl hdigit⟩
  · exact ⟨'-', _, hdigits, .inr ⟨rfl, first, others, hfirst, hdigit⟩⟩

theorem readNumber_toString (n : Int) {rest : List Char} (h : Stops rest) :
    readNumber ((toString n).toList ++ rest) = some (.int n, rest) := by
  obtain ⟨hplain, hsigned⟩ := readNumber_digits n.natAbs h
  rcases toList_toString n with ⟨hn, hdigits⟩ | ⟨hn, hdigits⟩
  · rw [hdigits, hplain, ← hn]
  · rw [hdigits, List.cons_append, hsigned, ← hn]

end Numbers

end RecordMapper.Json
