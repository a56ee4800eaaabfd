import RecordMapper.Naming
import RecordMapper.Proofs.Text.Lines
import RecordMapper.Text.Quoted

/-!
# Nested brackets

A text is nested if its parentheses, square brackets and braces open and close in pairs. Reading
keeps the brackets that are still to be closed. A nested text leaves them as they were, whatever was
open before it, so a text put together from parts is read part by part: the nested parts drop out,
and what remains is the fixed text around them.
-/
namespace RecordMapper.Text

/-- The bracket that closes an opening one. -/
def closing? : Char → Option Char
  | '(' => some ')'
  | '[' => some ']'
  | '\x7b' => some '\x7d'
  | _ => none

def isClosing (c : Char) : Bool := c = ')' || c = ']' || c = '\x7d'

def isBracket (c : Char) : Bool := (closing? c).isSome || isClosing c

def brackets : List Char := ['(', ')', '[', ']', '\x7b', '\x7d']

/-- Every bracket has its partner, and what is between two partners is balanced as well. -/
inductive Balanced : List Char → Prop
  | nil : Balanced []
  | other {c : Char} {rest : List Char} (hfree : isBracket c = false) (hrest : Balanced rest) :
      Balanced (c :: rest)
  | pair {opened closed : Char} {inner rest : List Char} (hclosing : closing? opened = some closed)
      (hinner : Balanced inner) (hrest : Balanced rest) :
      Balanced (opened :: (inner ++ closed :: rest))

def Nested (text : String) : Prop := Balanced text.toList

/-- The brackets still to be closed, innermost first; nothing after a bracket that does not fit. -/
abbrev Awaited := Option (List Char)

/-- Reading one character. -/
def meet : Awaited → Char → Awaited
  | none, _ => none
  | some awaited, c =>
    match closing? c with
    | some closed => some (closed :: awaited)
    | none =>
      if isClosing c then
        match awaited with
        | next :: rest => if next = c then some rest else none
        | [] => none
      else some awaited

/-- Reading a text. -/
def readText (awaited : Awaited) (text : String) : Awaited := text.toList.foldl meet awaited

/-- Reading texts one after another. -/
def readTexts (awaited : Awaited) (texts : List String) : Awaited := texts.foldl readText awaited

section Grammar

theorem mem_brackets {c : Char} (h : isBracket c = true) : c ∈ brackets := by
  unfold isBracket isClosing closing? at h
  split at h
  · decide
  · decide
  · decide
  · have hclosing : (c = ')' ∨ c = ']') ∨ c = '\x7d' := by simpa using h
    rcases hclosing with (rfl | rfl) | rfl <;> decide

/-- What all brackets lack tells a character from them. -/
theorem isBracket_of_lacking {p : Char → Bool} (hlacking : brackets.any p = false) {c : Char}
    (h : p c = true) : isBracket c = false := by
  cases hbracket : isBracket c with
  | false => rfl
  | true => exact absurd h (List.any_eq_false.mp hlacking c (mem_brackets hbracket))

theorem closing?_eq_some {opened closed : Char} (h : closing? opened = some closed) :
    closing? closed = none ∧ isClosing closed = true := by
  unfold closing? at h
  split at h <;> cases h <;> decide

theorem isBracket_eq_false_iff {c : Char} :
    isBracket c = false ↔ closing? c = none ∧ isClosing c = false := by simp [isBracket]

theorem meet_of_free {c : Char} (h : isBracket c = false) (awaited : Awaited) :
    meet awaited c = awaited := by
  obtain ⟨hopening, hclosing⟩ := isBracket_eq_false_iff.mp h
  cases awaited <;> simp [meet, hopening, hclosing]

theorem meet_of_closing? {opened closed : Char} (h : closing? opened = some closed)
    (awaited : List Char) : meet (some awaited) opened = some (closed :: awaited) := by
  simp [meet, h]

theorem foldl_meet_none (cs : List Char) : cs.foldl meet none = none := by
  induction cs with
  | nil => rfl
  | cons c rest ih => exact ih

theorem forall_free {cs : List Char} (h : cs.any isBracket = false) :
    ∀ c ∈ cs, isBracket c = false := by simpa using h

theorem foldl_meet_of_free {cs : List Char} (h : ∀ c ∈ cs, isBracket c = false)
    (awaited : Awaited) : cs.foldl meet awaited = awaited := by
  induction cs with
  | nil => rfl
  | cons c rest ih =>
    rw [List.foldl_cons, meet_of_free (h c (List.mem_cons_self ..))]
    exact ih fun d hd => h d (List.mem_cons_of_mem _ hd)

theorem Balanced.append {cs more : List Char} (hcs : Balanced cs) (hmore : Balanced more) :
    Balanced (cs ++ more) := by
  induction hcs with
  | nil => exact hmore
  | other hfree _ ih => exact .other hfree ih
  | pair hclosing hinner _ _ ih =>
    rw [List.cons_append, List.append_assoc, List.cons_append]
    exact .pair hclosing hinner ih

/-- What is balanced leaves the awaited brackets as they were. -/
theorem Balanced.foldl_meet {cs : List Char} (h : Balanced cs) (awaited : Awaited) :
    cs.foldl meet awaited = awaited := by
  induction h generalizing awaited with
  | nil => rfl
  | other hfree _ ih => rw [List.foldl_cons, meet_of_free hfree, ih]
  | @pair opened closed inner rest hclosing _ _ ihinner ihrest =>
    have hback : meet (meet awaited opened) closed = awaited := by
      obtain ⟨hopening, hcloses⟩ := closing?_eq_some hclosing
      cases awaited <;> simp [meet, hclosing, hopening, hcloses]
    rw [List.foldl_cons, List.foldl_append, ihinner, List.foldl_cons, hback, ihrest]

/-- What closes the awaited brackets one by one, with something balanced before each. -/
inductive Closes : List Char → List Char → Prop
  | done {cs : List Char} (h : Balanced cs) : Closes [] cs
  | next {closed : Char} {awaited inner rest : List Char} (hinner : Balanced inner)
      (hrest : Closes awaited rest) : Closes (closed :: awaited) (inner ++ closed :: rest)

theorem Closes.prepend {awaited cs more : List Char} (hmore : Closes awaited more)
    (hcs : Balanced cs) : Closes awaited (cs ++ more) := by
  cases hmore with
  | done h => exact .done (hcs.append h)
  | next hinner hrest =>
    rw [← List.append_assoc]
    exact .next (hcs.append hinner) hrest

theorem closes_of_foldl_meet {awaited cs : List Char} (h : cs.foldl meet (some awaited) = some []) :
    Closes awaited cs := by
  induction cs generalizing awaited with
  | nil =>
    obtain rfl : awaited = [] := Option.some.inj h
    exact .done .nil
  | cons c rest ih =>
    rw [List.foldl_cons] at h
    cases hopening : closing? c with
    | some closed =>
      rw [meet_of_closing? hopening] at h
      cases ih h with
      | @next _ _ inner after hinner hrest =>
        have hsplit : c :: (inner ++ closed :: after) = (c :: (inner ++ [closed])) ++ after := by
          simp
        rw [hsplit]
        exact hrest.prepend (.pair hopening hinner .nil)
    | none =>
      cases hcloses : isClosing c with
      | false =>
        have hfree : isBracket c = false := isBracket_eq_false_iff.mpr ⟨hopening, hcloses⟩
        rw [meet_of_free hfree] at h
        have hfirst : Balanced [c] := .other hfree .nil
        exact (ih h).prepend hfirst
      | true =>
        -- A closing bracket has to be the one awaited next.
        cases awaited with
        | nil => simp [meet, hopening, hcloses, foldl_meet_none] at h
        | cons next awaited =>
          by_cases hnext : next = c
          · subst hnext
            have h' : rest.foldl meet (some awaited) = some [] := by
              simpa [meet, hopening, hcloses] using h
            exact .next .nil (ih h')
          · simp [meet, hopening, hcloses, hnext, foldl_meet_none] at h

theorem balanced_iff {cs : List Char} : Balanced cs ↔ cs.foldl meet (some []) = some [] := by
  constructor
  · exact fun h => h.foldl_meet _
  · intro h
    cases closes_of_foldl_meet h with
    | done h => exact h

theorem nested_iff {text : String} : Nested text ↔ readText (some []) text = some [] := balanced_iff

instance (text : String) : Decidable (Nested text) := decidable_of_iff _ nested_iff.symm

end Grammar

section Reading

variable {awaited : Awaited} {text : String}

theorem Nested.readText_eq (h : Nested text) : readText awaited text = awaited := h.foldl_meet _

@[simp] theorem readText_empty : readText awaited "" = awaited := rfl

theorem readText_append (before after : String) :
    readText awaited (before ++ after) = readText (readText awaited before) after := by
  simp [readText, List.foldl_append]

/-- A literal is read character by character. -/
theorem readText_ofList (cs : List Char) :
    readText awaited (no_index (String.ofList cs)) = cs.foldl meet awaited := by
  rw [readText, String.toList_ofList]

theorem nested_empty : Nested "" := .nil

theorem nested_of_free (h : ∀ c ∈ text.toList, isBracket c = false) : Nested text :=
  balanced_iff.mpr (foldl_meet_of_free h _)

theorem nested_append {before after : String} (hbefore : Nested before) (hafter : Nested after) :
    Nested (before ++ after) := by
  rw [Nested, String.toList_append]
  exact hbefore.append hafter

@[simp] theorem readTexts_nil : readTexts awaited [] = awaited := rfl

theorem readTexts_cons (text : String) (rest : List String) :
    readTexts awaited (text :: rest) = readTexts (readText awaited text) rest := rfl

theorem readTexts_append (texts more : List String) :
    readTexts awaited (texts ++ more) = readTexts (readTexts awaited texts) more :=
  List.foldl_append

end Reading

section Replacing

variable {pattern replacement : List Char}

theorem foldl_meet_replaceFrom (hne : pattern ≠ []) (hpattern : ∀ c ∈ pattern, isBracket c = false)
    (hreplacement : Balanced replacement) (covered : Nat) (cs : List Char) (awaited : Awaited) :
    (replaceFrom pattern replacement covered cs).foldl meet awaited =
      (cs.drop covered).foldl meet awaited := by
  fun_induction replaceFrom pattern replacement covered cs generalizing awaited with
  | case1 => simp
  | case2 covered c rest ih => rw [ih, List.drop_succ_cons]
  | case3 c rest hprefix ih =>
    obtain ⟨after, hafter⟩ := List.isPrefixOf_iff_prefix.mp hprefix
    have hrest : rest.drop (pattern.length - 1) = after := by
      have hpos : 0 < pattern.length := List.length_pos_iff.mpr hne
      rw [← List.drop_succ_cons (a := c), Nat.sub_add_cancel hpos, ← hafter, List.drop_left]
    rw [List.foldl_append, hreplacement.foldl_meet, ih, hrest, List.drop_zero, ← hafter,
      List.foldl_append, foldl_meet_of_free hpattern]
  | case4 c rest hprefix ih => rw [List.foldl_cons, ih, List.drop_zero, List.drop_zero,
      List.foldl_cons]

end Replacing

section Joining

variable {awaited : Awaited} {lines : List String}

theorem readText_join {separator : String} (h : Nested separator) (texts : List String) :
    readText awaited (join separator texts) = readTexts awaited texts := by
  fun_induction join separator texts generalizing awaited with
  | case1 => rfl
  | case2 text => rfl
  | case3 text rest hrest ih =>
    rw [readText_append, readText_append, h.readText_eq, ih, readTexts_cons]

/-- Lines that are nested as a whole, whatever the single ones are. -/
def NestedLines (lines : List String) : Prop := Nested (join "" lines)

instance (lines : List String) : Decidable (NestedLines lines) :=
  inferInstanceAs (Decidable (Nested _))

theorem nestedLines_iff : NestedLines lines ↔ readTexts (some []) lines = some [] := by
  rw [NestedLines, nested_iff, readText_join nested_empty]

theorem NestedLines.readTexts_eq (h : NestedLines lines) : readTexts awaited lines = awaited := by
  rw [← readText_join nested_empty]
  exact h.readText_eq

theorem nestedLines_nil : NestedLines [] := nested_empty

theorem nestedLines_cons {line : String} (hline : Nested line) (hrest : NestedLines lines) :
    NestedLines (line :: lines) := by
  rw [nestedLines_iff, readTexts_cons, hline.readText_eq, hrest.readTexts_eq]

theorem nestedLines_append {more : List String} (hlines : NestedLines lines)
    (hmore : NestedLines more) : NestedLines (lines ++ more) := by
  rw [nestedLines_iff, readTexts_append, hlines.readTexts_eq, hmore.readTexts_eq]

theorem nestedLines_of_nested (h : ∀ line ∈ lines, Nested line) : NestedLines lines := by
  induction lines with
  | nil => exact nestedLines_nil
  | cons line rest ih =>
    exact nestedLines_cons (h line (List.mem_cons_self ..))
      (ih fun other hother => h other (List.mem_cons_of_mem _ hother))

theorem nestedLines_map {α : Type} {items : List α} {f : α → String}
    (h : ∀ item ∈ items, Nested (f item)) : NestedLines (items.map f) :=
  nestedLines_of_nested (by simpa using h)

theorem nestedLines_flatMap {α : Type} {items : List α} {f : α → List String}
    (h : ∀ item ∈ items, NestedLines (f item)) : NestedLines (items.flatMap f) := by
  induction items with
  | nil => exact nestedLines_nil
  | cons item rest ih =>
    rw [List.flatMap_cons]
    exact nestedLines_append (h item (List.mem_cons_self ..))
      (ih fun other hother => h other (List.mem_cons_of_mem _ hother))

end Joining

section Operations

variable {awaited : Awaited}

/-- Brackets are not replaced, and what replaces other text brings its brackets in pairs. -/
theorem readText_replaceAll {pattern replacement : String} (hne : pattern ≠ "")
    (hpattern : ∀ c ∈ pattern.toList, isBracket c = false) (hreplacement : Nested replacement)
    (text : String) : readText awaited (replaceAll pattern replacement text) =
      readText awaited text := by
  have hchars : pattern.toList ≠ [] := by simpa using hne
  rw [replaceAll, readText_ofList, foldl_meet_replaceFrom hchars hpattern hreplacement]
  rfl

theorem readText_withLineBreak {eol : String} (h : Nested eol) (text : String) :
    readText awaited (withLineBreak eol text) = readText awaited text := by
  unfold withLineBreak
  split
  · rfl
  · exact readText_replaceAll (by decide) (forall_free (by decide)) h text

theorem readText_literal (text : String) :
    readText awaited (literal text) = readText awaited text := by
  have hquote : Nested "\"" := by decide
  rw [literal, readText_append, readText_append, hquote.readText_eq, hquote.readText_eq,
    readText_replaceAll (by decide) (forall_free (by decide)) (by decide),
    readText_replaceAll (by decide) (forall_free (by decide)) (by decide)]

theorem nested_join {separator : String} (h : Nested separator) {texts : List String}
    (htexts : NestedLines texts) : Nested (join separator texts) := by
  rw [nested_iff, readText_join h, htexts.readTexts_eq]

theorem nested_spaces (count : Int) : Nested (spaces count) := by
  refine nested_of_free fun c hc => ?_
  rw [spaces, String.toList_ofList] at hc
  rw [List.eq_of_mem_replicate hc]
  decide

theorem nested_marginOf (level size : Int) : Nested (marginOf level size) := nested_spaces _

theorem nested_margin (level : Nat) : Nested (margin level) := nested_marginOf _ _

theorem readTexts_indent (level : Nat) (lines : List String) :
    readTexts awaited (indent level lines) = readTexts awaited lines := by
  induction lines generalizing awaited with
  | nil => rfl
  | cons line rest ih =>
    have hline : readText awaited (if isBlankText line then line else marginOf level 2 ++ line) =
        readText awaited line := by
      split
      · rfl
      · rw [readText_append, (nested_marginOf _ _).readText_eq]
    rw [readTexts_cons, ← hline, ← ih]
    rfl

theorem foldl_readText_pieces {separator : Char} (h : isBracket separator = false)
    (cs : List Char) : ((pieces separator cs).map String.ofList).foldl readText awaited =
      cs.foldl meet awaited := by
  induction cs generalizing awaited with
  | nil => rfl
  | cons c rest ih =>
    by_cases hc : c = separator
    · rw [pieces, if_pos hc, List.foldl_cons, hc, meet_of_free h, ← ih]
      rfl
    · obtain ⟨piece, others, hpieces⟩ := List.exists_cons_of_ne_nil (pieces_ne_nil separator rest)
      have hrest := @ih (meet awaited c)
      simp only [hpieces, List.map_cons, List.foldl_cons, readText_ofList] at hrest
      simp only [pieces, if_neg hc, hpieces, List.map_cons, List.foldl_cons, readText_ofList, hrest]

theorem readTexts_split {separator : Char} (h : isBracket separator = false) (text : String) :
    readTexts awaited (split separator text) = readText awaited text :=
  foldl_readText_pieces h _

theorem nested_toString (n : Nat) : Nested (toString n) := by
  refine nested_of_free fun c hc => isBracket_of_lacking (p := Char.isDigit) (by decide) ?_
  have hdigits : c ∈ Nat.toDigits 10 n := by
    rw [← Nat.toList_repr]
    exact hc
  exact Nat.isDigit_of_mem_toDigits (by decide) (by decide) hdigits

theorem readText_unquote (name : String) :
    readText awaited (Naming.unquote name) = readText awaited name := by
  unfold Naming.unquote
  split
  · rename_i rest hname
    split
    · rename_i hlast
      have hback : rest.dropLast ++ ['\x60'] = rest := List.dropLast_append_getLast? _ hlast
      have hquote : isBracket '\x60' = false := by decide
      rw [readText_ofList, readText, hname, List.foldl_cons, meet_of_free hquote, ← hback,
        List.foldl_append, List.dropLast_concat, List.foldl_cons, meet_of_free hquote,
        List.foldl_nil]
    · rfl
  · rfl

end Operations

section Capitals

variable {awaited : Awaited}

/-- Only the code of a bracket stands for a bracket. -/
theorem isBracket_ofNat {n : Nat} (h : n ∉ brackets.map Char.toNat) :
    isBracket (Char.ofNat n) = false := by
  have hcode : (Char.ofNat n).toNat = n ∨ Char.ofNat n = '\x00' := by
    unfold Char.ofNat
    by_cases hvalid : n.isValidChar
    · rw [dif_pos hvalid]
      exact .inl rfl
    · rw [dif_neg hvalid]
      exact .inr rfl
  rcases hcode with hcode | hzero
  · refine isBracket_of_lacking (p := fun c => decide (c.toNat ∉ brackets.map Char.toNat)) ?_ ?_
    · decide
    · rw [hcode]
      exact decide_eq_true h
  · rw [hzero]
    decide

theorem upperRuns_free {run : CaseRun} (hrun : run ∈ upperRuns) {code : Nat}
    (hfirst : run.first ≤ code) (hlast : code ≤ run.last) :
    (code + run.offset).toNat ∉ brackets.map Char.toNat := by
  have hall : ∀ run ∈ upperRuns, ∀ b ∈ brackets.map Char.toNat,
      0 < run.first + run.offset ∧ (b < run.first + run.offset ∨ run.last + run.offset < b) := by
    decide +kernel
  intro hmem
  have hbounds := hall run hrun _ hmem
  omega

theorem upperExpansions_free {code : Nat} {codes : List Nat}
    (h : upperExpansions.lookup code = some codes) :
    ∀ c ∈ codes.map Char.ofNat, isBracket c = false := by
  have hall : ∀ entry ∈ upperExpansions, (entry.2.map Char.ofNat).any isBracket = false := by
    decide +kernel
  obtain ⟨before, after, hentry, -⟩ := List.lookup_eq_some_iff.mp h
  exact forall_free (hall (code, codes) (by simp [hentry]))

theorem isBracket_upper {code : Nat} (h : isBracket (Char.ofNat code) = false) :
    isBracket (Char.ofNat (code + caseOffset upperRuns code).toNat) = false := by
  unfold caseOffset
  split
  · rename_i run hfound
    have hcovers := List.find?_some hfound
    simp only [Bool.and_eq_true, decide_eq_true_eq] at hcovers
    exact isBracket_ofNat (upperRuns_free (List.mem_of_find?_eq_some hfound) hcovers.1.1
      hcovers.1.2)
  · simpa using h

theorem foldl_meet_upperChar (c : Char) : (upperChar c).foldl meet awaited = meet awaited c := by
  have hascii : ∀ n < 128, (Char.ofNat n).toUpper = Char.ofNat n ∨
      isBracket (Char.ofNat n).toUpper = false ∧ isBracket (Char.ofNat n) = false := by
    decide +kernel
  have hlow : brackets.any (fun b => decide (128 ≤ b.toNat)) = false := by decide
  unfold upperChar
  split
  · rename_i hcode
    rcases hascii c.toNat hcode with hsame | ⟨hupper, hfree⟩
    · rw [Char.ofNat_toNat] at hsame
      rw [hsame]
      rfl
    · rw [Char.ofNat_toNat] at hupper hfree
      rw [List.foldl_cons, List.foldl_nil, meet_of_free hupper, meet_of_free hfree]
  · rename_i hcode
    have hfree : isBracket c = false :=
      isBracket_of_lacking hlow (decide_eq_true (Nat.le_of_not_lt hcode))
    rw [meet_of_free hfree]
    split
    · rename_i codes hcodes
      exact foldl_meet_of_free (upperExpansions_free hcodes) _
    · rw [← Char.ofNat_toNat c] at hfree
      exact meet_of_free (isBracket_upper hfree) _

theorem readText_capitalize (name : String) :
    readText awaited (Naming.capitalize name) = readText awaited name := by
  unfold Naming.capitalize
  split
  · rename_i hname
    rw [readText, readText, hname]
    rfl
  · rename_i c rest hname
    rw [readText_ofList, readText, hname, List.foldl_append, foldl_meet_upperChar, List.foldl_cons]

end Capitals

end RecordMapper.Text
