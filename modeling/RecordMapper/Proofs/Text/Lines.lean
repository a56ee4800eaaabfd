import Mathlib.Data.List.Infix
import Mathlib.Data.List.Nodup
import RecordMapper.Text.Lines

/-!
# Cutting and replacing text

A separator between texts that lack it is where the text is cut again. A character that a pattern
lacks stops every occurrence of the pattern, so a text may be cut at such characters and the parts
replaced one by one. A pattern that does not occur in a text leaves it as it is. The characters of a
text that is ASCII are its bytes.
-/
namespace RecordMapper.Text

section Pieces

variable {separator : Char}

theorem pieces_of_not_mem {cs : List Char} (h : separator ∉ cs) : pieces separator cs = [cs] := by
  induction cs with
  | nil => rfl
  | cons c rest ih =>
    rw [pieces, if_neg (Ne.symm (List.ne_of_not_mem_cons h)),
      ih (List.not_mem_of_not_mem_cons h)]

theorem pieces_append (before after : List Char) :
    pieces separator (before ++ separator :: after) =
      pieces separator before ++ pieces separator after := by
  induction before with
  | nil =>
    rw [List.nil_append, pieces, pieces, if_pos rfl]
    rfl
  | cons c rest ih =>
    obtain ⟨first, others, hp⟩ := List.exists_cons_of_ne_nil (pieces_ne_nil separator rest)
    rw [List.cons_append, pieces, pieces, ih, hp]
    split <;> rfl

theorem pieces_append_cons {before : List Char} (h : separator ∉ before) (after : List Char) :
    pieces separator (before ++ separator :: after) = before :: pieces separator after := by
  rw [pieces_append, pieces_of_not_mem h, List.singleton_append]

/-- Words that lack the separator are cut apart where it was put between them. -/
theorem pieces_intercalate {words : List (List Char)} (hne : words ≠ [])
    (h : ∀ word ∈ words, separator ∉ word) :
    pieces separator ([separator].intercalate words) = words := by
  induction words with
  | nil => exact absurd rfl hne
  | cons word rest ih =>
    have hword := h word (List.mem_cons_self ..)
    cases rest with
    | nil =>
      rw [List.intercalate_singleton]
      exact pieces_of_not_mem hword
    | cons next rest =>
      rw [List.intercalate_cons_cons, List.append_assoc, List.singleton_append,
        pieces_append_cons hword,
        ih (List.cons_ne_nil _ _) fun other hother => h other (List.mem_cons_of_mem _ hother)]

theorem intercalate_cons (word : List Char) (rest : List (List Char)) :
    [separator].intercalate (word :: rest) = word ++ rest.flatMap (separator :: ·) := by
  induction rest generalizing word with
  | nil => rw [List.intercalate_singleton, List.flatMap_nil, List.append_nil]
  | cons next rest ih =>
    rw [List.intercalate_cons_cons, ih, List.flatMap_cons, List.append_assoc]
    rfl

/-- Cutting loses no character but the separator. -/
theorem exists_mem_pieces_iff {c : Char} (h : c ≠ separator) (cs : List Char) :
    (∃ piece ∈ pieces separator cs, c ∈ piece) ↔ c ∈ cs := by
  obtain ⟨first, rest, hpieces⟩ := List.exists_cons_of_ne_nil (pieces_ne_nil separator cs)
  have hcs := intercalate_pieces separator cs
  rw [hpieces, intercalate_cons] at hcs
  rw [hpieces, ← hcs]
  simp [h]

end Pieces

section Join

variable {separator : String}

theorem join_cons (text : String) {rest : List String} (h : rest ≠ []) :
    join separator (text :: rest) = text ++ separator ++ join separator rest := by
  cases rest with
  | nil => exact absurd rfl h
  | cons => rfl

theorem join_append {texts more : List String} (htexts : texts ≠ []) (hmore : more ≠ []) :
    join separator (texts ++ more) = join separator texts ++ separator ++ join separator more := by
  induction texts with
  | nil => exact absurd rfl htexts
  | cons text rest ih =>
    by_cases hrest : rest = []
    · subst hrest
      rw [List.singleton_append, join_cons text hmore, join_singleton]
    · have hne : rest ++ more ≠ [] := by simp [hrest]
      rw [List.cons_append, join_cons text hne, ih hrest, join_cons text hrest]
      simp only [String.append_assoc]

theorem toList_join (separator : Char) (texts : List String) :
    (join (String.singleton separator) texts).toList =
      [separator].intercalate (texts.map String.toList) := by
  induction texts with
  | nil => rfl
  | cons text rest ih =>
    cases rest with
    | nil => exact (List.intercalate_singleton ..).symm
    | cons next rest =>
      rw [join_cons _ (List.cons_ne_nil _ _), String.toList_append, String.toList_append, ih,
        String.toList_singleton]
      exact (List.intercalate_cons_cons ..).symm

/-- Putting the separator between the parts gives the text back. -/
theorem join_split (separator : Char) (s : String) :
    join (String.singleton separator) (split separator s) = s := by
  apply String.toList_injective
  have htoList : (split separator s).map String.toList = pieces separator s.toList := by
    rw [split, List.map_map]
    exact List.map_id'' (fun _ => String.toList_ofList) _
  rw [toList_join, htoList, intercalate_pieces]

/-- Texts that were put together before come to the same. -/
theorem join_nested {texts : List String} (h : texts ≠ []) (before after : List String) :
    join separator (before ++ join separator texts :: after) =
      join separator (before ++ texts ++ after) := by
  have hafter : join separator (join separator texts :: after) =
      join separator (texts ++ after) := by
    by_cases hne : after = []
    · rw [hne, List.append_nil, join_singleton]
    · rw [join_cons _ hne, join_append h hne]
  by_cases hbefore : before = []
  · rw [hbefore, List.nil_append, List.nil_append, hafter]
  · have hne : texts ++ after ≠ [] := by simp [h]
    rw [join_append hbefore (List.cons_ne_nil _ _), hafter, List.append_assoc,
      join_append hbefore hne]

theorem not_mem_join {c : Char} (hseparator : c ∉ separator.toList) {texts : List String}
    (h : ∀ text ∈ texts, c ∉ text.toList) : c ∉ (join separator texts).toList := by
  induction texts with
  | nil => simp [join]
  | cons text rest ih =>
    have hrest := ih fun other hother => h other (List.mem_cons_of_mem _ hother)
    have htext := h text (List.mem_cons_self ..)
    by_cases hne : rest = []
    · subst hne
      exact htext
    · rw [join_cons text hne]
      simp [htext, hseparator, hrest]

end Join

theorem nodup_eraseDups (texts : List String) : texts.eraseDups.Nodup := by
  match texts with
  | [] => exact List.nodup_nil
  | text :: rest =>
    rw [List.eraseDups_cons, List.nodup_cons]
    exact ⟨by simp [List.mem_eraseDups], nodup_eraseDups _⟩
termination_by texts.length
decreasing_by exact Nat.lt_succ_of_le (List.length_filter_le ..)

section Characters

variable {pattern replacement : List Char}

theorem isPrefixOf_append_cons {separator : Char} (h : separator ∉ pattern)
    (before after : List Char) :
    pattern.isPrefixOf (before ++ separator :: after) = pattern.isPrefixOf before := by
  induction pattern generalizing before with
  | nil => rfl
  | cons p rest ih =>
    rw [List.mem_cons, not_or] at h
    cases before with
    | nil => simp [List.isPrefixOf, Ne.symm h.1]
    | cons c before => simp [List.isPrefixOf, ih h.2 before]

theorem replaceFrom_append_cons {separator : Char} (hne : pattern ≠ [])
    (h : separator ∉ pattern) {covered : Nat} {before : List Char}
    (hcovered : covered ≤ before.length) (after : List Char) :
    replaceFrom pattern replacement covered (before ++ separator :: after) =
      replaceFrom pattern replacement covered before ++
        separator :: replaceFrom pattern replacement 0 after := by
  fun_induction replaceFrom pattern replacement covered before with
  | case1 covered =>
    obtain rfl : covered = 0 := Nat.le_zero.mp hcovered
    have hstops : pattern.isPrefixOf (separator :: after) = false := by
      have hempty : pattern.isPrefixOf [] = false := by
        cases pattern with
        | nil => exact absurd rfl hne
        | cons => rfl
      rw [← hempty]
      exact isPrefixOf_append_cons h [] after
    simp [replaceFrom, hstops]
  | case2 covered c rest ih => exact ih (Nat.le_of_succ_le_succ hcovered)
  | case3 c rest hprefix ih =>
    have hlength : pattern.length ≤ (c :: rest).length :=
      (List.isPrefixOf_iff_prefix.mp hprefix).length_le
    have hrest : pattern.length - 1 ≤ rest.length := by
      rw [List.length_cons] at hlength
      omega
    have hoccurs : pattern.isPrefixOf (c :: (rest ++ separator :: after)) = true :=
      (isPrefixOf_append_cons h (c :: rest) after).trans hprefix
    rw [List.cons_append, replaceFrom, if_pos hoccurs, ih hrest, List.append_assoc]
  | case4 c rest hprefix ih =>
    have hmissing : ¬pattern.isPrefixOf (c :: (rest ++ separator :: after)) = true := by
      rw [← List.cons_append, isPrefixOf_append_cons h]
      exact hprefix
    rw [List.cons_append, replaceFrom, if_neg hmissing, ih (Nat.zero_le _), List.cons_append]

theorem replaceFrom_free_append (hne : pattern ≠ []) {free : List Char}
    (h : ∀ c ∈ free, c ∉ pattern) (after : List Char) :
    replaceFrom pattern replacement 0 (free ++ after) =
      free ++ replaceFrom pattern replacement 0 after := by
  induction free with
  | nil => rfl
  | cons c rest ih =>
    have hfirst : replaceFrom pattern replacement 0 (c :: (rest ++ after)) =
        c :: replaceFrom pattern replacement 0 (rest ++ after) :=
      replaceFrom_append_cons hne (h c (List.mem_cons_self ..)) (Nat.zero_le [].length) _
    rw [List.cons_append, hfirst, ih fun d hd => h d (List.mem_cons_of_mem _ hd), List.cons_append]

theorem replaceFrom_of_absent {text : List Char} (h : ¬pattern <:+: text) :
    replaceFrom pattern replacement 0 text = text := by
  induction text with
  | nil => rfl
  | cons c rest ih =>
    rw [List.infix_cons_iff, not_or] at h
    rw [replaceFrom, if_neg (by rw [List.isPrefixOf_iff_prefix]; exact h.1), ih h.2]

theorem replaceFrom_singleton (c : Char) (replacement text : List Char) :
    replaceFrom [c] replacement 0 text =
      text.flatMap fun d => if d = c then replacement else [d] := by
  induction text with
  | nil => rfl
  | cons d rest ih =>
    have hstarts : [c].isPrefixOf (d :: rest) = true ↔ d = c := by
      rw [List.isPrefixOf_iff_prefix, List.cons_prefix_cons, and_iff_left (List.nil_prefix ..)]
      exact eq_comm
    rw [replaceFrom, List.flatMap_cons, List.length_singleton, ih]
    by_cases h : d = c
    · rw [if_pos (hstarts.mpr h), if_pos h]
    · rw [if_neg (mt hstarts.mp h), if_neg h, List.singleton_append]

/-- Nothing is found before the first character of the pattern. -/
theorem replaceFrom_append_of_head {c : Char} (hpattern : pattern.head? = some c)
    {before : List Char} (h : c ∉ before) (text : List Char) :
    replaceFrom pattern replacement 0 (before ++ text) =
      before ++ replaceFrom pattern replacement 0 text := by
  obtain ⟨tail, rfl⟩ := List.head?_eq_some_iff.mp hpattern
  induction before with
  | nil => rfl
  | cons d rest ih =>
    have hmissing : ¬(c :: tail).isPrefixOf (d :: (rest ++ text)) = true := by
      simp [List.isPrefixOf, List.ne_of_not_mem_cons h]
    rw [List.cons_append, replaceFrom, if_neg hmissing, ih (List.not_mem_of_not_mem_cons h),
      List.cons_append]

theorem replaceFrom_covered_append (covered text : List Char) :
    replaceFrom pattern replacement covered.length (covered ++ text) =
      replaceFrom pattern replacement 0 text := by
  induction covered with
  | nil => rfl
  | cons c rest ih => rw [List.length_cons, List.cons_append, replaceFrom, ih]

theorem replaceFrom_self_append (h : pattern ≠ []) (text : List Char) :
    replaceFrom pattern replacement 0 (pattern ++ text) =
      replacement ++ replaceFrom pattern replacement 0 text := by
  match pattern with
  | [] => exact absurd rfl h
  | c :: rest =>
    have hprefix : (c :: rest).isPrefixOf (c :: (rest ++ text)) = true :=
      List.isPrefixOf_iff_prefix.mpr (List.prefix_append (c :: rest) text)
    rw [List.cons_append, replaceFrom, if_pos hprefix, List.length_cons, Nat.add_sub_cancel,
      replaceFrom_covered_append]

theorem replaceFrom_self (h : pattern ≠ []) :
    replaceFrom pattern replacement 0 pattern = replacement := by
  have happend : replaceFrom pattern replacement 0 (pattern ++ []) =
      replacement ++ replaceFrom pattern replacement 0 [] := replaceFrom_self_append h []
  rwa [List.append_nil, replaceFrom_nil, List.append_nil] at happend

/-- A character is put back for the word that stood for it, if the text had no character like the
first one of the word. -/
theorem replaceFrom_replaceFrom {c mark : Char} (hpattern : pattern.head? = some mark)
    {text : List Char} (h : mark ∉ text) :
    replaceFrom pattern [c] 0 (replaceFrom [c] pattern 0 text) = text := by
  have hfilled : pattern ≠ [] := by
    rintro rfl
    cases hpattern
  rw [replaceFrom_singleton]
  induction text with
  | nil => rfl
  | cons d rest ih =>
    have hrest := ih (List.not_mem_of_not_mem_cons h)
    rw [List.flatMap_cons]
    by_cases hd : d = c
    · rw [if_pos hd, replaceFrom_self_append hfilled, hrest, hd, List.singleton_append]
    · rw [if_neg hd, replaceFrom_append_of_head hpattern
        (List.mem_singleton.not.mpr (List.ne_of_not_mem_cons h)), hrest, List.singleton_append]

end Characters

section Texts

variable {pattern replacement : String}

/-- A text is replaced part by part around what shares no character with the pattern. -/
theorem replaceAll_append (hne : pattern ≠ "") {separator : String} (hseparator : separator ≠ "")
    (h : ∀ c ∈ separator.toList, c ∉ pattern.toList) (before after : String) :
    replaceAll pattern replacement (before ++ separator ++ after) =
      replaceAll pattern replacement before ++ separator ++
        replaceAll pattern replacement after := by
  have hpattern : pattern.toList ≠ [] := by simpa using hne
  obtain ⟨c, rest, hcons⟩ := List.exists_cons_of_ne_nil
    (show separator.toList ≠ [] by simpa using hseparator)
  rw [hcons] at h
  have hcut : replaceFrom pattern.toList replacement.toList 0
      (before.toList ++ c :: (rest ++ after.toList)) =
        replaceFrom pattern.toList replacement.toList 0 before.toList ++
          c :: (rest ++ replaceFrom pattern.toList replacement.toList 0 after.toList) := by
    rw [replaceFrom_append_cons hpattern (h c (List.mem_cons_self ..)) (Nat.zero_le _),
      replaceFrom_free_append hpattern fun d hd => h d (List.mem_cons_of_mem _ hd)]
  apply String.toList_injective
  simp [replaceAll, hcons, hcut]

theorem replaceAll_of_absent {text : String} (h : ¬pattern.toList <:+: text.toList) :
    replaceAll pattern replacement text = text := by
  rw [replaceAll, replaceFrom_of_absent h, String.ofList_toList]

/-- A text without some character of the pattern stays. -/
theorem replaceAll_of_not_mem {text : String} {c : Char} (hpattern : c ∈ pattern.toList)
    (htext : c ∉ text.toList) : replaceAll pattern replacement text = text :=
  replaceAll_of_absent fun hoccurs => htext (hoccurs.subset hpattern)

theorem replaceAll_self (h : pattern ≠ "") :
    replaceAll pattern replacement pattern = replacement := by
  rw [replaceAll, replaceFrom_self (by simpa using h), String.ofList_toList]

theorem replaceAll_join (hne : pattern ≠ "") {separator : String} (hseparator : separator ≠ "")
    (h : ∀ c ∈ separator.toList, c ∉ pattern.toList) (items : List String) :
    replaceAll pattern replacement (join separator items) =
      join separator (items.map (replaceAll pattern replacement)) := by
  fun_induction join separator items with
  | case1 => rfl
  | case2 item => rfl
  | case3 item rest hrest ih =>
    rw [replaceAll_append hne hseparator h, ih]
    cases rest with
    | nil => exact absurd rfl hrest
    | cons => rfl

theorem toList_withLineBreak (eol text : String) :
    (withLineBreak eol text).toList =
      text.toList.flatMap fun c => if c = '\n' then eol.toList else [c] := by
  rw [withLineBreak]
  split
  next heol =>
    have hsame : (fun c => if c = '\n' then eol.toList else [c]) = fun c => [c] := by
      funext c
      split
      next hc =>
        rw [hc, heol]
        rfl
      · rfl
    rw [hsame, List.flatMap_singleton']
  · rw [replaceAll, String.toList_ofList, ← replaceFrom_singleton]
    rfl

theorem not_mem_withLineBreak {eol : String} (h : '\n' ∉ eol.toList) (text : String) :
    '\n' ∉ (withLineBreak eol text).toList := by
  rw [toList_withLineBreak, List.mem_flatMap]
  rintro ⟨c, -, hc⟩
  split at hc
  · exact h hc
  next hfeed => exact hfeed (List.mem_singleton.mp hc).symm

end Texts

section Bytes

/-- The characters of an ASCII text are its bytes, which take fewer steps to find. -/
theorem toList_of_ascii {text : String} (h : ∀ b ∈ text.toByteArray.data.toList, b.toNat < 128) :
    text.toList = text.toByteArray.data.toList.map fun b => Char.ofNat b.toNat := by
  have hbyte : ∀ n < 128, String.utf8EncodeChar (Char.ofNat n) = [n.toUInt8] := by decide +kernel
  have hbytes : text.toByteArray.data.toList.flatMap
      (fun b => String.utf8EncodeChar (Char.ofNat b.toNat)) = text.toByteArray.data.toList := by
    refine (List.flatMap_congr (g := fun b => [b]) fun b hb => ?_).trans (List.flatMap_singleton' _)
    rw [hbyte _ (h b hb)]
    simp
  have hencoded : (text.toByteArray.data.toList.map fun b => Char.ofNat b.toNat).utf8Encode =
      text.toByteArray := by
    rw [List.utf8Encode, List.flatMap_map, hbytes]
    apply ByteArray.ext
    simp
  rw [← String.toByteArray_ofList, String.toByteArray_inj] at hencoded
  rw [← String.toList_ofList (l := List.map _ _), hencoded]

end Bytes

end RecordMapper.Text
