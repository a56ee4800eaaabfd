import RecordMapper.Proofs.Text.Lines
import RecordMapper.Text.Quoted

/-!
# Literals

A literal is read from its first quote on: a backslash makes the next character one of the text, and
a quote without one ends the literal. A literal is written with a backslash before every backslash
and quote of its text, so it is read back, whatever comes after it, and so is a list of them.
-/
namespace RecordMapper.Text

/-- A character of a text as it stands in a literal. -/
def escapeChar (c : Char) : List Char := if c = '\\' ∨ c = '\x22' then ['\\', c] else [c]

/-- The text before the quote that ends a literal, and what comes after that quote. -/
def readQuoted : List Char → Option (List Char × List Char)
  | [] => none
  | '\x22' :: after => some ([], after)
  | '\\' :: c :: rest => (readQuoted rest).map fun (text, after) => (c :: text, after)
  | c :: rest => (readQuoted rest).map fun (text, after) => (c :: text, after)

/-- The text of the literal at the beginning, and what comes after the literal. -/
def readLiteral : List Char → Option (String × List Char)
  | '\x22' :: rest => (readQuoted rest).map fun (text, after) => (String.ofList text, after)
  | _ => none

/-- The quotes that get a backslash are not those of the first pass, which left none there. -/
theorem toList_literal (text : String) :
    (literal text).toList = '\x22' :: (text.toList.flatMap escapeChar ++ ['\x22']) := by
  have hpasses : ((text.toList.flatMap fun c => if c = '\\' then ['\\', '\\'] else [c]).flatMap
      fun c => if c = '\x22' then ['\\', '\x22'] else [c]) = text.toList.flatMap escapeChar := by
    rw [List.flatMap_assoc]
    refine List.flatMap_congr fun c _ => ?_
    by_cases hbackslash : c = '\\'
    · subst hbackslash
      rfl
    · by_cases hquote : c = '\x22'
      · subst hquote
        rfl
      · simp [escapeChar, hbackslash, hquote]
  rw [← hpasses]
  simp [literal, replaceAll, replaceFrom_singleton]

theorem readQuoted_escaped (text after : List Char) :
    readQuoted (text.flatMap escapeChar ++ '\x22' :: after) = some (text, after) := by
  induction text with
  | nil => rfl
  | cons c rest ih =>
    rw [List.flatMap_cons, List.append_assoc, escapeChar]
    by_cases hescaped : c = '\\' ∨ c = '\x22'
    · rw [if_pos hescaped, List.cons_append, List.singleton_append, readQuoted, ih]
      · rfl
    · rw [not_or] at hescaped
      rw [if_neg (not_or.mpr hescaped), List.singleton_append, readQuoted, ih]
      · rfl
      · exact hescaped.2
      · exact fun _ _ hc => absurd hc hescaped.1

/-- A literal ends at its own last quote. -/
theorem readLiteral_literal (text : String) (after : List Char) :
    readLiteral ((literal text).toList ++ after) = some (text, after) := by
  rw [toList_literal, List.cons_append, List.append_assoc, List.singleton_append, readLiteral,
    readQuoted_escaped]
  exact congrArg (fun text => some (text, after)) String.ofList_toList

theorem readQuoted_append {cs text after : List Char} (h : readQuoted cs = some (text, after))
    (more : List Char) : readQuoted (cs ++ more) = some (text, after ++ more) := by
  fun_induction readQuoted cs generalizing text after with
  | case1 => cases h
  | case2 rest =>
    cases h
    rfl
  | case3 c rest ih =>
    obtain ⟨⟨inner, left⟩, hinner, heq⟩ := Option.map_eq_some_iff.mp h
    cases heq
    rw [List.cons_append, List.cons_append, readQuoted, ih hinner]
    · rfl
  | case4 c rest hquote hbackslash ih =>
    obtain ⟨⟨inner, left⟩, hinner, heq⟩ := Option.map_eq_some_iff.mp h
    cases heq
    -- A backslash at the very end is read as no literal at all.
    have hplain : c ≠ '\\' := by
      intro hc
      cases rest with
      | nil => cases hinner
      | cons d rest => exact hbackslash d rest hc rfl
    rw [List.cons_append, readQuoted, ih hinner]
    · rfl
    · exact hquote
    · exact fun _ _ hc => absurd hc hplain

/-- What comes after a literal does not change how it is read. -/
theorem readLiteral_append {cs after : List Char} {text : String}
    (h : readLiteral cs = some (text, after)) (more : List Char) :
    readLiteral (cs ++ more) = some (text, after ++ more) := by
  unfold readLiteral at h
  split at h
  next rest =>
    obtain ⟨⟨inner, left⟩, hinner, heq⟩ := Option.map_eq_some_iff.mp h
    cases heq
    rw [List.cons_append, readLiteral, readQuoted_append hinner]
    rfl
  · cases h

/-- A literal that lacks its end is none. -/
theorem readLiteral_of_prefix {text : String} {shorter : List Char}
    (hstart : shorter <+: (literal text).toList) (hne : shorter ≠ (literal text).toList) :
    readLiteral shorter = none := by
  obtain ⟨more, hmore⟩ := hstart
  by_contra hread
  obtain ⟨⟨other, after⟩, hother⟩ := Option.ne_none_iff_exists'.mp hread
  have hwhole := readLiteral_append hother more
  have hown := readLiteral_literal text []
  rw [hmore] at hwhole
  rw [List.append_nil, hwhole] at hown
  have hrest : after ++ more = [] := (Prod.mk.inj (Option.some.inj hown)).2
  rw [(List.append_eq_nil_iff.mp hrest).2, List.append_nil] at hmore
  exact hne hmore

theorem literal_injective : Function.Injective literal := by
  intro text other h
  have htext := readLiteral_literal text []
  rw [h, readLiteral_literal] at htext
  exact ((Prod.mk.inj (Option.some.inj htext)).1).symm

/-- Breaks written inside a literal are breaks of its text. -/
theorem withLineBreak_literal {eol : String}
    (h : ∀ c ∈ eol.toList, ¬(c = '\\' ∨ c = '\x22')) (text : String) :
    withLineBreak eol (literal text) = literal (withLineBreak eol text) := by
  have hplain : eol.toList.flatMap escapeChar = eol.toList := by
    rw [List.flatMap_congr fun c hc => by rw [escapeChar, if_neg (h c hc)]]
    exact List.flatMap_singleton' _
  have hchar (c : Char) :
      (escapeChar c).flatMap (fun c => if c = '\n' then eol.toList else [c]) =
        (if c = '\n' then eol.toList else [c]).flatMap escapeChar := by
    by_cases hfeed : c = '\n'
    · subst hfeed
      rw [if_pos rfl, hplain]
      exact List.append_nil _
    · rw [if_neg hfeed, List.flatMap_singleton, escapeChar]
      split <;> simp [hfeed]
  apply String.toList_injective
  rw [toList_withLineBreak, toList_literal, toList_literal, toList_withLineBreak,
    List.flatMap_cons, List.flatMap_append, List.flatMap_assoc, List.flatMap_assoc]
  simp only [hchar]
  rfl

section Lists

variable {α : Type} {read : List Char → Option (α × List Char)} {write : α → String}

/-- The items up to a parenthesis at the end, with commas between them, unless there are more than
the limit. -/
def readListed (read : List Char → Option (α × List Char)) : Nat → List Char → Option (List α)
  | 0, _ => none
  | limit + 1, cs => do
    let (item, after) ← read cs
    if after = [')'] then return [item]
    else return item :: (← readListed read limit (← after.dropPrefix? ", ".toList))

theorem length_le_join (hfilled : ∀ item, write item ≠ "") (items : List α) :
    items.length ≤ (join ", " (items.map write)).toList.length := by
  have hpos (item : α) : 1 ≤ (write item).toList.length :=
    List.length_pos_iff.mpr (String.toList_eq_nil_iff.not.mpr (hfilled item))
  induction items with
  | nil => exact Nat.zero_le _
  | cons item rest ih =>
    by_cases hrest : rest = []
    · subst hrest
      exact hpos item
    · rw [List.map_cons, join_cons _ (mt List.map_eq_nil_iff.mp hrest), String.toList_append,
        String.toList_append, List.length_append, List.length_append, List.length_cons]
      have := hpos item
      omega

/-- Items are read back one by one, if the limit allows as many. -/
theorem readListed_join (hread : ∀ item after, read ((write item).toList ++ after) =
      some (item, after)) {items : List α} (hne : items ≠ []) {limit : Nat}
    (hlimit : items.length ≤ limit) :
    readListed read limit ((join ", " (items.map write)).toList ++ [')']) = some items := by
  induction items generalizing limit with
  | nil => exact absurd rfl hne
  | cons item rest ih =>
    obtain ⟨left, rfl⟩ := Nat.exists_eq_add_of_lt (Nat.lt_of_lt_of_le (Nat.zero_lt_succ _) hlimit)
    rw [Nat.zero_add, readListed]
    by_cases hrest : rest = []
    · subst hrest
      rw [List.map_singleton, join, hread]
      rfl
    · have hleft : rest.length ≤ left := by
        rw [List.length_cons] at hlimit
        omega
      let after := ", ".toList ++ ((join ", " (rest.map write)).toList ++ [')'])
      have htext : (join ", " ((item :: rest).map write)).toList ++ [')'] =
          (write item).toList ++ after := by
        rw [List.map_cons, join_cons _ (mt List.map_eq_nil_iff.mp hrest), String.toList_append,
          String.toList_append, List.append_assoc, List.append_assoc]
      have hcomma : after.dropPrefix? ", ".toList =
          some ((join ", " (rest.map write)).toList ++ [')']) :=
        List.dropPrefix?_append_of_beq _ BEq.rfl
      have hend : after ≠ [')'] := by
        intro h
        have hhead := congrArg List.head? h
        simp [after] at hhead
      rw [htext, hread]
      simp only [Option.bind_eq_bind, Option.bind_some, if_neg hend, hcomma, ih hrest hleft]
      rfl

end Lists

end RecordMapper.Text
