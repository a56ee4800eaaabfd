import RecordMapper.Proofs.Document.SetFields
import RecordMapper.Proofs.Json.Scalars
import RecordMapper.Proofs.Text.Lines

/-!
# Written JSON read back

The text of a value is read as that value again, on one line as well as with any indentation, and
whatever characters its strings are made of. Binary numbers are left aside, since their text is
rounded, and every mapping has to have its keys once, since the reader keeps one value of a key.
What follows a value may be anything that cannot be taken for more of it.
-/
namespace RecordMapper.Json

open RecordMapper.Text

/-- A value without binary numbers, all of whose mappings have different keys. -/
inductive Exact : Value → Prop where
  | null : Exact .null
  | bool (b : Bool) : Exact (.bool b)
  | int (n : Int) : Exact (.int n)
  | text (s : String) : Exact (.text s)
  | list {items : List Value} (hitems : ∀ item ∈ items, Exact item) : Exact (.list items)
  | mapping {fields : List (String × Value)} (hkeys : (fields.map Prod.fst).Nodup)
      (hfields : ∀ field ∈ fields, Exact field.2) : Exact (.mapping fields)

section Layouts

variable {layout : Layout} {level : Nat}

theorem skipSpace_append {blank : List Char} (h : ∀ c ∈ blank, isSpace c = true)
    (rest : List Char) : skipSpace (blank ++ rest) = skipSpace rest :=
  List.dropWhile_append_of_pos h

theorem skipSpace_cons {c : Char} (h : isSpace c = false) (rest : List Char) :
    skipSpace (c :: rest) = c :: rest :=
  List.dropWhile_cons_of_neg (by rw [h]; decide)

/-- Nothing but white space starts a line. -/
theorem isSpace_of_mem_lineStart {c : Char} (h : c ∈ (layout.lineStart level).toList) :
    isSpace c = true := by
  unfold Layout.lineStart at h
  split at h
  · rw [String.toList_append, List.mem_append] at h
    rcases h with h | h
    · rw [List.mem_singleton.mp h]
      rfl
    · rw [spaces, String.toList_ofList] at h
      rw [List.eq_of_mem_replicate h]
      rfl
  · cases h

theorem exists_separator (layout : Layout) (level : Nat) :
    ∃ blank, (layout.separator level).toList = ',' :: blank ∧ ∀ c ∈ blank, isSpace c = true := by
  unfold Layout.separator
  split
  · rw [String.toList_append]
    exact ⟨(layout.lineStart level).toList, rfl, fun c => isSpace_of_mem_lineStart⟩
  · exact ⟨[' '], rfl, List.forall_mem_singleton.mpr rfl⟩

theorem skipSpace_lineStart (layout : Layout) (level : Nat) {c : Char} (h : isSpace c = false)
    (rest : List Char) : skipSpace ((layout.lineStart level).toList ++ c :: rest) = c :: rest := by
  rw [skipSpace_append fun d hd => isSpace_of_mem_lineStart hd, skipSpace_cons h]

theorem stops_lineStart (layout : Layout) (level : Nat) {c : Char} (h : isStop c = true)
    (rest : List Char) : Stops ((layout.lineStart level).toList ++ c :: rest) := by
  cases hstart : (layout.lineStart level).toList with
  | nil => exact stops_cons h rest
  | cons d blank =>
    have hmem : d ∈ (layout.lineStart level).toList := hstart ▸ List.mem_cons_self
    have hd : isSpace d = true := isSpace_of_mem_lineStart hmem
    exact stops_cons (by simp [isStop, hd]) _

end Layouts

section Values

variable {layout : Layout}

/-- The text of a value is read back in front of anything that may follow it. Its characters are
fuel enough. -/
def ReadsBack (layout : Layout) (v : Value) : Prop :=
  ∀ level fuel rest, (renderAt layout level v).toList.length ≤ fuel → Stops rest →
    readValue fuel ((renderAt layout level v).toList ++ rest) = some (v, rest)

/-- A text that begins like a value, not with white space or the end of a list or mapping. -/
def Begins (cs : List Char) : Prop := ∃ first rest, cs = first :: rest ∧ isStop first = false

theorem renderItems_eq_map (layout : Layout) (level : Nat) (items : List Value) :
    renderItems layout level items = items.map (renderAt layout (level + 1)) := by
  induction items with
  | nil => rfl
  | cons item rest ih => rw [renderItems, ih, List.map_cons]

/-- A field as it is written. -/
def fieldText (layout : Layout) (level : Nat) (field : String × Value) : String :=
  quote field.1 ++ ": " ++ renderAt layout level field.2

theorem renderFields_eq_map (layout : Layout) (level : Nat) (fields : List (String × Value)) :
    renderFields layout level fields = fields.map (fieldText layout (level + 1)) := by
  induction fields with
  | nil => rfl
  | cons field rest ih => rw [renderFields, ih, List.map_cons, fieldText]

theorem begins_toString (n : Int) : Begins (toString n).toList := by
  obtain ⟨first, more, htext, hdigit | ⟨rfl, -⟩⟩ := exists_toList_toString n
  · refine ⟨first, more, htext, Bool.eq_false_iff.mpr fun hstop => ?_⟩
    rw [isDigit_of_isStop hstop] at hdigit
    cases hdigit
  · exact ⟨'-', more, htext, rfl⟩

theorem exists_toList_enclose (layout : Layout) (level : Nat) (first last : String)
    (items : List String) :
    ∃ more, (layout.enclose level first last items).toList = first.toList ++ more := by
  unfold Layout.enclose
  split
  · exact ⟨_, String.toList_append⟩
  · simp only [String.toList_append, List.append_assoc]
    exact ⟨_, rfl⟩

theorem begins_renderAt (layout : Layout) (level : Nat) {v : Value} (h : Exact v) :
    Begins (renderAt layout level v).toList := by
  cases h with
  | null => exact ⟨'n', "ull".toList, by rw [renderAt]; rfl, rfl⟩
  | bool b =>
    cases b with
    | true => exact ⟨'t', "rue".toList, by rw [renderAt]; rfl, rfl⟩
    | false => exact ⟨'f', "alse".toList, by rw [renderAt]; rfl, rfl⟩
  | int n =>
    rw [renderAt]
    exact begins_toString n
  | text s =>
    rw [renderAt]
    exact ⟨'\x22', _, toList_quote s, rfl⟩
  | list =>
    rw [renderAt]
    obtain ⟨more, hmore⟩ := exists_toList_enclose layout level "[" "]" _
    exact ⟨'[', more, hmore, rfl⟩
  | mapping =>
    rw [renderAt]
    obtain ⟨more, hmore⟩ := exists_toList_enclose layout level "\x7b" "\x7d" _
    exact ⟨'\x7b', more, hmore, rfl⟩

theorem Begins.skipSpace {cs : List Char} (h : Begins cs) (rest : List Char) :
    Json.skipSpace (cs ++ rest) = cs ++ rest := by
  obtain ⟨first, more, rfl, hfirst⟩ := h
  refine skipSpace_cons ?_ _
  simp only [isStop, Bool.or_eq_false_iff] at hfirst
  exact hfirst.1.1.1

theorem Begins.ne {cs : List Char} (h : Begins cs) {c : Char} (hc : isStop c = true)
    (rest more : List Char) : cs ++ rest ≠ c :: more := by
  obtain ⟨first, others, rfl, hfirst⟩ := h
  intro heq
  rw [(List.cons.inj heq).1, hc] at hfirst
  cases hfirst

theorem begins_join {α : Type} (separator : String) {write : α → String} {items : List α}
    (hne : items ≠ []) (h : ∀ item ∈ items, Begins (write item).toList) :
    Begins (join separator (items.map write)).toList := by
  obtain ⟨item, rest, rfl⟩ := List.exists_cons_of_ne_nil hne
  have hitem := h item List.mem_cons_self
  by_cases hrest : rest = []
  · subst hrest
    exact hitem
  · obtain ⟨first, others, hfirst, hstop⟩ := hitem
    rw [List.map_cons, join_cons _ (mt List.map_eq_nil_iff.mp hrest), String.toList_append,
      String.toList_append, hfirst]
    exact ⟨first, _, rfl, hstop⟩

/-- After the first item come a comma and white space before the other ones. -/
theorem exists_join_cons {α : Type} (layout : Layout) (level : Nat) (write : α → String) (item : α)
    {items : List α} (hne : items ≠ []) (hbegins : ∀ other ∈ items, Begins (write other).toList) :
    ∃ blank, (join (layout.separator level) ((item :: items).map write)).toList =
        (write item).toList ++ ',' ::
          (blank ++ (join (layout.separator level) (items.map write)).toList) ∧
      ∀ rest, skipSpace (blank ++
          ((join (layout.separator level) (items.map write)).toList ++ rest)) =
        (join (layout.separator level) (items.map write)).toList ++ rest := by
  obtain ⟨blank, hseparator, hblank⟩ := exists_separator layout level
  refine ⟨blank, ?_, fun rest => ?_⟩
  · rw [List.map_cons, join_cons _ (mt List.map_eq_nil_iff.mp hne), String.toList_append,
      String.toList_append, hseparator, List.append_assoc, List.cons_append]
  · rw [skipSpace_append hblank, (begins_join _ hne hbegins).skipSpace]

/-- An item is read up to what follows it. -/
theorem readItems_item {level : Nat} {item : Value} (hreads : ReadsBack layout item) {fuel : Nat}
    {done : List Value} {rest : List Char}
    (hfuel : (renderAt layout level item).toList.length ≤ fuel) (hrest : Stops rest) :
    readItems (fuel + 1) done ((renderAt layout level item).toList ++ rest) =
      match skipSpace rest with
      | ',' :: rest => readItems fuel (item :: done) (skipSpace rest)
      | ']' :: rest => some (.list (item :: done).reverse, rest)
      | _ => none := by
  rw [readItems, hreads level fuel rest hfuel hrest]
  rfl

/-- The items of a list are read one by one, up to its end. -/
theorem readItems_join {level : Nat} {items : List Value} (hne : items ≠ [])
    (hexact : ∀ item ∈ items, Exact item) (hreads : ∀ item ∈ items, ReadsBack layout item)
    {fuel : Nat} {done : List Value} {rest : List Char}
    (hfuel : (join (layout.separator (level + 1))
      (items.map (renderAt layout (level + 1)))).toList.length < fuel) :
    readItems fuel done ((join (layout.separator (level + 1))
      (items.map (renderAt layout (level + 1)))).toList ++
        ((layout.lineStart level).toList ++ ']' :: rest)) =
      some (.list (done.reverse ++ items), rest) := by
  induction items generalizing fuel done with
  | nil => exact absurd rfl hne
  | cons item more ih =>
    obtain ⟨left, rfl⟩ := Nat.exists_eq_add_one_of_ne_zero (Nat.ne_of_gt (Nat.zero_lt_of_lt hfuel))
    have hitem := hreads item List.mem_cons_self
    by_cases hmore : more = []
    · subst hmore
      rw [List.map_singleton, join] at hfuel ⊢
      rw [readItems_item hitem (by omega) (stops_lineStart layout level rfl rest),
        skipSpace_lineStart layout level (by decide)]
      simp
    · obtain ⟨blank, htext, hskip⟩ := exists_join_cons layout (level + 1)
        (renderAt layout (level + 1)) item hmore fun other hother =>
          begins_renderAt layout _ (hexact other (List.mem_cons_of_mem _ hother))
      rw [htext] at hfuel ⊢
      simp only [List.length_append, List.length_cons] at hfuel
      simp only [List.append_assoc, List.cons_append]
      rw [readItems_item hitem (by omega) (stops_cons rfl _), skipSpace_cons (by decide)]
      show readItems left (item :: done) (skipSpace (blank ++ _)) = _
      rw [hskip, ih hmore (fun other hother => hexact other (List.mem_cons_of_mem _ hother))
        (fun other hother => hreads other (List.mem_cons_of_mem _ hother)) (by omega)]
      simp

theorem toList_fieldText (layout : Layout) (level : Nat) (field : String × Value) :
    (fieldText layout level field).toList = '\x22' :: (field.1.toList.flatMap escapeChar ++
      '\x22' :: ':' :: ' ' :: (renderAt layout level field.2).toList) := by
  rw [fieldText, String.toList_append, String.toList_append, toList_quote]
  simp

/-- A field is read up to what follows its value. -/
theorem readFields_fieldText {level : Nat} {key : String} {value : Value} (hexact : Exact value)
    (hreads : ReadsBack layout value) {fuel : Nat} {done : List (String × Value)}
    {rest : List Char} (hfuel : (fieldText layout level (key, value)).toList.length ≤ fuel)
    (hrest : Stops rest) :
    readFields (fuel + 1) done ((fieldText layout level (key, value)).toList ++ rest) =
      match skipSpace rest with
      | ',' :: rest => readFields fuel (Value.setField key value done) (skipSpace rest)
      | '\x7d' :: rest => some (.mapping (Value.setField key value done), rest)
      | _ => none := by
  rw [toList_fieldText] at hfuel ⊢
  simp only [List.length_cons, List.length_append] at hfuel
  have hblank : ∀ c ∈ [' '], isSpace c = true := List.forall_mem_singleton.mpr rfl
  have hspace (cs : List Char) : skipSpace (' ' :: cs) = skipSpace cs := skipSpace_append hblank cs
  simp only [List.cons_append, List.append_assoc, readFields, readString_quote,
    Option.bind_eq_bind, Option.bind_some]
  rw [skipSpace_cons (by decide)]
  simp only [hspace, (begins_renderAt layout level hexact).skipSpace]
  rw [hreads level fuel rest (by omega) hrest]
  rfl

/-- The fields of a mapping are read one by one, up to its end. -/
theorem readFields_join {level : Nat} {fields : List (String × Value)} (hne : fields ≠ [])
    (hexact : ∀ field ∈ fields, Exact field.2)
    (hreads : ∀ field ∈ fields, ReadsBack layout field.2)
    {fuel : Nat} {done : List (String × Value)} {rest : List Char}
    (hkeys : ((done ++ fields).map Prod.fst).Nodup)
    (hfuel : (join (layout.separator (level + 1))
      (fields.map (fieldText layout (level + 1)))).toList.length < fuel) :
    readFields fuel done ((join (layout.separator (level + 1))
      (fields.map (fieldText layout (level + 1)))).toList ++
        ((layout.lineStart level).toList ++ '\x7d' :: rest)) =
      some (.mapping (done ++ fields), rest) := by
  induction fields generalizing fuel done with
  | nil => exact absurd rfl hne
  | cons field more ih =>
    obtain ⟨left, rfl⟩ := Nat.exists_eq_add_one_of_ne_zero (Nat.ne_of_gt (Nat.zero_lt_of_lt hfuel))
    obtain ⟨key, value⟩ := field
    have hvalue : ReadsBack layout value := hreads (key, value) List.mem_cons_self
    have hown : Exact value := hexact (key, value) List.mem_cons_self
    have hfresh : key ∉ done.map Prod.fst := by
      rw [List.map_append, List.nodup_append] at hkeys
      exact fun hkey => hkeys.2.2 key hkey key List.mem_cons_self rfl
    by_cases hmore : more = []
    · subst hmore
      rw [List.map_singleton, join] at hfuel ⊢
      rw [readFields_fieldText hown hvalue (by omega) (stops_lineStart layout level rfl rest),
        skipSpace_lineStart layout level (by decide), Value.setField_of_not_mem value hfresh]
      rfl
    · obtain ⟨blank, htext, hskip⟩ := exists_join_cons layout (level + 1)
        (fieldText layout (level + 1)) (key, value) hmore fun other _ =>
          ⟨_, _, toList_fieldText layout _ other, rfl⟩
      rw [htext] at hfuel ⊢
      simp only [List.length_append, List.length_cons] at hfuel
      simp only [List.append_assoc, List.cons_append]
      rw [readFields_fieldText hown hvalue (by omega) (stops_cons rfl _),
        skipSpace_cons (by decide), Value.setField_of_not_mem value hfresh]
      show readFields left (done ++ [(key, value)]) (skipSpace (blank ++ _)) = _
      rw [hskip, ih hmore (fun other hother => hexact other (List.mem_cons_of_mem _ hother))
        (fun other hother => hreads other (List.mem_cons_of_mem _ hother)) (by simpa using hkeys)
        (by omega)]
      simp

theorem toList_enclose (layout : Layout) (level : Nat) {first last : String} {a b : Char}
    (hfirst : first.toList = [a]) (hlast : last.toList = [b]) {items : List String}
    (hne : items ≠ []) : (layout.enclose level first last items).toList =
      a :: ((layout.lineStart (level + 1)).toList ++
        ((join (layout.separator (level + 1)) items).toList ++
          ((layout.lineStart level).toList ++ [b]))) := by
  unfold Layout.enclose
  rw [if_neg (by simpa using hne)]
  simp only [String.toList_append, List.append_assoc, hfirst, hlast]
  rfl

/-- The text of a value has a character, so there is fuel for the first step. -/
theorem exists_fuel {layout : Layout} {level fuel : Nat} {v : Value} (h : Exact v)
    (hfuel : (renderAt layout level v).toList.length ≤ fuel) : ∃ left, fuel = left + 1 := by
  obtain ⟨first, rest, htext, -⟩ := begins_renderAt layout level h
  rw [htext, List.length_cons] at hfuel
  exact Nat.exists_eq_add_of_le' (Nat.le_trans (Nat.le_add_left 1 _) hfuel)

/-- What begins like a number is read as one. -/
theorem readValue_eq_readNumber {first : Char} {rest : List Char} (h : BeginsNumber first rest)
    (fuel : Nat) : readValue (fuel + 1) (first :: rest) = readNumber (first :: rest) := by
  have hne {c : Char} (hc : c.isDigit = false) (hminus : c ≠ '-') (more : List Char) :
      first :: rest ≠ c :: more := by
    rintro heq
    obtain ⟨rfl, -⟩ := List.cons.inj heq
    rcases h with hdigit | ⟨hsign, -⟩
    · rw [hc] at hdigit
      cases hdigit
    · exact hminus hsign
  rw [readValue]
  · exact hne rfl (by decide)
  · exact hne rfl (by decide)
  · exact hne rfl (by decide)
  · exact hne rfl (by decide)
  · exact hne rfl (by decide)
  · exact hne rfl (by decide)
  · exact hne rfl (by decide)
  · exact hne rfl (by decide)
  · -- The word for a negative infinity has the sign of a number, but no digit after it.
    intro more heq
    obtain ⟨rfl, rfl⟩ := List.cons.inj heq
    rcases h with hdigit | ⟨-, next, others, heq, hdigit⟩
    · cases hdigit
    · obtain ⟨rfl, -⟩ := List.cons.inj heq
      cases hdigit

/-- What begins like a value after a bracket is the first item. -/
theorem readValue_bracket {level : Nat} {inner : List Char} (h : Begins inner) (fuel : Nat)
    (rest : List Char) :
    readValue (fuel + 1) ('[' :: ((layout.lineStart level).toList ++ (inner ++ rest))) =
      readItems fuel [] (inner ++ rest) := by
  rw [readValue, skipSpace_append fun c => isSpace_of_mem_lineStart, h.skipSpace]
  split
  next after heq => exact absurd heq (h.ne rfl rest after)
  · rfl

theorem readValue_brace {level : Nat} {inner : List Char} (h : Begins inner) (fuel : Nat)
    (rest : List Char) :
    readValue (fuel + 1) ('\x7b' :: ((layout.lineStart level).toList ++ (inner ++ rest))) =
      readFields fuel [] (inner ++ rest) := by
  rw [readValue, skipSpace_append fun c => isSpace_of_mem_lineStart, h.skipSpace]
  split
  next after heq => exact absurd heq (h.ne rfl rest after)
  · rfl

theorem readsBack (layout : Layout) {v : Value} (h : Exact v) : ReadsBack layout v := by
  induction h with
  | null =>
    intro level fuel rest hfuel hrest
    obtain ⟨left, rfl⟩ := exists_fuel .null hfuel
    rw [renderAt]
    rfl
  | bool b =>
    intro level fuel rest hfuel hrest
    obtain ⟨left, rfl⟩ := exists_fuel (.bool b) hfuel
    rw [renderAt]
    cases b <;> rfl
  | int n =>
    intro level fuel rest hfuel hrest
    obtain ⟨left, rfl⟩ := exists_fuel (.int n) hfuel
    obtain ⟨first, more, htext, hfirst⟩ := exists_toList_toString n
    rw [renderAt, ← readNumber_toString n hrest, htext]
    exact readValue_eq_readNumber (hfirst.append rest) left
  | text s =>
    intro level fuel rest hfuel hrest
    obtain ⟨left, rfl⟩ := exists_fuel (.text s) hfuel
    rw [renderAt, toList_quote, List.cons_append, List.append_assoc, List.singleton_append,
      readValue, readString_quote]
    rfl
  | @list items hitems ih =>
    intro level fuel rest hfuel hrest
    obtain ⟨left, rfl⟩ := exists_fuel (.list hitems) hfuel
    rw [renderAt, renderItems_eq_map] at hfuel ⊢
    by_cases hne : items = []
    · subst hne
      show readValue (left + 1) ("[]".toList ++ rest) = _
      rfl
    · rw [toList_enclose layout level (a := '[') (b := ']') rfl rfl
        (mt List.map_eq_nil_iff.mp hne)] at hfuel ⊢
      have hbegins := begins_join (layout.separator (level + 1)) hne fun item hitem =>
        begins_renderAt layout (level + 1) (hitems item hitem)
      simp only [List.append_assoc, List.cons_append]
      rw [readValue_bracket hbegins]
      simp only [List.length_append, List.length_cons] at hfuel
      exact readItems_join hne hitems ih (by omega)
  | @mapping fields hkeys hfields ih =>
    intro level fuel rest hfuel hrest
    obtain ⟨left, rfl⟩ := exists_fuel (.mapping hkeys hfields) hfuel
    rw [renderAt, renderFields_eq_map] at hfuel ⊢
    by_cases hne : fields = []
    · subst hne
      show readValue (left + 1) ("\x7b\x7d".toList ++ rest) = _
      rfl
    · rw [toList_enclose layout level (a := '\x7b') (b := '\x7d') rfl rfl
        (mt List.map_eq_nil_iff.mp hne)] at hfuel ⊢
      have hbegins := begins_join (layout.separator (level + 1)) hne fun field _ =>
        ⟨_, _, toList_fieldText layout (level + 1) field, rfl⟩
      simp only [List.append_assoc, List.cons_append]
      rw [readValue_brace hbegins]
      simp only [List.length_append, List.length_cons] at hfuel
      exact readFields_join hne hfields ih hkeys (by omega)

/-- The text of a value is read as the value, with any indentation. -/
theorem read?_render {v : Value} (h : Exact v) (indent : Option Int) :
    read? (render indent v) = some v := by
  have hskip := (begins_renderAt ⟨indent⟩ 0 h).skipSpace []
  have hread := readsBack ⟨indent⟩ h 0 ((render indent v).toList.length + 1) [] (Nat.le_succ _)
    fun c hc => absurd hc (by simp)
  rw [List.append_nil] at hskip hread
  rw [read?, show skipSpace (render indent v).toList = (renderAt ⟨indent⟩ 0 v).toList from hskip,
    hread]
  rfl

end Values

end RecordMapper.Json
