import RecordMapper.Proofs.Source.SpecCalls

/-!
# Bodies filled at once

A body is cut at its percent signs: every second piece is the label of a placeholder and the others
are literal. Between two placeholders of a body there is always a character that none can hold, so
the closing sign of one and the opening sign of the next never meet as a placeholder of their own,
whatever was put in their places. Filling in the placeholders one after another therefore comes to
putting each value in its place in one pass.
-/
namespace RecordMapper.Source

open RecordMapper.Config RecordMapper.Text RecordMapper.View

/-- A body as the literal text at its beginning and its placeholders, each with the literal text
after it. -/
structure Cut where
  opening : List Char
  holes : List (Placeholder × List Char)

namespace Cut

def placeholderOf? (label : List Char) : Option Placeholder :=
  placeholders.find? fun p => p.label = String.ofList label

/-- Labels and literal texts in turn. -/
def holesOf? : List (List Char) → Option (List (Placeholder × List Char))
  | [] => some []
  | [_] => none
  | label :: text :: rest => do
    let p ← placeholderOf? label
    let holes ← holesOf? rest
    return (p, text) :: holes

def ofChars? (cs : List Char) : Option Cut :=
  match pieces '%' cs with
  | [] => none
  | opening :: rest => (holesOf? rest).map (Cut.mk opening)

/-- Cuts a body at its placeholders, unless it has percent signs that are not theirs. -/
def of? (body : String) : Option Cut := ofChars? body.toList

/-- The literal texts with values in the places of the placeholders. -/
def fill (value : Placeholder → String) (c : Cut) : String :=
  String.ofList (c.opening ++ c.holes.flatMap fun hole => (value hole.1).toList ++ hole.2)

/-- Between two placeholders there is a character that none can hold. -/
def IsSpaced (c : Cut) : Prop :=
  ∀ hole ∈ c.holes.dropLast, ∃ ch ∈ hole.2, ch ≠ '%' ∧ ch.isAlpha = false

instance (c : Cut) : Decidable c.IsSpaced :=
  have (hole : Placeholder × List Char) :
      Decidable (∃ ch ∈ hole.2, ch ≠ '%' ∧ ch.isAlpha = false) := List.decidableBEx _ _
  List.decidableBAll _ _

/-- No literal text has a percent sign. -/
structure IsLiteral (c : Cut) : Prop where
  opening : '%' ∉ c.opening
  holes : ∀ hole ∈ c.holes, '%' ∉ hole.2

end Cut

/-- The value of a placeholder; one without a value stays. -/
def valueOf (values : List (Placeholder × String)) (p : Placeholder) : String :=
  (values.lookup p).getD p.token

section Cutting

variable {body : String} {cut : Cut}

theorem label_eq_of_placeholderOf? {label : List Char} {p : Placeholder}
    (h : Cut.placeholderOf? label = some p) : p.label.toList = label := by
  have hlabel : p.label = String.ofList label := by simpa using List.find?_some h
  rw [hlabel, String.toList_ofList]

theorem toList_token (p : Placeholder) : p.token.toList = '%' :: p.label.toList ++ ['%'] := by
  rw [Placeholder.token, String.toList_append, String.toList_append]
  rfl

theorem flatMap_of_holesOf? {parts : List (List Char)} {holes : List (Placeholder × List Char)}
    (h : Cut.holesOf? parts = some holes) : parts.flatMap ('%' :: ·) =
      holes.flatMap fun hole => hole.1.token.toList ++ hole.2 := by
  fun_induction Cut.holesOf? parts generalizing holes with
  | case1 =>
    cases h
    rfl
  | case2 => cases h
  | case3 label text rest ih =>
    obtain ⟨p, hp, h⟩ := Option.bind_eq_some_iff.mp h
    obtain ⟨others, hothers, h⟩ := Option.bind_eq_some_iff.mp h
    cases h
    rw [List.flatMap_cons, List.flatMap_cons, List.flatMap_cons, ih hothers, toList_token,
      label_eq_of_placeholderOf? hp]
    simp

theorem mem_of_holesOf? {parts : List (List Char)} {holes : List (Placeholder × List Char)}
    (h : Cut.holesOf? parts = some holes) : ∀ hole ∈ holes, hole.2 ∈ parts := by
  fun_induction Cut.holesOf? parts generalizing holes with
  | case1 =>
    cases h
    exact fun _ hole => absurd hole List.not_mem_nil
  | case2 => cases h
  | case3 label text rest ih =>
    obtain ⟨p, -, h⟩ := Option.bind_eq_some_iff.mp h
    obtain ⟨others, hothers, h⟩ := Option.bind_eq_some_iff.mp h
    cases h
    intro hole hhole
    rcases List.mem_cons.mp hhole with rfl | hhole
    · exact List.mem_cons_of_mem _ (List.mem_cons_self ..)
    · exact List.mem_cons_of_mem _ (List.mem_cons_of_mem _ (ih hothers hole hhole))

/-- A body that can be cut is its literal texts with the placeholders between them. -/
theorem fill_token_of_cut (h : Cut.of? body = some cut) :
    cut.fill Placeholder.token = body ∧ cut.IsLiteral := by
  unfold Cut.of? Cut.ofChars? at h
  split at h
  · cases h
  · rename_i opening rest hpieces
    obtain ⟨holes, hholes, rfl⟩ := Option.map_eq_some_iff.mp h
    have hbody := intercalate_pieces '%' body.toList
    rw [hpieces, intercalate_cons, flatMap_of_holesOf? hholes] at hbody
    refine ⟨by rw [Cut.fill, hbody, String.ofList_toList], ?_, fun hole hhole => ?_⟩
    · exact not_mem_of_mem_pieces (hpieces ▸ List.mem_cons_self ..)
    · exact not_mem_of_mem_pieces
        (hpieces ▸ List.mem_cons_of_mem _ (mem_of_holesOf? hholes hole hhole))

end Cutting

section Holes

variable {values : List (Placeholder × String)}

theorem head?_token (p : Placeholder) : p.token.toList.head? = some '%' := by
  rw [toList_token]
  rfl

theorem percent_not_mem_label (p : Placeholder) : '%' ∉ p.label.toList := by
  have hall : ∀ p ∈ placeholders, '%' ∉ p.label.toList := by decide
  exact hall p (mem_placeholders p)

theorem label_injective {p q : Placeholder} (h : p.label.toList = q.label.toList) : p = q := by
  have hall : ∀ p ∈ placeholders, ∀ q ∈ placeholders, p.label = q.label → p = q := by decide
  exact hall p (mem_placeholders p) q (mem_placeholders q) (String.toList_injective h)

/-- Where a placeholder is the only one, no other is found. -/
theorem eq_of_occurs_token {p q : Placeholder} {before after : List Char} (hbefore : '%' ∉ before)
    (hafter : '%' ∉ after) (h : q.token.toList <:+: before ++ (p.token.toList ++ after)) :
    q = p := by
  obtain ⟨left, right, h⟩ := h
  have hq : left ++ q.token.toList ++ right =
      left ++ '%' :: (q.label.toList ++ '%' :: right) := by simp [toList_token]
  have hp : before ++ (p.token.toList ++ after) =
      before ++ '%' :: (p.label.toList ++ '%' :: after) := by simp [toList_token]
  have hpieces := congrArg (pieces '%') h
  rw [hq, hp, pieces_append, pieces_append_cons (percent_not_mem_label q),
    pieces_append_cons hbefore, pieces_append_cons (percent_not_mem_label p),
    pieces_of_not_mem hafter] at hpieces
  obtain ⟨first, others, hleft⟩ := List.exists_cons_of_ne_nil (pieces_ne_nil '%' left)
  obtain ⟨last, more, hright⟩ := List.exists_cons_of_ne_nil (pieces_ne_nil '%' right)
  rw [hleft, hright] at hpieces
  cases others with
  | nil => exact label_injective (by simp_all)
  | cons =>
    have hlength := congrArg List.length hpieces
    simp only [List.length_append, List.length_cons, List.length_nil] at hlength
    omega

theorem replaceAll_hole {p : Placeholder} {before after : List Char} (hbefore : '%' ∉ before)
    (hafter : '%' ∉ after) (value : String) :
    replaceAll p.token value (String.ofList (before ++ (p.token.toList ++ after))) =
      String.ofList (before ++ (value.toList ++ after)) := by
  have hne : p.token.toList ≠ [] := by simpa using token_ne_empty p
  have hrest : replaceFrom p.token.toList value.toList 0 after = after :=
    replaceFrom_of_absent fun hoccurs => hafter (hoccurs.subset (percent_mem_token p))
  rw [replaceAll, String.toList_ofList, replaceFrom_append_of_head (head?_token p) hbefore,
    replaceFrom_self_append hne, hrest]

theorem valueOf_cons_self (p : Placeholder) (value : String) :
    valueOf ((p, value) :: values) p = value := by
  simp [valueOf]

theorem valueOf_cons_of_ne {p q : Placeholder} (h : p ≠ q) (value : String) :
    valueOf ((q, value) :: values) p = valueOf values p := by
  rw [valueOf, valueOf, List.lookup_cons, beq_false_of_ne h]

/-- A placeholder between literal texts becomes its value. -/
theorem substitute_hole (hfree : ∀ entry ∈ values, '%' ∉ entry.2.toList) {before after : List Char}
    (hbefore : '%' ∉ before) (hafter : '%' ∉ after) (p : Placeholder) :
    substitute values (String.ofList (before ++ (p.token.toList ++ after))) =
      String.ofList (before ++ ((valueOf values p).toList ++ after)) := by
  induction values with
  | nil => rfl
  | cons entry rest ih =>
    obtain ⟨q, value⟩ := entry
    have hrest := ih fun other hother => hfree other (List.mem_cons_of_mem _ hother)
    rw [substitute_cons]
    by_cases hp : p = q
    · subst hp
      have hvalue : '%' ∉ value.toList := hfree (p, value) (List.mem_cons_self ..)
      have hfilled : '%' ∉ (String.ofList (before ++ (value.toList ++ after))).toList := by
        simp [hbefore, hvalue, hafter]
      rw [replaceAll_hole hbefore hafter, valueOf_cons_self, substitute_of_free hfilled]
    · have habsent : ¬q.token.toList <:+:
          (String.ofList (before ++ (p.token.toList ++ after))).toList := by
        rw [String.toList_ofList]
        exact fun hoccurs => hp (eq_of_occurs_token hbefore hafter hoccurs).symm
      rw [replaceAll_of_absent habsent, hrest, valueOf_cons_of_ne hp]

/-- Every hole of a cut is filled by itself: the character between it and the next one is passed by
whatever is replaced. -/
theorem substitute_fill (hfree : ∀ entry ∈ values, '%' ∉ entry.2.toList) {cut : Cut}
    (hliteral : cut.IsLiteral) (hspaced : cut.IsSpaced) :
    substitute values (cut.fill Placeholder.token) = cut.fill (valueOf values) := by
  obtain ⟨opening, holes⟩ := cut
  obtain ⟨hopening, hholes⟩ := hliteral
  induction holes generalizing opening with
  | nil => exact substitute_of_free (by simpa [Cut.fill] using hopening)
  | cons hole rest ih =>
    obtain ⟨p, text⟩ := hole
    have htext : '%' ∉ text := hholes (p, text) (List.mem_cons_self ..)
    cases rest with
    | nil => simpa [Cut.fill] using substitute_hole hfree hopening htext p
    | cons next rest =>
      obtain ⟨ch, hch, hboundary⟩ := hspaced (p, text) (List.mem_cons_self ..)
      obtain ⟨before, after, rfl⟩ := List.append_of_mem hch
      have hbefore : '%' ∉ before := fun hmem => htext (List.mem_append_left _ hmem)
      have hafter : '%' ∉ after := fun hmem =>
        htext (List.mem_append_right _ (List.mem_cons_of_mem _ hmem))
      have hseparator : IsBoundary (String.ofList [ch]) := ⟨by simp, by simpa using hboundary⟩
      have hcut : ∀ value,
          (Cut.mk opening ((p, before ++ ch :: after) :: next :: rest)).fill value =
          String.ofList (opening ++ ((value p).toList ++ before)) ++ String.ofList [ch] ++
            (Cut.mk after (next :: rest)).fill value := by
        intro value
        apply String.toList_injective
        simp [Cut.fill]
      rw [hcut, hcut, substitute_append hseparator, substitute_hole hfree hopening hbefore,
        ih after (fun hole hhole => hspaced hole (List.mem_cons_of_mem _ hhole)) hafter
          fun hole hhole => hholes hole (List.mem_cons_of_mem _ hhole)]

theorem percent_not_mem_fill {cut : Cut} {value : Placeholder → String} (h : cut.IsLiteral)
    (hvalue : ∀ p, '%' ∉ (value p).toList) : '%' ∉ (cut.fill value).toList := by
  simp only [Cut.fill, String.toList_ofList, List.mem_append, List.mem_flatMap, not_or, not_exists,
    not_and]
  exact ⟨h.opening, fun hole hhole => ⟨hvalue hole.1, h.holes hole hhole⟩⟩

end Holes

section Bodies

/-- The bodies of all frameworks can be cut, with a space between the placeholders. -/
theorem exists_cut_specBody (framework : TestFramework) :
    ∃ cut, Cut.of? (specBody framework) = some cut ∧ cut.IsSpaced := by
  have hbelow : (specBody framework).toByteArray.data.toList.all (fun b => b.toNat.blt 128) := by
    cases framework <;> decide +kernel
  have hascii : ∀ b ∈ (specBody framework).toByteArray.data.toList, b.toNat < 128 :=
    fun b hb => Nat.blt_eq.mp (List.all_eq_true.mp hbelow b hb)
  have hcut : (Cut.ofChars? ((specBody framework).toByteArray.data.toList.map
      fun b => Char.ofNat b.toNat)).any (fun cut => cut.IsSpaced) = true := by
    cases framework <;> decide +kernel
  rw [← toList_of_ascii hascii] at hcut
  cases hof : Cut.of? (specBody framework) with
  | none =>
    rw [← Cut.of?, hof] at hcut
    cases hcut
  | some cut =>
    rw [← Cut.of?, hof] at hcut
    exact ⟨cut, rfl, of_decide_eq_true hcut⟩

end Bodies

section Values

variable {config : Settings} {v : TableView} {values : List (Placeholder × String)}

/-- Every placeholder has just one value. -/
theorem map_fst_of_placeholderValues (h : placeholderValues config v = .ok values) :
    values.map Prod.fst = placeholders := by
  unfold placeholderValues at h
  obtain ⟨-, -, h⟩ := bind_eq_ok_iff.mp h
  obtain ⟨-, -, h⟩ := bind_eq_ok_iff.mp h
  obtain ⟨baseTypes, -, h⟩ := bind_eq_ok_iff.mp h
  obtain ⟨samples, -, h⟩ := bind_eq_ok_iff.mp h
  obtain ⟨-, -, h⟩ := bind_eq_ok_iff.mp h
  obtain ⟨-, -, h⟩ := bind_eq_ok_iff.mp h
  cases h
  rfl

theorem mem_of_lookup {p : Placeholder} {value : String} (h : values.lookup p = some value) :
    (p, value) ∈ values := by
  obtain ⟨before, after, rfl, -⟩ := List.lookup_eq_some_iff.mp h
  exact List.mem_append_right _ (List.mem_cons_self ..)

theorem lookup_eq_valueOf (h : placeholderValues config v = .ok values) (p : Placeholder) :
    values.lookup p = some (valueOf values p) := by
  have hmem : p ∈ values.map Prod.fst := by
    rw [map_fst_of_placeholderValues h]
    exact mem_placeholders p
  obtain ⟨entry, hentry, rfl⟩ := List.mem_map.mp hmem
  obtain ⟨value, hvalue⟩ : ∃ value, values.lookup entry.1 = some value := by
    cases hlookup : values.lookup entry.1 with
    | none => simpa using List.lookup_eq_none_iff.mp hlookup entry hentry
    | some value => exact ⟨value, rfl⟩
  rw [valueOf, hvalue, Option.getD_some]

/-- The order of entries with different keys does not matter. -/
theorem lookup_of_perm {entries other : List (Placeholder × String)} (h : entries.Perm other)
    (hnodup : (entries.map Prod.fst).Nodup) (p : Placeholder) :
    entries.lookup p = other.lookup p := by
  induction h with
  | nil => rfl
  | cons entry _ ih => rw [List.lookup_cons, List.lookup_cons, ih (List.nodup_cons.mp hnodup).2]
  | swap first second rest =>
    have hne : first.1 ≠ second.1 := by
      rintro heq
      simp [heq] at hnodup
    rw [List.lookup_cons, List.lookup_cons, List.lookup_cons, List.lookup_cons]
    cases hfirst : p == first.1 <;> cases hsecond : p == second.1 <;> simp_all
  | trans hfirst _ ih jh => rw [ih hnodup, jh ((hfirst.map _).nodup_iff.mp hnodup)]

end Values

/-- When no value holds a percent sign, filling in one placeholder after another comes to cutting
the body at its placeholders and putting every value in its place in one pass. This is so for every
framework and for every order of the placeholders. Every placeholder has a value, and no percent
sign is left. -/
theorem spec_filled_at_once {config : Settings} {v : TableView}
    {values : List (Placeholder × String)} (h : placeholderValues config v = .ok values)
    (hfree : ∀ entry ∈ values, '%' ∉ entry.2.toList) (framework : TestFramework) :
    ∃ cut, Cut.of? (specBody framework) = some cut ∧
      (cut.fill Placeholder.token = specBody framework ∧ cut.IsLiteral) ∧
      (∀ p, values.lookup p = some (valueOf values p)) ∧
      substitute values (specBody framework) = cut.fill (valueOf values) ∧
      (∀ order, order.Perm values →
        substitute order (specBody framework) = cut.fill (valueOf values)) ∧
      '%' ∉ (cut.fill (valueOf values)).toList := by
  obtain ⟨cut, hcut, hspaced⟩ := exists_cut_specBody framework
  obtain ⟨hbody, hliteral⟩ := fill_token_of_cut hcut
  have hvalues := lookup_eq_valueOf h
  have horder : ∀ order, order.Perm values →
      substitute order (specBody framework) = cut.fill (valueOf values) := by
    intro order hperm
    have hnodup : (values.map Prod.fst).Nodup := by
      rw [map_fst_of_placeholderValues h]
      decide
    have hsame : valueOf order = valueOf values := by
      funext p
      rw [valueOf, valueOf, lookup_of_perm hperm.symm hnodup]
    rw [← hbody, substitute_fill (fun entry hentry => hfree entry (hperm.mem_iff.mp hentry))
      hliteral hspaced, hsame]
  refine ⟨cut, hcut, ⟨hbody, hliteral⟩, hvalues, horder values (List.Perm.refl _), horder, ?_⟩
  refine percent_not_mem_fill hliteral fun p => ?_
  exact hfree _ (mem_of_lookup (hvalues p))

namespace Sample

/-- A class with the name of a placeholder. -/
def membersAsKeys : TableView := TableView.of unitSpec members (some (.text "primaryKeys"))

end Sample

/-- A class name that is the label of another placeholder is not taken for it, in whichever order
the placeholders are filled in. -/
theorem spec_filled_at_once_of_members :
    ∃ values cut, placeholderValues Sample.unitSpec Sample.membersAsKeys = .ok values ∧
      (∀ entry ∈ values, '%' ∉ entry.2.toList) ∧
      Cut.of? (specBody .specs2Unit) = some cut ∧
      valueOf values .className = "primaryKeys" ∧
      substitute values (specBody .specs2Unit) = cut.fill (valueOf values) ∧
      substitute values.reverse (specBody .specs2Unit) = cut.fill (valueOf values) := by
  have hchecked : (placeholderValues Sample.unitSpec Sample.membersAsKeys).toOption.any
      (fun values => values.all fun entry => '%' ∉ entry.2.toList) = true := by decide +kernel
  cases hvalues : placeholderValues Sample.unitSpec Sample.membersAsKeys with
  | error failure =>
    rw [hvalues] at hchecked
    cases hchecked
  | ok values =>
    rw [hvalues] at hchecked
    have hfree : ∀ entry ∈ values, '%' ∉ entry.2.toList := fun entry hentry =>
      of_decide_eq_true (List.all_eq_true.mp hchecked entry hentry)
    obtain ⟨cut, hcut, -, hlookup, hmap, horder, -⟩ :=
      spec_filled_at_once hvalues hfree .specs2Unit
    have hname := (lookup_of_placeholderValues hvalues).2.1
    rw [hlookup] at hname
    exact ⟨values, cut, rfl, hfree, hcut, Option.some.inj hname, hmap,
      horder _ (List.reverse_perm values)⟩

end RecordMapper.Source
