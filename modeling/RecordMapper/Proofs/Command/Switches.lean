import Mathlib.Data.List.Forall2
import RecordMapper.Action
import RecordMapper.Command.Arguments

/-!
# Switches among argument words

Accepted words are options one after another, each with its value if it takes one, and nothing
else. A switch that has no short spelling stands in a word of its own, so taking its words away
leaves words that are accepted again, with every other argument as it was.
-/
namespace RecordMapper.Command

/-- The options that turn something on and have a long spelling only. -/
def Flag.switches : List Flag :=
  [.validateOnly, .echo, .force, .noSpec, .noArbitrary, .noStrict, .failOnWarnings]

namespace Arguments

/-- The arguments with a switch turned off. -/
def without (a : Arguments) : Flag → Arguments
  | .validateOnly => { a with validateOnly := false }
  | .echo => { a with echo := false }
  | .force => { a with force := false }
  | .noSpec => { a with noSpec := false }
  | .noArbitrary => { a with noArbitrary := false }
  | .noStrict => { a with noStrict := false }
  | .failOnWarnings => { a with failOnWarnings := false }
  | _ => a

/-- Words that are accepted one by one, with the arguments before and after them. -/
inductive Accepts : Arguments → List Word → Arguments → Prop
  | done (a : Arguments) : Accepts a [] a
  | complete {a next last : Arguments} {f : Flag} {isLong : Bool} {attached : Option Attached}
      {flags : List Flag} {rest : List Word}
      (hchain : chainOf f isLong attached = .ok ⟨flags, .complete⟩)
      (hflags : flags.foldlM withFlag a = .ok next) (hrest : Accepts next rest last) :
      Accepts a (.flag f isLong attached :: rest) last
  | valued {a before next last : Arguments} {f valuedFlag : Flag} {isLong : Bool}
      {attached : Option Attached} {flags : List Flag} {value : String} {rest : List Word}
      (hchain : chainOf f isLong attached = .ok ⟨flags, .valued valuedFlag value⟩)
      (hflags : flags.foldlM withFlag a = .ok before)
      (hvalue : before.withValue valuedFlag value = .ok next) (hrest : Accepts next rest last) :
      Accepts a (.flag f isLong attached :: rest) last
  | waiting {a before next last : Arguments} {f valuedFlag : Flag} {isLong : Bool}
      {attached : Option Attached} {flags : List Flag} {value : String} {rest : List Word}
      (hchain : chainOf f isLong attached = .ok ⟨flags, .waiting valuedFlag⟩)
      (hflags : flags.foldlM withFlag a = .ok before)
      (hvalue : before.withValue valuedFlag value = .ok next) (hrest : Accepts next rest last) :
      Accepts a (.flag f isLong attached :: .plain value :: rest) last

section Reading

variable {a b : Arguments}

/-- Words that leave nothing over are accepted one by one. -/
theorem accepts_of_readWords {extra : List String} : ∀ {words : List Word} {a : Arguments},
    readWords a extra words = .ok (b, []) → extra = [] ∧ Accepts a words b
  | [], a, h => by
    cases h
    exact ⟨rfl, .done _⟩
  | .plain s :: rest, a, h => by
    rw [readWords] at h
    exact absurd (accepts_of_readWords h).1 (by simp)
  | .unknown s :: rest, a, h => by
    rw [readWords] at h
    exact absurd (accepts_of_readWords h).1 (by simp)
  | .separator :: rest, a, h => by
    rw [readWords] at h
    exact absurd (accepts_of_readWords h).1 (by simp)
  | .flag f isLong attached :: rest, a, h => by
    rw [readWords] at h
    obtain ⟨⟨flags, ending⟩, hchain, h⟩ := bind_eq_ok_iff.mp h
    rw [mapError_eq_ok_iff] at hchain
    cases ending with
    | complete =>
      obtain ⟨next, hflags, h⟩ := bind_eq_ok_iff.mp h
      obtain ⟨hextra, hrest⟩ := accepts_of_readWords h
      exact ⟨hextra, .complete hchain hflags hrest⟩
    | unknown s =>
      obtain ⟨next, -, h⟩ := bind_eq_ok_iff.mp h
      exact absurd (accepts_of_readWords h).1 (by simp)
    | valued last value =>
      obtain ⟨before, hflags, h⟩ := bind_eq_ok_iff.mp h
      obtain ⟨next, hvalue, h⟩ := bind_eq_ok_iff.mp h
      obtain ⟨hextra, hrest⟩ := accepts_of_readWords h
      exact ⟨hextra, .valued hchain hflags hvalue hrest⟩
    | waiting last =>
      match rest, h with
      | .plain value :: rest, h =>
        obtain ⟨before, hflags, h⟩ := bind_eq_ok_iff.mp h
        obtain ⟨next, hvalue, h⟩ := bind_eq_ok_iff.mp h
        obtain ⟨hextra, hrest⟩ := accepts_of_readWords h
        exact ⟨hextra, .waiting hchain hflags hvalue hrest⟩
      | [], h => cases h
      | .unknown _ :: _, h => cases h
      | .separator :: _, h => cases h
      | .flag .. :: _, h => cases h

theorem readWords_of_accepts {words : List Word} (h : Accepts a words b) :
    readWords a [] words = .ok (b, []) := by
  induction h with
  | done a => rw [readWords]
  | complete hchain hflags _ ih =>
    rw [readWords, hchain]
    simp only [Except.mapError, ok_bind, hflags, ih]
  | valued hchain hflags hvalue _ ih =>
    rw [readWords, hchain]
    simp only [Except.mapError, ok_bind, hflags, hvalue, ih]
  | waiting hchain hflags hvalue _ ih =>
    rw [readWords, hchain]
    simp only [Except.mapError, ok_bind, hflags, hvalue, ih]

theorem not_separator_of_accepts {words : List Word} (h : Accepts a words b) :
    .separator ∉ words := by
  induction h with
  | done => exact List.not_mem_nil
  | complete _ _ _ ih => simpa using ih
  | valued _ _ _ _ ih => simpa using ih
  | waiting _ _ _ _ ih => simpa using ih

/-- The words, each by itself. -/
def Reads (texts : List String) (words : List Word) : Prop :=
  List.Forall₂ (fun s word => Word.ofText s = .ok word) texts words

theorem ofTexts_eq_ok_iff {texts : List String} {words : List Word} (h : .separator ∉ words) :
    Word.ofTexts texts = .ok words ↔ Reads texts words := by
  induction texts generalizing words with
  | nil =>
    rw [Word.ofTexts, Reads, List.forall₂_nil_left_iff]
    exact ⟨fun hwords => (Except.ok.inj hwords).symm, fun hwords => congrArg Except.ok hwords.symm⟩
  | cons s rest ih =>
    rw [Word.ofTexts, bind_eq_ok_iff]
    constructor
    · rintro ⟨word, hword, hrest⟩
      cases word with
      | separator =>
        cases hrest
        exact absurd (List.mem_cons_self ..) h
      | plain | unknown | flag =>
        obtain ⟨others, hothers, hrest⟩ := bind_eq_ok_iff.mp hrest
        cases hrest
        exact .cons hword ((ih (List.not_mem_of_not_mem_cons h)).mp hothers)
    · rintro (_ | @⟨_, word, _, others, hword, hothers⟩)
      refine ⟨word, hword, ?_⟩
      have hrest := (ih (List.not_mem_of_not_mem_cons h)).mpr hothers
      cases word with
      | separator => exact absurd (List.mem_cons_self ..) h
      | plain | unknown | flag => exact bind_eq_ok_iff.mpr ⟨others, hrest, rfl⟩

/-- What accepted argument words are. -/
theorem parse_eq_ok_iff {texts : List String} : parse texts = .ok a ↔
    ∃ words, Reads texts words ∧ Accepts .initial words a ∧ a.input.isSome = true := by
  unfold parse
  rw [bind_eq_ok_iff]
  constructor
  · rintro ⟨words, hwords, h⟩
    rw [mapError_eq_ok_iff] at hwords
    obtain ⟨⟨b, extra⟩, hread, h⟩ := bind_eq_ok_iff.mp h
    dsimp only at h
    split at h
    · cases h
    · split at h
      · cases h
      · rename_i hinput hextra
        obtain rfl : extra = [] := by simpa using hextra
        obtain rfl : b = a := Except.ok.inj h
        have haccepts := (accepts_of_readWords hread).2
        have hreads := (ofTexts_eq_ok_iff (not_separator_of_accepts haccepts)).mp hwords
        exact ⟨words, hreads, haccepts, by simpa [Option.isSome_iff_ne_none] using hinput⟩
  · rintro ⟨words, hreads, haccepts, hinput⟩
    have hwords := (ofTexts_eq_ok_iff (not_separator_of_accepts haccepts)).mpr hreads
    refine ⟨words, mapError_eq_ok_iff.mpr hwords, ?_⟩
    rw [readWords_of_accepts haccepts, ok_bind]
    have hgiven : a.input.isNone = false := by simpa [Option.isSome_iff_ne_none] using hinput
    simp only [hgiven, Bool.false_eq_true, if_false, List.isEmpty_nil, Bool.not_true]
    rfl

end Reading

end Arguments

section Spellings

open Arguments

variable {g : Flag} (hg : g ∈ Flag.switches)

include hg

theorem takesValue_switch : g.takesValue = false := by
  have hall : ∀ g ∈ Flag.switches, g.takesValue = false := by decide
  exact hall g hg

/-- A switch is spelled with two hyphens and more than one letter. -/
theorem long_of_spelled {s : String} (h : (s, g) ∈ Flag.spelled) :
    "--".toList <+: s.toList ∧ 2 < s.toList.length := by
  have hall : ∀ entry ∈ Flag.spelled, entry.2 ∈ Flag.switches →
      "--".toList <+: entry.1.toList ∧ 2 < entry.1.toList.length := by decide +kernel
  exact hall (s, g) h hg

theorem long_of_ofSpelling? {s : String} (h : Flag.ofSpelling? s = some g) :
    "--".toList <+: s.toList ∧ 2 < s.toList.length := by
  obtain ⟨before, after, hspelled, -⟩ := List.lookup_eq_some_iff.mp h
  exact long_of_spelled hg (by simp [hspelled])

/-- The readings of a word as a switch are those of a long option. -/
theorem isLong_of_mem_readings {cs : List Char} {spelling : String} {isLong : Bool}
    {attached : Option Attached}
    (h : (spelling, Word.flag g isLong attached) ∈ Word.readings cs) : isLong = true := by
  unfold Word.readings at h
  split at h
  · obtain ⟨⟨_, f⟩, -, hword⟩ := List.mem_map.mp h
    cases hword
    rfl
  · obtain ⟨⟨other, f⟩, hspelled, hword⟩ := List.mem_filterMap.mp h
    dsimp only at hword
    split at hword
    · rename_i htake
      cases hword
      have hlength := (long_of_spelled hg hspelled).2
      rw [htake, List.length_take] at hlength
      omega
    · cases hword

/-- The word of a switch is a long one. -/
theorem isLong_of_ofText {s : String} {isLong : Bool} {attached : Option Attached}
    (h : Word.ofText s = .ok (.flag g isLong attached)) : isLong = true := by
  unfold Word.ofText at h
  dsimp only at h
  split at h
  · cases h
  · split at h
    · cases h
    · split at h
      · rename_i f hspelling
        cases h
        exact List.isPrefixOf_iff_prefix.mpr (long_of_ofSpelling? hg hspelling).1
      · split at h
        · rename_i f hspelling
          cases h
          split at hspelling
          · have hname : (String.ofList (Word.cutAtEquals s.toList).1).toList <+: s.toList := by
              rw [String.toList_ofList]
              exact List.takeWhile_prefix _
            have hlong := (long_of_ofSpelling? hg hspelling).1
            exact List.isPrefixOf_iff_prefix.mpr (hlong.trans hname)
          · cases hspelling
        · split at h
          · rename_i hreadings
            cases h
            exact isLong_of_mem_readings hg (by rw [hreadings]; exact List.mem_singleton_self _)
          · split at h <;> cases h
          · cases h

/-- The letters behind a short option are no switch. -/
theorem not_mem_readChain {f : Flag} {cs : List Char} {chain : Chain} (hne : f ≠ g)
    (h : readChain f cs = .ok chain) : g ∉ chain.flags := by
  induction cs generalizing f chain with
  | nil =>
    cases h
    split <;> simp [Ne.symm hne]
  | cons c rest ih =>
    rw [readChain] at h
    split at h
    · cases h
      exact List.not_mem_nil
    · split at h
      · cases h
      · split at h
        · cases h
        · split at h
          · rename_i next hnext
            have hshort : next ≠ g := by
              rintro rfl
              have hlength := (long_of_ofSpelling? hg hnext).2
              simp at hlength
            cases hrest : readChain next rest with
            | error cause =>
              rw [hrest] at h
              cases h
            | ok later =>
              rw [hrest] at h
              cases h
              exact List.not_mem_cons_of_ne_of_not_mem (Ne.symm hne) (ih hshort hrest)
          · cases h
            simp [Ne.symm hne]

/-- What a word says besides the word of a switch is nothing about the switch. -/
theorem not_mem_chainOf {s : String} {f : Flag} {isLong : Bool} {attached : Option Attached}
    {chain : Chain} (htext : Word.ofText s = .ok (.flag f isLong attached))
    (hother : Word.flag f isLong attached ≠ .flag g true none)
    (h : chainOf f isLong attached = .ok chain) : g ∉ chain.flags := by
  by_cases hsame : f = g
  · subst hsame
    obtain rfl := isLong_of_ofText hg htext
    cases attached with
    | none => exact absurd rfl hother
    | some attached => simp [chainOf, takesValue_switch hg] at h
  · cases attached with
    | none => exact not_mem_readChain hg hsame h
    | some attached =>
      obtain ⟨isMarked, value⟩ := attached
      rw [chainOf] at h
      split at h
      · cases h
        exact List.not_mem_nil
      · split at h
        · cases h
        · exact not_mem_readChain hg hsame h

end Spellings

section Dropping

open Arguments

variable {g : Flag} {a b : Arguments}

/-- Other options set other fields. -/
theorem without_withFlag {f : Flag} (hne : f ≠ g) (h : a.withFlag f = .ok b) :
    (a.without g).withFlag f = .ok (b.without g) := by
  cases f <;> cases h <;> cases g <;> first | rfl | exact absurd rfl hne

theorem without_withFlag_self (hg : g ∈ Flag.switches) (h : a.withFlag g = .ok b) :
    b.without g = a.without g := by
  cases g <;> first | (cases h; rfl) | exact absurd hg (by decide)

theorem without_withValue {f : Flag} {value : String} (h : a.withValue f value = .ok b) :
    (a.without g).withValue f value = .ok (b.without g) := by
  unfold withValue at h ⊢
  split at h
  · cases h
  · rename_i hchoice
    rw [if_neg hchoice]
    cases f <;> cases h <;> cases g <;> rfl

theorem without_foldlM {flags : List Flag} (hflags : g ∉ flags)
    (h : flags.foldlM withFlag a = .ok b) :
    flags.foldlM withFlag (a.without g) = .ok (b.without g) := by
  induction flags generalizing a with
  | nil =>
    cases h
    rfl
  | cons f rest ih =>
    rw [List.foldlM_cons] at h ⊢
    obtain ⟨next, hnext, hrest⟩ := bind_eq_ok_iff.mp h
    rw [without_withFlag (Ne.symm (List.ne_of_not_mem_cons hflags)) hnext, ok_bind]
    exact ih (List.not_mem_of_not_mem_cons hflags) hrest

/-- The words without those of a switch. -/
def Word.dropping (g : Flag) (words : List Word) : List Word :=
  words.filter (· ≠ .flag g true none)

/-- The argument words without those that mean a switch. -/
def withoutSwitch (g : Flag) (texts : List String) : List String :=
  texts.filter fun s => match Word.ofText s with
    | .ok word => word ≠ .flag g true none
    | .error _ => true

theorem reads_withoutSwitch {texts : List String} {words : List Word} (h : Reads texts words) :
    Reads (withoutSwitch g texts) (Word.dropping g words) := by
  induction h with
  | nil => exact .nil
  | @cons s word rest others hword hothers ih =>
    unfold withoutSwitch Word.dropping at ih ⊢
    rw [List.filter_cons, List.filter_cons, hword]
    dsimp only
    split
    · exact .cons hword ih
    · exact ih

/-- The word of a switch sets the switch and does nothing else. -/
theorem chainOf_switch (hg : g ∈ Flag.switches) :
    chainOf g true none = .ok ⟨[g], .complete⟩ := by
  simp [chainOf, readChain, takesValue_switch hg]

/-- A word that goes on after its options is not that of the switch. -/
theorem ne_switch_of_chainOf (hg : g ∈ Flag.switches) {f : Flag} {isLong : Bool}
    {attached : Option Attached} {flags : List Flag} {ending : Ending}
    (hchain : chainOf f isLong attached = .ok ⟨flags, ending⟩) (hending : ending ≠ .complete) :
    Word.flag f isLong attached ≠ .flag g true none := by
  rintro ⟨⟩
  rw [chainOf_switch hg] at hchain
  cases hchain
  exact hending rfl

theorem dropping_cons_of_ne {word : Word} (h : word ≠ .flag g true none) (rest : List Word) :
    Word.dropping g (word :: rest) = word :: Word.dropping g rest :=
  List.filter_cons_of_pos (by simpa using h)

theorem accepts_dropping (hg : g ∈ Flag.switches) {texts : List String} {words : List Word}
    (hreads : Reads texts words) (h : Accepts a words b) :
    Accepts (a.without g) (Word.dropping g words) (b.without g) := by
  induction h generalizing texts with
  | done a => exact .done _
  | @complete a next last f isLong attached flags rest hchain hflags _ ih =>
    cases hreads with
    | cons htext hothers =>
      by_cases hswitch : Word.flag f isLong attached = .flag g true none
      · cases hswitch
        rw [chainOf_switch hg] at hchain
        cases hchain
        have hnext : a.withFlag g = .ok next := by
          rw [List.foldlM_cons] at hflags
          obtain ⟨set, hset, hdone⟩ := bind_eq_ok_iff.mp hflags
          cases hdone
          exact hset
        rw [← without_withFlag_self hg hnext]
        have hdropped : Word.dropping g (.flag g true none :: rest) = Word.dropping g rest :=
          List.filter_cons_of_neg (by simp)
        rw [hdropped]
        exact ih hothers
      · rw [dropping_cons_of_ne hswitch]
        exact .complete hchain
          (without_foldlM (not_mem_chainOf hg htext hswitch hchain) hflags) (ih hothers)
  | @valued a before next last f valuedFlag isLong attached flags value rest hchain hflags hvalue
      _ ih =>
    cases hreads with
    | cons htext hothers =>
      have hother := ne_switch_of_chainOf hg hchain (by simp)
      rw [dropping_cons_of_ne hother]
      exact .valued hchain (without_foldlM (not_mem_chainOf hg htext hother hchain) hflags)
        (without_withValue hvalue) (ih hothers)
  | @waiting a before next last f valuedFlag isLong attached flags value rest hchain hflags hvalue
      _ ih =>
    cases hreads with
    | cons htext hothers =>
      have hother := ne_switch_of_chainOf hg hchain (by simp)
      cases hothers with
      | cons _ hothers =>
        rw [dropping_cons_of_ne hother, dropping_cons_of_ne (by simp)]
        exact .waiting hchain (without_foldlM (not_mem_chainOf hg htext hother hchain) hflags)
          (without_withValue hvalue) (ih hothers)

/-- Without the words of a switch the other arguments are as they were. -/
theorem parse_withoutSwitch (hg : g ∈ Flag.switches) {texts : List String}
    (h : parse texts = .ok a) : parse (withoutSwitch g texts) = .ok (a.without g) := by
  obtain ⟨words, hreads, haccepts, hinput⟩ := parse_eq_ok_iff.mp h
  refine parse_eq_ok_iff.mpr ⟨_, reads_withoutSwitch hreads, ?_, ?_⟩
  · have hinitial : Arguments.initial.without g = .initial := by cases g <;> rfl
    rw [← hinitial]
    exact accepts_dropping hg hreads haccepts
  · cases g <;> exact hinput

end Dropping

section Adding

open Arguments

variable {g : Flag} {a b c : Arguments}

theorem Arguments.Accepts.append {words more : List Word} (h : Accepts a words b)
    (hmore : Accepts b more c) : Accepts a (words ++ more) c := by
  induction h with
  | done => exact hmore
  | complete hchain hflags _ ih => exact .complete hchain hflags (ih hmore)
  | valued hchain hflags hvalue _ ih => exact .valued hchain hflags hvalue (ih hmore)
  | waiting hchain hflags hvalue _ ih => exact .waiting hchain hflags hvalue (ih hmore)

theorem Arguments.Reads.append {texts others : List String} {words more : List Word}
    (h : Reads texts words) (hmore : Reads others more) :
    Reads (texts ++ others) (words ++ more) := by
  induction h with
  | nil => exact hmore
  | cons hword _ ih => exact .cons hword ih

theorem input_withFlag (hg : g ∈ Flag.switches) (h : a.withFlag g = .ok b) :
    b.input = a.input := by
  cases g <;> first | (cases h; rfl) | exact absurd hg (by decide)

/-- A switch behind accepted words is turned on. -/
theorem parse_append_switch (hg : g ∈ Flag.switches) {texts : List String} {s : String}
    (hs : Word.ofText s = .ok (.flag g true none)) (h : parse texts = .ok a)
    (hset : a.withFlag g = .ok b) : parse (texts ++ [s]) = .ok b := by
  obtain ⟨words, hreads, haccepts, hinput⟩ := parse_eq_ok_iff.mp h
  have hflags : [g].foldlM withFlag a = .ok b := by
    rw [List.foldlM_cons, hset]
    rfl
  refine parse_eq_ok_iff.mpr ⟨_, hreads.append (.cons hs .nil), ?_, ?_⟩
  · exact haccepts.append (.complete (chainOf_switch hg) hflags (.done b))
  · rw [input_withFlag hg hset]
    exact hinput

end Adding

end RecordMapper.Command
