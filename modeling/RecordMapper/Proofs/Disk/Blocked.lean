import RecordMapper.Proofs.Disk.Hidden
import RecordMapper.Proofs.Disk.Replacement

/-!
# Lasting failures

A directory that cannot be made on a file system has a file in its way. Files stay files, so the
attempt fails at any later time, and then without making anything. A text that could not be written
meets the same end later, unless something is found at its path by then.
-/
namespace RecordMapper.Disk

open RecordMapper.Text

/-- Everything is in a directory, and relative paths start in one. -/
structure IsFileSystem (d : Disk) : Prop where
  isTree : d.IsTree
  here : d.nodeAt d.here = some .directory

/-- Nothing is taken away, and no file turns into a directory. -/
structure Persists (d e : Disk) : Prop where
  keeps : Keeps d e
  fileAt : ∀ location content, d.fileAt location = some content →
    ∃ later, e.fileAt location = some later

/-- There is a file at the path or at a place on the way to it. -/
def Blocked (d : Disk) (path : Path) : Prop :=
  ∃ parts content, parts <+: path.parts ∧ d.find? ⟨path.root, parts⟩ = some (.file content)

namespace Persists

variable {d e f : Disk}

theorem refl (d : Disk) : Persists d d := ⟨.refl d, fun _ content h => ⟨content, h⟩⟩

theorem trans (hde : Persists d e) (hef : Persists e f) : Persists d f := by
  refine ⟨hde.keeps.trans hef.keeps, fun location content h => ?_⟩
  obtain ⟨later, hlater⟩ := hde.fileAt location content h
  exact hef.fileAt location later hlater

end Persists

theorem Grown.persists {fresh : Location → Prop} {d e : Disk} (h : Grown fresh d e) :
    Persists d e :=
  ⟨h.keeps, fun location content hfile => ⟨content, (h.fileAt_eq location).trans hfile⟩⟩

theorem Stored.persists {path : Path} {content : List UInt8} {d e : Disk}
    (h : Stored path content d e) : Persists d e := by
  refine ⟨h.keeps, fun location old hold => ?_⟩
  by_cases hplace : location = d.placeOf path
  · rw [hplace]
    exact ⟨content, h.fileAt_place⟩
  · exact ⟨old, (h.fileAt_of_ne hplace).trans hold⟩

theorem persists_writeText (encoding : String) (path : Path) (text : String) (d : Disk) :
    Persists d (Action.on d (writeText encoding path text)).2 := by
  have hwritten := written_writeText encoding path text d
  generalize Action.on d (writeText encoding path text) = out at hwritten ⊢
  cases hwritten with
  | failed grown => exact grown.persists
  | stored _ stored => exact stored.persists

section FileSystems

variable {d : Disk}

theorem IsTree.put (h : d.IsTree) {name : String} {above : Location}
    (habove : d.nodeAt above = some .directory)
    (hnot : d.nodeAt (name :: above) ≠ some .directory) (entry : Entry) :
    (d.put (name :: above) entry).IsTree := by
  intro e he
  have hparent : d.nodeAt e.1.tail = some .directory := by
    rcases List.mem_cons.mp he with rfl | he
    · exact habove
    · exact h e (List.mem_filter.mp he).1
  exact keepsDirectories_put hnot entry _ hparent

theorem IsFileSystem.put (h : d.IsFileSystem) {name : String} {above : Location}
    (habove : d.nodeAt above = some .directory)
    (hnot : d.nodeAt (name :: above) ≠ some .directory) (entry : Entry) :
    (d.put (name :: above) entry).IsFileSystem :=
  ⟨h.isTree.put habove hnot entry, keepsDirectories_put hnot entry _ h.here⟩

/-- Above a directory there is a directory, and above the root the root. -/
theorem IsTree.nodeAt_tail (h : d.IsTree) {location : Location}
    (hdirectory : d.nodeAt location = some .directory) :
    d.nodeAt location.tail = some .directory := by
  cases location with
  | nil => rfl
  | cons name above =>
    have htaken : d.nodeAt (name :: above) ≠ none := by
      rw [hdirectory]
      exact Option.some_ne_none _
    exact nodeAt_above_of_isTree h htaken

theorem IsFileSystem.isDirectory_start (h : d.IsFileSystem) (root : String) :
    d.isDirectory ⟨root, []⟩ = true := by
  refine isDirectory_iff.mpr ⟨rfl, ?_⟩
  show d.nodeAt (d.start ⟨root, []⟩) = some .directory
  unfold start
  split
  · exact h.here
  · rfl

/-- A path leads on only from a directory. -/
theorem isDirectory_of_locate {root : String} {parts : List String} {last : String}
    {location : Location} (h : d.locate ⟨root, parts ++ [last]⟩ = .ok location) :
    d.isDirectory ⟨root, parts⟩ = true := by
  have hfollow : d.follow (d.start ⟨root, parts⟩) (parts ++ [last]) = .ok location := h
  rw [follow_append] at hfollow
  cases hfirst : d.follow (d.start ⟨root, parts⟩) parts with
  | error obstacle =>
    rw [hfirst] at hfollow
    cases hfollow
  | ok first =>
    have hlocate : d.locate ⟨root, parts⟩ = .ok first := hfirst
    rw [hfirst] at hfollow
    simp only [Except.bind, follow] at hfollow
    rw [isDirectory_iff, ← locate_eq_placeOf hlocate]
    refine ⟨hlocate, ?_⟩
    split at hfollow
    · cases hfollow
    · cases hfollow
    · assumption

/-- A new directory on a file system is in a directory. -/
theorem IsFileSystem.makeDirectory (hd : d.IsFileSystem) {e : Disk} {root : String}
    {parts : List String} {last : String} (h : d.makeDirectory ⟨root, parts ++ [last]⟩ = .ok e) :
    e.IsFileSystem := by
  unfold Disk.makeDirectory at h
  split at h
  · cases h
  · rename_i location hlocate
    split at h
    · rename_i hfree
      cases h
      simp only [Bool.and_eq_true, Option.isNone_iff_eq_none] at hfree
      have hplace := placeOf_of_endsInName (d := d) hfree.1
      rw [Path.parent, List.dropLast_concat] at hplace
      rw [locate_eq_placeOf hlocate, hplace] at hfree ⊢
      have habove := (isDirectory_iff.mp (isDirectory_of_locate hlocate)).2
      exact hd.put habove (by rw [hfree.2]; simp) .directory
    · cases h

end FileSystems

section Blocks

variable {d : Disk}

theorem Blocked.of_prefix {root : String} {parts longer : List String} (hp : parts <+: longer)
    (h : d.Blocked ⟨root, parts⟩) : d.Blocked ⟨root, longer⟩ := by
  obtain ⟨first, content, hfirst, hfile⟩ := h
  exact ⟨first, content, hfirst.trans hp, hfile⟩

theorem Blocked.persists {path : Path} (h : d.Blocked path) {e : Disk} (hlater : Persists d e) :
    e.Blocked path := by
  obtain ⟨parts, content, hparts, hfile⟩ := h
  obtain ⟨hlocate, hnode⟩ := find?_eq_some_iff.mp hfile
  obtain ⟨later, hnow⟩ := hlater.fileAt _ content (fileAt_eq_some_iff.mpr hnode)
  refine ⟨parts, later, hparts, find?_eq_some_iff.mpr ?_⟩
  rw [hlater.keeps.placeOf_eq]
  exact ⟨locate_of_keeps hlater.keeps.keepsDirectories hlater.keeps.here_eq hlocate,
    fileAt_eq_some_iff.mp hnow⟩

/-- Nothing is found below a file. -/
theorem locate_below_file {root : String} {parts : List String} {content : List UInt8}
    (h : d.find? ⟨root, parts⟩ = some (.file content)) (part : String) (rest : List String) :
    d.locate ⟨root, parts ++ part :: rest⟩ = .error .notDirectory := by
  obtain ⟨hlocate, hnode⟩ := find?_eq_some_iff.mp h
  have hfollow : d.follow (d.start ⟨root, parts⟩) parts = .ok (d.placeOf ⟨root, parts⟩) := hlocate
  show d.follow (d.start ⟨root, parts⟩) (parts ++ part :: rest) = _
  rw [follow_append, hfollow]
  simp only [Except.bind, follow, hnode]

/-- What is blocked is no directory and cannot be made one. -/
theorem Blocked.refused {path : Path} (h : d.Blocked path) :
    d.isDirectory path = false ∧
      ∃ obstacle, obstacle ≠ .missing ∧ d.makeDirectory path = .error obstacle := by
  obtain ⟨root, all⟩ := path
  obtain ⟨parts, content, ⟨rest, hrest⟩, hfile⟩ := h
  simp only at hrest hfile
  subst hrest
  cases rest with
  | nil =>
    rw [List.append_nil]
    obtain ⟨hlocate, hnode⟩ := find?_eq_some_iff.mp hfile
    refine ⟨by simp [isDirectory, hfile], .alreadyExists, by decide, ?_⟩
    simp [makeDirectory, hlocate, hnode]
  | cons part rest =>
    have hlocate := locate_below_file hfile part rest
    refine ⟨by simp [isDirectory, find?, hlocate], .notDirectory, by decide, ?_⟩
    simp [makeDirectory, hlocate]

/-- A path that leads nowhere ends at a missing place or at a file. -/
theorem follow_eq_error {location : Location} {parts : List String} {obstacle : Obstacle}
    (h : d.follow location parts = .error obstacle) :
    obstacle = .missing ∨ ∃ first content, first <+: parts ∧
      d.follow location first = .ok (first.foldl step location) ∧
      d.nodeAt (first.foldl step location) = some (.file content) := by
  fun_induction follow d location parts with
  | case1 => cases h
  | case2 location part rest hnone =>
    cases h
    exact .inl rfl
  | case3 location part rest content hfile =>
    exact .inr ⟨[], content, List.nil_prefix, rfl, hfile⟩
  | case4 location part rest hdirectory ih =>
    rcases ih h with hmissing | ⟨first, content, hfirst, hfollow, hfile⟩
    · exact .inl hmissing
    · refine .inr ⟨part :: first, content, List.cons_prefix_cons.mpr ⟨rfl, hfirst⟩, ?_, hfile⟩
      rw [follow, hdirectory]
      exact hfollow

/-- On a file system a directory that cannot be made, although nothing above it is missing, has a
file in its way. -/
theorem IsFileSystem.blocked (hd : d.IsFileSystem) {root : String} {parts : List String}
    {last : String} {obstacle : Obstacle}
    (h : d.makeDirectory ⟨root, parts ++ [last]⟩ = .error obstacle) (hmissing : obstacle ≠ .missing)
    (hnot : d.isDirectory ⟨root, parts ++ [last]⟩ = false) :
    d.Blocked ⟨root, parts ++ [last]⟩ := by
  unfold Disk.makeDirectory at h
  split at h
  · rename_i found hlocate
    cases h
    rcases follow_eq_error hlocate with rfl | ⟨first, content, hfirst, hfollow, hfile⟩
    · exact absurd rfl hmissing
    · exact ⟨first, content, hfirst, find?_eq_some_iff.mpr ⟨hfollow, hfile⟩⟩
  · rename_i location hlocate
    have hplace := locate_eq_placeOf hlocate
    have hfind : d.find? ⟨root, parts ++ [last]⟩ = d.nodeAt location := by
      simp only [find?, hlocate]
    have hdirectory : d.nodeAt location ≠ some .directory := by
      intro hnode
      rw [isDirectory, hfind, hnode] at hnot
      simp at hnot
    cases hnode : d.nodeAt location with
    | some entry =>
      cases entry with
      | directory => exact absurd hnode hdirectory
      | file content => exact ⟨_, content, List.prefix_refl _, hfind.trans hnode⟩
    | none =>
      -- Only double dots end in no name, and above a directory there is one.
      exfalso
      have hdots : last = ".." := by
        refine Decidable.byContradiction fun hname => ?_
        simp [hnode, endsInName, hname] at h
      have habove := (isDirectory_iff.mp (isDirectory_of_locate hlocate)).2
      have htail : location = (d.placeOf ⟨root, parts⟩).tail := by
        rw [hplace, hdots]
        simp [placeOf, start, List.foldl_append, step]
      exact hdirectory (htail ▸ hd.isTree.nodeAt_tail habove)

end Blocks

section Directories

variable {d : Disk}

theorem on_acceptExisting (d : Disk) (path : Path) (obstacle : Obstacle) :
    Action.on d (acceptExisting path obstacle) =
      (if d.isDirectory path then .ok () else .error (obstacle.failure path), d) := by
  cases hd : d.isDirectory path <;> simp [acceptExisting, Action.on_bind, hd]

/-- What trying to make a directory leaves on a file system: a file system again, and after a
failure one with a file in the way. -/
structure Attempted (path : Path) (out : Except Failure Unit × Disk) : Prop where
  isFileSystem : out.2.IsFileSystem
  blocked : ∀ failure, out.1 = .error failure → out.2.Blocked path

theorem attempted_acceptExisting (hd : d.IsFileSystem) {root : String} {parts : List String}
    {last : String} {obstacle : Obstacle}
    (h : d.makeDirectory ⟨root, parts ++ [last]⟩ = .error obstacle)
    (hmissing : obstacle ≠ .missing) :
    Attempted ⟨root, parts ++ [last]⟩
      (Action.on d (acceptExisting ⟨root, parts ++ [last]⟩ obstacle)) := by
  rw [on_acceptExisting]
  refine ⟨hd, fun failure hfailure => hd.blocked h hmissing ?_⟩
  cases hnot : d.isDirectory ⟨root, parts ++ [last]⟩ with
  | true => simp [hnot] at hfailure
  | false => rfl

theorem attempted_ensureParts (hd : d.IsFileSystem) (root : String) (parts : List String) :
    Attempted ⟨root, parts.reverse⟩ (Action.on d (ensureParts root parts)) := by
  -- The induction goes up the path, as the making of directories does.
  induction parts generalizing d with
  | nil =>
    rw [ensureParts, on_acceptExisting, hd.isDirectory_start]
    exact ⟨hd, fun _ h => by cases h⟩
  | cons part above ih =>
    rw [List.reverse_cons]
    simp only [ensureParts, List.reverse_cons, Action.on_bind, Action.on_get]
    cases hmake : d.makeDirectory ⟨root, above.reverse ++ [part]⟩ with
    | ok e => exact ⟨hd.makeDirectory hmake, fun _ h => by cases h⟩
    | error obstacle =>
      cases obstacle with
      | notDirectory => exact attempted_acceptExisting hd hmake (by decide)
      | alreadyExists => exact attempted_acceptExisting hd hmake (by decide)
      | missing =>
        have habove := ih hd
        have hensures := ensures_ensureParts root above d
        simp only [Action.on_bind]
        generalize Action.on d (ensureParts root above) = out at habove hensures ⊢
        obtain ⟨result, e⟩ := out
        cases result with
        | error failure =>
          refine ⟨habove.isFileSystem, fun _ _ => ?_⟩
          exact Blocked.of_prefix (List.prefix_append _ _) (habove.blocked failure rfl)
        | ok done =>
          have he : e.IsFileSystem := habove.isFileSystem
          have hdirectory : e.isDirectory ⟨root, above.reverse⟩ = true := hensures.isDirectory rfl
          simp only [Action.on_get]
          cases hagain : e.makeDirectory ⟨root, above.reverse ++ [part]⟩ with
          | ok f => exact ⟨he.makeDirectory hagain, fun _ h => by cases h⟩
          | error obstacle =>
            refine attempted_acceptExisting he hagain ?_
            rintro rfl
            rw [makeDirectory, locate_below part hdirectory] at hagain
            simp only at hagain
            split at hagain <;> cases hagain

theorem on_ensureParts_of_blocked {root : String} {parts : List String}
    (h : d.Blocked ⟨root, parts.reverse⟩) :
    ∃ failure, Action.on d (ensureParts root parts) = (.error failure, d) := by
  obtain ⟨hnot, obstacle, hmissing, hmake⟩ := h.refused
  have hrefused (obstacle : Obstacle) :
      Action.on d (acceptExisting ⟨root, parts.reverse⟩ obstacle) =
        (.error (obstacle.failure ⟨root, parts.reverse⟩), d) := by
    rw [on_acceptExisting, hnot]
    rfl
  cases parts with
  | nil => exact ⟨_, hrefused .alreadyExists⟩
  | cons part above =>
    simp only [ensureParts, Action.on_bind, Action.on_get, hmake]
    cases obstacle with
    | missing => exact absurd rfl hmissing
    | notDirectory => exact ⟨_, hrefused .notDirectory⟩
    | alreadyExists => exact ⟨_, hrefused .alreadyExists⟩

/-- Nothing is done for a directory that is there. -/
theorem on_ensureParts_of_isDirectory {root : String} {parts : List String}
    (h : d.isDirectory ⟨root, parts.reverse⟩ = true) :
    Action.on d (ensureParts root parts) = (.ok (), d) := by
  have haccepted (obstacle : Obstacle) :
      Action.on d (acceptExisting ⟨root, parts.reverse⟩ obstacle) = (.ok (), d) := by
    rw [on_acceptExisting, h]
    rfl
  cases parts with
  | nil => exact haccepted .alreadyExists
  | cons part above =>
    obtain ⟨hlocate, hnode⟩ := isDirectory_iff.mp h
    have hmake : d.makeDirectory ⟨root, (part :: above).reverse⟩ = .error .alreadyExists := by
      simp only [makeDirectory, hlocate, hnode, Option.isNone_some, Bool.and_false,
        Bool.false_eq_true, if_false]
    simp only [ensureParts, Action.on_bind, Action.on_get, hmake]
    exact haccepted .alreadyExists

/-- Which names keep a directory from being made at all. -/
theorem on_ensureDirectory_of_nul {path : Path} (h : path.parts.any hasNul = true) (d : Disk) :
    Action.on d (ensureDirectory path) = (.error .nulInPath, d) := by
  rw [ensureDirectory, if_pos h]
  rfl

theorem on_ensureDirectory_of_noNul {path : Path} (h : path.parts.any hasNul = false) (d : Disk) :
    Action.on d (ensureDirectory path) =
      Action.on d (ensureParts path.root path.parts.reverse) := by
  rw [ensureDirectory, if_neg (by simp [h])]

theorem isFileSystem_ensureDirectory (hd : d.IsFileSystem) (path : Path) :
    (Action.on d (ensureDirectory path)).2.IsFileSystem := by
  cases hnul : path.parts.any hasNul with
  | true =>
    rw [on_ensureDirectory_of_nul hnul]
    exact hd
  | false =>
    rw [on_ensureDirectory_of_noNul hnul]
    exact (attempted_ensureParts hd path.root path.parts.reverse).isFileSystem

theorem on_ensureDirectory_of_isDirectory {path : Path} (hnul : path.parts.any hasNul = false)
    (h : d.isDirectory path = true) : Action.on d (ensureDirectory path) = (.ok (), d) := by
  rw [on_ensureDirectory_of_noNul hnul]
  exact on_ensureParts_of_isDirectory (by rwa [List.reverse_reverse])

/-- A directory that could not be made cannot be made later, and trying makes nothing more. -/
theorem on_ensureDirectory_of_failed (hd : d.IsFileSystem) {path : Path} {failure : Failure}
    {e later : Disk} (h : Action.on d (ensureDirectory path) = (.error failure, e))
    (hlater : Persists e later) :
    ∃ failure, Action.on later (ensureDirectory path) = (.error failure, later) := by
  cases hnul : path.parts.any hasNul with
  | true => exact ⟨_, on_ensureDirectory_of_nul hnul later⟩
  | false =>
    rw [on_ensureDirectory_of_noNul hnul] at h ⊢
    have hattempted := attempted_ensureParts hd path.root path.parts.reverse
    rw [h, List.reverse_reverse] at hattempted
    refine on_ensureParts_of_blocked ?_
    rw [List.reverse_reverse]
    exact (hattempted.blocked failure rfl).persists hlater

end Directories

section Texts

/-- The bytes of a text that can be put to a path in a directory that is there. -/
def storable (d : Disk) (encoding : String) (path : Path) (text : String) :
    Except Failure (List UInt8) :=
  match Encoding.encodeNamed d.codePages encoding text with
  | .error failure => .error failure
  | .ok content =>
    if hasNul path.name then .error .nulInPath
    else if endsInName path = false then .error (.pathBusy path.toString)
    else if d.nodeAt (d.placeOf path) = some .directory then
      .error (.isDirectory path.toString)
    else .ok content

variable {d : Disk} {encoding : String} {path : Path} {text : String}

theorem storable_eq_ok {content : List UInt8} (h : d.storable encoding path text = .ok content) :
    endsInName path = true ∧ d.nodeAt (d.placeOf path) ≠ some .directory := by
  unfold storable at h
  split at h
  · cases h
  · split at h
    · cases h
    · split at h
      · cases h
      · rename_i hname
        split at h
        · cases h
        · exact ⟨by simpa using hname, ‹_›⟩

/-- What cannot be stored on a disk cannot be stored on one with the same code pages, unless it was
a directory that stood at its place. -/
theorem storable_of_error {failure : Failure} (h : d.storable encoding path text = .error failure)
    {e : Disk} (hpages : e.codePages = d.codePages) : d.nodeAt (d.placeOf path) = some .directory ∨
      ∃ failure, e.storable encoding path text = .error failure := by
  unfold storable at h ⊢
  rw [hpages]
  cases hcode : Encoding.encodeNamed d.codePages encoding text with
  | error cause => exact .inr ⟨cause, rfl⟩
  | ok content =>
    rw [hcode] at h
    simp only at h ⊢
    by_cases hnul : hasNul path.name = true
    · exact .inr ⟨_, if_pos hnul⟩
    · rw [if_neg hnul] at h ⊢
      by_cases hname : endsInName path = false
      · exact .inr ⟨_, if_pos hname⟩
      · rw [if_neg hname] at h ⊢
        split at h
        · exact .inl ‹_›
        · cases h

/-- Writing below a directory that is there. -/
theorem on_writeText_of_isDirectory (hnul : path.parent.parts.any hasNul = false)
    (hparent : d.isDirectory path.parent = true) :
    Action.on d (writeText encoding path text) =
      match d.storable encoding path text with
      | .error failure => (.error failure, d)
      | .ok content => (.ok content.length, d.put (d.placeOf path) (.file content)) := by
  rw [writeText, Action.on_bind_of_ok (on_ensureDirectory_of_isDirectory hnul hparent)]
  simp only [Action.on_bind, Action.on_get, Action.on_liftM, storable]
  cases Encoding.encodeNamed d.codePages encoding text with
  | error failure => rfl
  | ok content =>
    simp only
    by_cases hname : hasNul path.name = true
    · simp only [hname, if_true]
      rfl
    · simp only [hname, if_false, Action.on_pure, Action.on_bind, on_replaceFile hparent,
        Bool.false_eq_true]
      by_cases hends : endsInName path = false
      · rw [if_pos hends, if_pos hends]
      · rw [if_neg hends, if_neg hends]
        by_cases hdirectory : d.nodeAt (d.placeOf path) = some .directory
        · rw [if_pos hdirectory, if_pos hdirectory]
        · rw [if_neg hdirectory, if_neg hdirectory]

/-- Once its directory is made, a text is written as if it had been there before. -/
theorem on_writeText_of_ensured (encoding text : String) {e : Disk}
    (h : Action.on d (ensureDirectory path.parent) = (.ok (), e)) :
    path.parent.parts.any hasNul = false ∧ e.isDirectory path.parent = true ∧
      Action.on d (writeText encoding path text) = Action.on e (writeText encoding path text) := by
  have hnul : path.parent.parts.any hasNul = false := by
    cases hcase : path.parent.parts.any hasNul with
    | false => rfl
    | true =>
      rw [on_ensureDirectory_of_nul hcase] at h
      cases h
  have hparent : e.isDirectory path.parent = true := by
    have hensures := ensures_ensureDirectory path.parent d
    rw [h] at hensures
    exact hensures.isDirectory rfl
  refine ⟨hnul, hparent, ?_⟩
  rw [writeText, Action.on_bind_of_ok h,
    Action.on_bind_of_ok (on_ensureDirectory_of_isDirectory hnul hparent)]

theorem isFileSystem_writeText (hd : d.IsFileSystem) (encoding : String) (path : Path)
    (text : String) : (Action.on d (writeText encoding path text)).2.IsFileSystem := by
  have he := isFileSystem_ensureDirectory hd path.parent
  rcases hensure : Action.on d (ensureDirectory path.parent) with ⟨failure | ⟨⟩, e⟩
  · rw [hensure] at he
    rw [writeText, Action.on_bind_of_error hensure]
    exact he
  · rw [hensure] at he
    obtain ⟨hnul, hparent, hon⟩ := on_writeText_of_ensured encoding text hensure
    rw [hon, on_writeText_of_isDirectory hnul hparent]
    cases hstorable : e.storable encoding path text with
    | error failure => exact he
    | ok content =>
      obtain ⟨hname, hnot⟩ := storable_eq_ok hstorable
      rw [placeOf_of_endsInName hname] at hnot
      simp only [placeOf_of_endsInName (d := e) hname]
      exact IsFileSystem.put he (isDirectory_iff.mp hparent).2 hnot _

theorem isDirectory_of_keeps {e : Disk} (hkeeps : Keeps d e) (h : d.isDirectory path = true) :
    e.isDirectory path = true := by
  obtain ⟨hlocate, hnode⟩ := isDirectory_iff.mp h
  rw [isDirectory_iff, hkeeps.placeOf_eq]
  exact ⟨locate_of_keeps hkeeps.keepsDirectories hkeeps.here_eq hlocate,
    hkeeps.keepsDirectories _ hnode⟩

/-- A text that could not be written cannot be written later, and trying changes nothing more; or
something is found at its path by then. -/
theorem on_writeText_of_failed (hd : d.IsFileSystem) {failure : Failure} {e later : Disk}
    (h : Action.on d (writeText encoding path text) = (.error failure, e))
    (hlater : Persists e later) :
    later.has path = true ∨
      ∃ failure, Action.on later (writeText encoding path text) = (.error failure, later) := by
  rcases hensure : Action.on d (ensureDirectory path.parent) with ⟨cause | ⟨⟩, made⟩
  · rw [writeText, Action.on_bind_of_error hensure] at h
    cases h
    obtain ⟨again, hagain⟩ := on_ensureDirectory_of_failed hd hensure hlater
    exact .inr ⟨again, Action.on_bind_of_error hagain _⟩
  · obtain ⟨hnul, hparent, hon⟩ := on_writeText_of_ensured encoding text hensure
    rw [hon, on_writeText_of_isDirectory hnul hparent] at h
    cases hstorable : made.storable encoding path text with
    | ok content =>
      rw [hstorable] at h
      cases h
    | error cause =>
      rw [hstorable] at h
      cases h
      have hdirectory := isDirectory_of_keeps hlater.keeps hparent
      rcases storable_of_error hstorable hlater.keeps.codePages_eq with hnode | ⟨again, hagain⟩
      · have hfind : later.find? path = some .directory :=
          find?_eq_some_iff.mpr ⟨locate_of_parent hdirectory, by
            rw [hlater.keeps.placeOf_eq]
            exact hlater.keeps.keepsDirectories _ hnode⟩
        exact .inl (by rw [has, hfind]; rfl)
      · refine .inr ⟨again, ?_⟩
        rw [on_writeText_of_isDirectory hnul hdirectory, hagain]

end Texts

end RecordMapper.Disk
