import RecordMapper.Proofs.Disk.Growth

/-!
# Replacing files

A text is written through a temporary file that nothing else can be mistaken for. On success the
place of the path holds the encoded text and the disk has otherwise only grown; on failure it has
only grown, so the temporary file is gone whatever went wrong.
-/
namespace RecordMapper.Disk

open RecordMapper.Text

theorem nodeAt_eq_none_iff {d : Disk} {name : String} {above : Location} :
    d.nodeAt (name :: above) = none ↔ ∀ e ∈ d.entries, e.1 ≠ name :: above := by
  simp only [nodeAt, List.lookup_eq_none_iff, bne_iff_ne]
  exact forall₂_congr fun e _ => ne_comm

/-- Taking away what was put in a free place leaves the disk that was there. -/
theorem erase_put_of_free {d : Disk} {name : String} {above : Location}
    (h : d.nodeAt (name :: above) = none) (entry : Entry) :
    (d.put (name :: above) entry).erase (name :: above) = d := by
  have hkept : (d.entries.filter fun e => e.1 ≠ name :: above) = d.entries :=
    List.filter_eq_self.mpr fun e he => decide_eq_true (nodeAt_eq_none_iff.mp h e he)
  simp only [erase, put, hkept]
  rw [List.filter_cons_of_neg (by simp), hkept]

theorem length_temporaryName (d : Disk) (path : Path) :
    (d.temporaryName path).length = path.name.length + d.namesLength + 6 := by
  simp only [temporaryName, String.length_append, String.length_ofList, List.length_replicate]
  show 1 + _ + 1 + _ + 4 = _
  omega

theorem length_le_namesLength {d : Disk} {e : Location × Entry} (he : e ∈ d.entries) :
    (e.1.headD "").length ≤ d.namesLength := by
  obtain ⟨entries, here⟩ := d
  simp only [namesLength] at he ⊢
  induction entries with
  | nil => cases he
  | cons first rest ih =>
    rw [List.map_cons, List.foldr_cons]
    rcases List.mem_cons.mp he with rfl | he
    · exact Nat.le_add_right _ _
    · have hrest := ih he
      omega

/-- No place on the disk has the name of a temporary file. -/
theorem nodeAt_temporaryName (d : Disk) (path : Path) (above : Location) :
    d.nodeAt (d.temporaryName path :: above) = none := by
  rw [nodeAt_eq_none_iff]
  intro e he heq
  have hle := length_le_namesLength he
  rw [heq, List.headD_cons, length_temporaryName] at hle
  omega

/-- Below a directory every name has a place. -/
theorem locate_below {d : Disk} {root : String} {parts : List String} (last : String)
    (h : d.isDirectory ⟨root, parts⟩ = true) :
    d.locate ⟨root, parts ++ [last]⟩ = .ok (step (d.placeOf ⟨root, parts⟩) last) := by
  obtain ⟨hl, hd⟩ := isDirectory_iff.mp h
  have hfollow : d.follow (d.start ⟨root, parts⟩) parts = .ok (d.placeOf ⟨root, parts⟩) := hl
  show d.follow (d.start ⟨root, parts⟩) (parts ++ [last]) = _
  rw [follow_append, hfollow]
  simp only [Except.bind, follow, hd]

theorem locate_of_parent {d : Disk} {path : Path} (h : d.isDirectory path.parent = true) :
    d.locate path = .ok (d.placeOf path) := by
  rcases List.eq_nil_or_concat path.parts with hnil | ⟨parts, last, hparts⟩
  · rw [locate, placeOf, hnil]
    rfl
  · obtain ⟨root, all⟩ := path
    rw [List.concat_eq_append] at hparts
    subst hparts
    rw [Path.parent, List.dropLast_concat] at h
    rw [locate_below last h]
    simp only [placeOf, start, List.foldl_append, List.foldl_cons, List.foldl_nil]

/-- A path that ends in a name means the place of that name in its directory. -/
theorem placeOf_of_endsInName {d : Disk} {path : Path} (h : endsInName path = true) :
    d.placeOf path = path.name :: d.placeOf path.parent := by
  obtain ⟨root, parts⟩ := path
  rcases List.eq_nil_or_concat parts with rfl | ⟨above, last, rfl⟩
  · cases h
  · simp only [endsInName, List.concat_eq_append, List.getLast?_append, List.getLast?_singleton,
      Option.some_or, decide_eq_true_eq] at h
    simp only [placeOf, start, Path.parent, Path.name, List.concat_eq_append, List.dropLast_concat,
      List.foldl_append, List.foldl_cons, List.foldl_nil, step, if_neg h, List.getLast?_append,
      List.getLast?_singleton, Option.some_or, Option.getD_some]

theorem placeOf_temporaryPath (d : Disk) (path : Path) :
    d.placeOf (d.temporaryPath path) = d.temporaryName path :: d.placeOf path.parent := by
  have hne : d.temporaryName path ≠ ".." := by
    intro h
    have hlength := length_temporaryName d path
    rw [h, show "..".length = 2 from rfl] at hlength
    omega
  simp only [placeOf, start, temporaryPath, Path.parent, List.foldl_append, List.foldl_cons,
    List.foldl_nil, step, if_neg hne]
  rfl

/-- A free place can be filled without taking a directory away. -/
theorem keepsDirectories_put {d : Disk} {location : Location}
    (h : d.nodeAt location ≠ some .directory) (entry : Entry) :
    KeepsDirectories d (d.put location entry) := by
  intro other hd
  have hne : other ≠ location := by
    intro he
    exact h (he ▸ hd)
  rw [nodeAt_put_of_ne hne]
  exact hd

/-- The temporary file is not seen from outside: either the path now holds the content and nothing
else is different, or the disk is the one that was there. -/
theorem on_replaceFile {d : Disk} {path : Path} (h : d.isDirectory path.parent = true)
    (content : List UInt8) :
    Action.on d (replaceFile path content) =
      if endsInName path = false then (.error (.pathBusy path.toString), d)
      else if d.nodeAt (d.placeOf path) = some .directory then
        (.error (.isDirectory path.toString), d)
      else (.ok (), d.put (d.placeOf path) (.file content)) := by
  have hfree := nodeAt_temporaryName d path (d.placeOf path.parent)
  have hsource : d.locate (d.temporaryPath path) =
      .ok (d.temporaryName path :: d.placeOf path.parent) := by
    rw [← placeOf_temporaryPath]
    exact locate_of_parent
      (by simpa only [temporaryPath, Path.parent, List.dropLast_concat] using h)
  generalize hs : d.temporaryName path :: d.placeOf path.parent = source at hsource
  have hkeeps : KeepsDirectories d (d.put source (.file content)) :=
    keepsDirectories_put (by rw [← hs, hfree]; simp) _
  have hpath : (d.put source (.file content)).locate path = .ok (d.placeOf path) :=
    locate_of_keeps hkeeps rfl (locate_of_parent h)
  have herase : (d.put source (.file content)).erase source = d := by
    rw [← hs]
    exact erase_put_of_free hfree _
  have hself : (d.put source (.file content)).nodeAt source = some (.file content) := by
    rw [← hs]
    exact nodeAt_put_self d _ _ _
  simp only [replaceFile, Action.on_bind, Action.on_get, hsource, Action.on_set, Action.on_tryCatch,
    move, hpath]
  cases hname : endsInName path with
  | false => simp [herase]
  | true =>
    -- The temporary name is longer than that of the path, so the path has a place of its own.
    have hne : d.placeOf path ≠ source := by
      rw [placeOf_of_endsInName hname, ← hs]
      intro he
      have hlength := congrArg String.length (List.cons.inj he).1
      rw [length_temporaryName] at hlength
      omega
    rw [nodeAt_put_of_ne hne]
    by_cases hdir : d.nodeAt (d.placeOf path) = some .directory
    · simp [herase, hdir]
    · simp [hself, herase, hdir]

/-- The disk `e` is `d` with missing directories above the path made and the content stored at the
path, where no directory was. -/
structure Stored (path : Path) (content : List UInt8) (d e : Disk) : Prop where
  endsInName : endsInName path = true
  exists_grown : ∃ base, Grown (d.OnWay path.parent) d base ∧
    base.isDirectory path.parent = true ∧ base.nodeAt (d.placeOf path) ≠ some .directory ∧
    e = base.put (d.placeOf path) (.file content)

namespace Stored

variable {path : Path} {content : List UInt8} {d e : Disk}

theorem keeps (h : Stored path content d e) : Keeps d e := by
  obtain ⟨base, hgrown, -, hnot, rfl⟩ := h.exists_grown
  refine hgrown.keeps.trans ⟨rfl, rfl, keepsDirectories_put hnot _, fun location hne => ?_⟩
  by_cases hplace : location = d.placeOf path
  · rw [hplace, placeOf_of_endsInName h.endsInName, nodeAt_put_self]
    exact Option.some_ne_none _
  · rw [nodeAt_put_of_ne hplace]
    exact hne

theorem nodeAt_place (h : Stored path content d e) :
    e.nodeAt (d.placeOf path) = some (.file content) := by
  obtain ⟨base, -, -, -, rfl⟩ := h.exists_grown
  rw [placeOf_of_endsInName h.endsInName]
  exact nodeAt_put_self base _ _ _

theorem fileAt_of_ne (h : Stored path content d e) {location : Location}
    (hne : location ≠ d.placeOf path) : e.fileAt location = d.fileAt location := by
  obtain ⟨base, hgrown, -, -, rfl⟩ := h.exists_grown
  rw [fileAt_congr (nodeAt_put_of_ne hne base _)]
  exact hgrown.fileAt_eq location

theorem fileAt_place (h : Stored path content d e) : e.fileAt (d.placeOf path) = some content :=
  fileAt_eq_some_iff.mpr h.nodeAt_place

/-- The path leads to what was stored. -/
theorem content?_eq (h : Stored path content d e) : e.content? path = some content := by
  rw [content?_eq_some_iff, h.keeps.placeOf_eq]
  refine ⟨?_, h.fileAt_place⟩
  obtain ⟨base, hgrown, hparent, hnot, rfl⟩ := h.exists_grown
  rw [← placeOf_congr hgrown.here_eq]
  exact locate_of_keeps (keepsDirectories_put (by rwa [placeOf_congr hgrown.here_eq]) _) rfl
    (locate_of_parent hparent)

theorem has (h : Stored path content d e) : e.has path = true := by
  obtain ⟨hlocate, hfile⟩ := content?_eq_some_iff.mp h.content?_eq
  rw [Disk.has, find?_eq_some_iff.mpr ⟨hlocate, fileAt_eq_some_iff.mp hfile⟩]
  rfl

end Stored

/-- The two ways in which writing a text can end. -/
inductive Written (encoding : String) (path : Path) (text : String) (d : Disk) :
    Except Failure Nat × Disk → Prop
  | failed {failure : Failure} {e : Disk} (grown : Grown (d.OnWay path.parent) d e) :
      Written encoding path text d (.error failure, e)
  | stored {content : List UInt8} {e : Disk}
      (encoded : Encoding.encodeNamed d.codePages encoding text = .ok content)
      (stored : Stored path content d e) : Written encoding path text d (.ok content.length, e)

/-- Directories first, then the encoding, then the file: whichever of them fails, no file is
different. -/
theorem written_writeText (encoding : String) (path : Path) (text : String) (d : Disk) :
    Written encoding path text d (Action.on d (writeText encoding path text)) := by
  have hensures := ensures_ensureDirectory path.parent d
  simp only [writeText, Action.on_bind]
  generalize Action.on d (ensureDirectory path.parent) = out at hensures ⊢
  rcases out with ⟨_ | ⟨⟩, e⟩
  · exact .failed hensures.grown
  · have hgrown : Grown (d.OnWay path.parent) d e := hensures.grown
    have hparent : e.isDirectory path.parent = true := hensures.isDirectory rfl
    simp only [Action.on_get, Action.on_liftM, hgrown.codePages_eq]
    cases hcode : Encoding.encodeNamed d.codePages encoding text with
    | error failure => exact .failed hgrown
    | ok content =>
      simp only
      split
      · exact .failed hgrown
      · simp only [Action.on_pure, Action.on_bind, on_replaceFile hparent]
        by_cases hname : endsInName path = false
        · rw [if_pos hname]
          exact .failed hgrown
        · rw [if_neg hname]
          by_cases hdir : e.nodeAt (e.placeOf path) = some .directory
          · rw [if_pos hdir]
            exact .failed hgrown
          · rw [if_neg hdir]
            rw [placeOf_congr hgrown.here_eq] at hdir ⊢
            have hstored : Stored path content d (e.put (d.placeOf path) (.file content)) :=
              ⟨by simpa using hname, e, hgrown, hparent, hdir, rfl⟩
            exact .stored hcode hstored

end RecordMapper.Disk
