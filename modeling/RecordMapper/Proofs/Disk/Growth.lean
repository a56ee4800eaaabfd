import RecordMapper.Disk.File

/-!
# Growing disks

Making directories only adds to a disk: every entry stays, and what is new are directories at free
places on the way to the path. This holds for a failed attempt as well, and a successful one leaves
a directory at the place that the path means.
-/
namespace RecordMapper.Disk

/-- The content of the file at a place. -/
def fileAt (d : Disk) (location : Location) : Option (List UInt8) :=
  match d.nodeAt location with
  | some (.file content) => some content
  | _ => none

theorem fileAt_eq_some_iff {d : Disk} {location : Location} {content : List UInt8} :
    d.fileAt location = some content ↔ d.nodeAt location = some (.file content) := by
  unfold fileAt
  split <;> simp_all

theorem fileAt_congr {d e : Disk} {location : Location}
    (h : e.nodeAt location = d.nodeAt location) :
    e.fileAt location = d.fileAt location := by
  simp only [fileAt, h]

/-- Following parts, if it succeeds, goes where the parts lead as written. -/
theorem follow_eq_foldl {d : Disk} {location last : Location} {parts : List String}
    (h : d.follow location parts = .ok last) : last = parts.foldl step location := by
  fun_induction follow d location parts with
  | case1 => cases h; rfl
  | case2 => cases h
  | case3 => cases h
  | case4 location part rest hd ih => exact ih h

theorem locate_eq_placeOf {d : Disk} {path : Path} {location : Location}
    (h : d.locate path = .ok location) : location = d.placeOf path :=
  follow_eq_foldl h

theorem start_congr {d e : Disk} (h : e.here = d.here) (path : Path) :
    e.start path = d.start path := by
  simp only [start, h]

theorem placeOf_congr {d e : Disk} (h : e.here = d.here) (path : Path) :
    e.placeOf path = d.placeOf path := by
  simp only [placeOf, start_congr h]

/-- Directories stay directories. -/
def KeepsDirectories (d e : Disk) : Prop :=
  ∀ location, d.nodeAt location = some .directory → e.nodeAt location = some .directory

theorem follow_of_keeps {d e : Disk} (hk : KeepsDirectories d e) {location last : Location}
    {parts : List String} (h : d.follow location parts = .ok last) :
    e.follow location parts = .ok last := by
  fun_induction follow d location parts with
  | case1 => exact h
  | case2 => cases h
  | case3 => cases h
  | case4 location part rest hd ih =>
    rw [follow, hk location hd]
    exact ih h

theorem locate_of_keeps {d e : Disk} (hk : KeepsDirectories d e) (hh : e.here = d.here)
    {path : Path} {location : Location} (h : d.locate path = .ok location) :
    e.locate path = .ok location := by
  rw [locate, start_congr hh]
  exact follow_of_keeps hk h

/-- Nothing has changed but that there are new directories at some of the `fresh` places. -/
structure Grown (fresh : Location → Prop) (d e : Disk) : Prop where
  here_eq : e.here = d.here
  codePages_eq : e.codePages = d.codePages
  nodeAt_eq_or : ∀ location, e.nodeAt location = d.nodeAt location ∨
    fresh location ∧ d.nodeAt location = none ∧ e.nodeAt location = some .directory

namespace Grown

variable {fresh wider : Location → Prop} {d e f : Disk}

theorem refl (fresh : Location → Prop) (d : Disk) : Grown fresh d d :=
  ⟨rfl, rfl, fun _ => .inl rfl⟩

theorem trans (hde : Grown fresh d e) (hef : Grown fresh e f) : Grown fresh d f := by
  refine ⟨hef.here_eq.trans hde.here_eq, hef.codePages_eq.trans hde.codePages_eq,
    fun location => ?_⟩
  rcases hef.nodeAt_eq_or location with h | ⟨hf, hn, hd⟩
  · rw [h]
    exact hde.nodeAt_eq_or location
  · rcases hde.nodeAt_eq_or location with h | ⟨_, _, hdir⟩
    · exact .inr ⟨hf, h ▸ hn, hd⟩
    · rw [hn] at hdir
      cases hdir

theorem mono (h : Grown fresh d e) (hw : ∀ location, fresh location → wider location) :
    Grown wider d e :=
  ⟨h.here_eq, h.codePages_eq, fun location =>
    (h.nodeAt_eq_or location).imp_right fun ⟨hf, hrest⟩ => ⟨hw location hf, hrest⟩⟩

theorem keepsDirectories (h : Grown fresh d e) : KeepsDirectories d e := by
  intro location hd
  rcases h.nodeAt_eq_or location with he | ⟨_, hn, _⟩
  · exact he.trans hd
  · rw [hn] at hd
    cases hd

theorem fileAt_eq (h : Grown fresh d e) (location : Location) :
    e.fileAt location = d.fileAt location := by
  rcases h.nodeAt_eq_or location with he | ⟨_, hn, hd⟩
  · exact fileAt_congr he
  · simp only [fileAt, hn, hd]

/-- A directory at a free place. -/
theorem put_directory {location : Location} (hf : fresh location) (hn : d.nodeAt location = none) :
    Grown fresh d (d.put location .directory) := by
  refine ⟨rfl, rfl, fun other => ?_⟩
  by_cases ho : other = location
  · subst ho
    cases other with
    | nil => cases hn
    | cons name above => exact .inr ⟨hf, hn, nodeAt_put_self d name above .directory⟩
  · exact .inl (nodeAt_put_of_ne ho d .directory)

end Grown

/-- Nothing is taken away: directories stay directories, and a place that is taken stays taken. -/
structure Keeps (d e : Disk) : Prop where
  here_eq : e.here = d.here
  codePages_eq : e.codePages = d.codePages
  keepsDirectories : KeepsDirectories d e
  nodeAt_ne_none : ∀ location, d.nodeAt location ≠ none → e.nodeAt location ≠ none

theorem Grown.keeps {fresh : Location → Prop} {d e : Disk} (h : Grown fresh d e) :
    Keeps d e := by
  refine ⟨h.here_eq, h.codePages_eq, h.keepsDirectories, fun location hne => ?_⟩
  rcases h.nodeAt_eq_or location with heq | ⟨_, _, hd⟩
  · rw [heq]
    exact hne
  · rw [hd]
    exact Option.some_ne_none _

namespace Keeps

variable {d e f : Disk}

theorem refl (d : Disk) : Keeps d d := ⟨rfl, rfl, fun _ h => h, fun _ h => h⟩

theorem trans (hde : Keeps d e) (hef : Keeps e f) : Keeps d f :=
  ⟨hef.here_eq.trans hde.here_eq, hef.codePages_eq.trans hde.codePages_eq,
    fun location h => hef.keepsDirectories location (hde.keepsDirectories location h),
    fun location h => hef.nodeAt_ne_none location (hde.nodeAt_ne_none location h)⟩

theorem placeOf_eq (h : Keeps d e) (path : Path) : e.placeOf path = d.placeOf path :=
  placeOf_congr h.here_eq path

end Keeps

/-- The places on the way to a path, its own place included. -/
def OnWay (d : Disk) (path : Path) (location : Location) : Prop :=
  ∃ parts, parts <+: path.parts ∧ location = d.placeOf ⟨path.root, parts⟩

theorem find?_eq_some_iff {d : Disk} {path : Path} {entry : Entry} :
    d.find? path = some entry ↔
      d.locate path = .ok (d.placeOf path) ∧ d.nodeAt (d.placeOf path) = some entry := by
  unfold find?
  cases h : d.locate path with
  | error obstacle => simp
  | ok location =>
    rw [locate_eq_placeOf h]
    simp

/-- What is found at a path stays to be found. -/
theorem has_of_keeps {d e : Disk} (h : Keeps d e) {path : Path} (hhas : d.has path = true) :
    e.has path = true := by
  rw [has, Option.isSome_iff_exists] at hhas ⊢
  obtain ⟨entry, hentry⟩ := hhas
  obtain ⟨hlocate, hnode⟩ := find?_eq_some_iff.mp hentry
  have htaken : e.nodeAt (d.placeOf path) ≠ none :=
    h.nodeAt_ne_none _ (by rw [hnode]; exact Option.some_ne_none _)
  obtain ⟨later, hlater⟩ := Option.ne_none_iff_exists'.mp htaken
  refine ⟨later, find?_eq_some_iff.mpr ?_⟩
  rw [h.placeOf_eq]
  exact ⟨locate_of_keeps h.keepsDirectories h.here_eq hlocate, hlater⟩

theorem content?_eq_some_iff {d : Disk} {path : Path} {content : List UInt8} :
    d.content? path = some content ↔
      d.locate path = .ok (d.placeOf path) ∧ d.fileAt (d.placeOf path) = some content := by
  rw [fileAt_eq_some_iff, ← find?_eq_some_iff]
  unfold content?
  split <;> simp_all

/-- A path leads to the same content as long as the file at its place stays the same. -/
theorem content?_of_keeps {d e : Disk} (h : Keeps d e) {path : Path} {content : List UInt8}
    (hcontent : d.content? path = some content)
    (hfile : e.fileAt (d.placeOf path) = d.fileAt (d.placeOf path)) :
    e.content? path = some content := by
  obtain ⟨hlocate, hold⟩ := content?_eq_some_iff.mp hcontent
  rw [content?_eq_some_iff, h.placeOf_eq, hfile]
  exact ⟨locate_of_keeps h.keepsDirectories h.here_eq hlocate, hold⟩

theorem isDirectory_iff {d : Disk} {path : Path} :
    d.isDirectory path = true ↔
      d.locate path = .ok (d.placeOf path) ∧ d.nodeAt (d.placeOf path) = some .directory := by
  rw [isDirectory, decide_eq_true_iff, find?_eq_some_iff]

theorem makeDirectory_ok {d e : Disk} {path : Path} (h : d.makeDirectory path = .ok e) :
    Grown (d.OnWay path) d e ∧ e.isDirectory path = true := by
  unfold makeDirectory at h
  split at h
  · cases h
  · rename_i location hl
    split at h
    · rename_i hfree
      cases h
      simp only [Bool.and_eq_true, Option.isNone_iff_eq_none] at hfree
      have hplace := locate_eq_placeOf hl
      have hgrown : Grown (d.OnWay path) d (d.put location .directory) :=
        Grown.put_directory ⟨path.parts, List.prefix_refl _, hplace⟩ hfree.2
      refine ⟨hgrown, isDirectory_iff.mpr ?_⟩
      rw [placeOf_congr hgrown.here_eq, ← hplace]
      refine ⟨locate_of_keeps hgrown.keepsDirectories hgrown.here_eq hl, ?_⟩
      cases location with
      | nil => rfl
      | cons name above => exact nodeAt_put_self d name above .directory
    · cases h

/-- What making sure of a directory comes to: the disk has grown on the way to it, and a success
means that it is there. -/
structure Ensures (path : Path) (d : Disk) (out : Except Failure Unit × Disk) : Prop where
  grown : Grown (d.OnWay path) d out.2
  isDirectory : out.1 = .ok () → out.2.isDirectory path = true

theorem ensures_acceptExisting {d e : Disk} {path : Path} (h : Grown (d.OnWay path) d e)
    (obstacle : Obstacle) : Ensures path d (Action.on e (acceptExisting path obstacle)) := by
  cases hd : e.isDirectory path with
  | true =>
    have hon : Action.on e (acceptExisting path obstacle) = (.ok (), e) := by
      simp [acceptExisting, Action.on_bind, hd]
    rw [hon]
    exact ⟨h, fun _ => hd⟩
  | false =>
    have hon : Action.on e (acceptExisting path obstacle) =
        (.error (obstacle.failure path), e) := by
      simp [acceptExisting, Action.on_bind, hd]
    rw [hon]
    exact ⟨h, fun hok => by cases hok⟩

theorem onWay_congr {d e : Disk} (h : e.here = d.here) (path : Path) :
    e.OnWay path = d.OnWay path := by
  funext location
  simp only [OnWay, placeOf_congr h]

/-- Above the path, the places on its way are on the way of the longer path as well. -/
theorem OnWay.of_prefix {d : Disk} {root : String} {parts longer : List String}
    (hp : parts <+: longer) {location : Location} (h : d.OnWay ⟨root, parts⟩ location) :
    d.OnWay ⟨root, longer⟩ location := by
  obtain ⟨first, hfirst, hplace⟩ := h
  exact ⟨first, hfirst.trans hp, hplace⟩

theorem ensures_ensureParts (root : String) (parts : List String) (d : Disk) :
    Ensures ⟨root, parts.reverse⟩ d (Action.on d (ensureParts root parts)) := by
  -- The induction goes up the path; only a missing parent makes the operation call itself.
  induction parts generalizing d with
  | nil => exact ensures_acceptExisting (Grown.refl _ d) .alreadyExists
  | cons part above ih =>
    simp only [ensureParts, Action.on_bind, Action.on_get]
    cases hm : d.makeDirectory ⟨root, (part :: above).reverse⟩ with
    | ok e =>
      obtain ⟨hgrown, hdir⟩ := makeDirectory_ok hm
      exact ⟨hgrown, fun _ => hdir⟩
    | error obstacle =>
      cases obstacle with
      | notDirectory => exact ensures_acceptExisting (Grown.refl _ d) .notDirectory
      | alreadyExists => exact ensures_acceptExisting (Grown.refl _ d) .alreadyExists
      | missing =>
        have habove := ih d
        simp only [Action.on_bind]
        cases hr : Action.on d (ensureParts root above) with
        | mk result e =>
          rw [hr] at habove
          have hgrown : Grown (d.OnWay ⟨root, (part :: above).reverse⟩) d e :=
            habove.grown.mono fun _ h => h.of_prefix (by simp)
          cases result with
          | error failure => exact ⟨hgrown, fun hok => by cases hok⟩
          | ok _ =>
            simp only [Action.on_get]
            cases ha : e.makeDirectory ⟨root, (part :: above).reverse⟩ with
            | error obstacle => exact ensures_acceptExisting hgrown obstacle
            | ok f =>
              obtain ⟨hlast, hdir⟩ := makeDirectory_ok ha
              rw [onWay_congr hgrown.here_eq] at hlast
              exact ⟨hgrown.trans hlast, fun _ => hdir⟩

/-- A successful `ensureDirectory` leaves the directory, and any attempt only adds missing ones. -/
theorem ensures_ensureDirectory (path : Path) (d : Disk) :
    Ensures path d (Action.on d (ensureDirectory path)) := by
  unfold ensureDirectory
  split
  · exact ⟨Grown.refl _ d, fun hok => by cases hok⟩
  · have h := ensures_ensureParts path.root path.parts.reverse d
    rwa [List.reverse_reverse] at h

end RecordMapper.Disk
