import RecordMapper.Proofs.Disk.Hidden
import RecordMapper.Proofs.Naming.Identifier
import RecordMapper.Proofs.Output.Artefact
import RecordMapper.Proofs.Text.Lines
import RecordMapper.Proofs.Validation.Names

/-!
# Places of targets

Under a proper package and class names that are identifiers, the file of a target is in the
directory of its sources and is named for its class. If models and tests have directories of their
own, no two targets of different tables or of different kinds have one place.
-/
namespace RecordMapper.Output

open RecordMapper.Config RecordMapper.Disk RecordMapper.Naming RecordMapper.Source
open RecordMapper.Text RecordMapper.Validation

section Paths

/-- A text without slashes is a path of one part. -/
theorem ofString_of_noSlash {s : String} (hslash : '/' ∉ s.toList) (hempty : s ≠ "")
    (hdot : s ≠ ".") : Path.ofString s = ⟨"", [s]⟩ := by
  have hroot : Path.rootOf s = "" := by
    unfold Path.rootOf
    cases hcs : s.toList with
    | nil => rfl
    | cons c rest =>
      rw [hcs] at hslash
      rw [List.takeWhile_cons_of_neg (by simpa using Ne.symm (List.ne_of_not_mem_cons hslash))]
      rfl
  have hsplit : split '/' s = [s] := by
    rw [split, pieces_of_not_mem hslash, List.map_singleton, String.ofList_toList]
  rw [Path.ofString, hroot, hsplit]
  simp [hempty, hdot]

theorem ofString_of_isPlainIdentifier {s : String} (h : isPlainIdentifier s = true) :
    Path.ofString s = ⟨"", [s]⟩ := by
  refine ofString_of_noSlash (not_mem_of_isPlainIdentifier h (by decide) (by decide)) ?_ ?_
  · rintro rfl
    exact absurd h (by decide)
  · rintro rfl
    exact absurd h (by decide)

theorem foldl_append_ofString {segments : List String}
    (h : ∀ segment ∈ segments, isPlainIdentifier segment = true) (parts : List String) :
    segments.foldl (fun path segment => path ++ Path.ofString segment) ⟨"", parts⟩ =
      ⟨"", parts ++ segments⟩ := by
  induction segments generalizing parts with
  | nil => rw [List.foldl_nil, List.append_nil]
  | cons segment rest ih =>
    have happend : (⟨"", parts⟩ : Path) ++ Path.ofString segment = ⟨"", parts ++ [segment]⟩ := by
      rw [ofString_of_isPlainIdentifier (h segment (List.mem_cons_self ..))]
      rfl
    rw [List.foldl_cons, happend, ih fun other hother => h other (List.mem_cons_of_mem _ hother),
      List.append_assoc, List.singleton_append]

/-- What the points of a package stand between; the empty package has no segments. -/
def packageSegments (package : String) : List String :=
  if package.isEmpty then [] else split '.' package

theorem packagePath_eq {package : String} (h : ErrorFree (checkPackage package)) :
    packagePath package = ⟨"", packageSegments package⟩ := by
  rw [packagePath, packageSegments]
  split
  · rfl
  next hfilled =>
    exact foldl_append_ofString ((segments_of_errorFree h).resolve_left hfilled) []

/-- The directory of a proper package is a relative path without double dots. -/
theorem packagePath_of_errorFree {package : String} (h : ErrorFree (checkPackage package)) :
    ∃ parts, packagePath package = ⟨"", parts⟩ ∧ ".." ∉ parts := by
  refine ⟨packageSegments package, packagePath_eq h, fun hmem => ?_⟩
  rw [packageSegments] at hmem
  split at hmem
  · cases hmem
  next hfilled =>
    exact absurd ((segments_of_errorFree h).resolve_left hfilled _ hmem) (by decide)

/-- The file of a class without slashes is one step below the directory of its package. -/
theorem path_below (config : Settings) (root : String) {className : String}
    (hslash : '/' ∉ className.toList) : (Target.below config root className).path =
      Path.ofString root ++ packagePath config.package ++ ⟨"", [className ++ ".scala"]⟩ := by
  have hlength : 6 ≤ (className ++ ".scala").length := by
    rw [String.length_append]
    exact Nat.le_add_left _ _
  have hlong {s : String} (hs : s.length < 6) : className ++ ".scala" ≠ s := by
    intro heq
    rw [heq] at hlength
    omega
  have hnoSlash : '/' ∉ (className ++ ".scala").toList := by
    rw [String.toList_append, List.mem_append]
    exact not_or.mpr ⟨hslash, by decide⟩
  rw [Target.below, ofString_of_noSlash hnoSlash (hlong (by decide +kernel))
    (hlong (by decide +kernel))]

theorem parent_below (config : Settings) (root : String) {className : String}
    (hslash : '/' ∉ className.toList) : (Target.below config root className).path.parent =
      Path.ofString root ++ packagePath config.package := by
  rw [path_below config root hslash]
  exact congrArg (Disk.Path.mk _) List.dropLast_concat

/-- The file of a class without slashes is in the directory of its package. -/
theorem placeOf_below {config : Settings} (h : ErrorFree (checkPackage config.package)) (d : Disk) :
    ∃ above : Location, ∀ root className : String, '/' ∉ className.toList →
      d.placeOf (Target.below config root className).path =
        (className ++ ".scala") :: (above ++ d.placeOf (Path.ofString root)) := by
  obtain ⟨parts, hpackage, hdots⟩ := packagePath_of_errorFree h
  refine ⟨parts.reverse, fun root className hslash => ?_⟩
  have hname : className ++ ".scala" ≠ ".." := by
    intro heq
    have hlength := congrArg String.length heq
    rw [String.length_append, show ".scala".length = 6 from rfl, show "..".length = 2 from rfl]
      at hlength
    omega
  have hpath : (Target.below config root className).path =
      ⟨(Path.ofString root).root,
        (Path.ofString root).parts ++ parts ++ [className ++ ".scala"]⟩ := by
    rw [path_below config root hslash, hpackage]
    rfl
  rw [hpath, placeOf, List.foldl_append, List.foldl_append, List.foldl_cons, List.foldl_nil,
    foldl_step_of_noDots hdots, step, if_neg hname]
  rfl

end Paths

namespace Artefact

def root (config : Settings) : Artefact → String
  | model => config.sourceDir
  | spec => config.testDir
  | arbitrary => config.testDir

/-- The class that the source defines, for the class of the table. -/
def className (config : Settings) (name : String) : Artefact → String
  | model => name
  | spec => specClassName name config.abstractSpec
  | arbitrary => name ++ "Arbitrary"

theorem target_eq (a : Artefact) (config : Settings) (name : String) :
    a.target config name = Target.below config (a.root config) (a.className config name) := by
  cases a <;> rfl

theorem noSlash_className {name : String} (h : '/' ∉ name.toList) (a : Artefact)
    (config : Settings) : '/' ∉ (a.className config name).toList := by
  cases a with
  | model => exact h
  | spec =>
    rw [className, specClassName]
    split <;> simp only [String.toList_append, List.mem_append, not_or]
    · exact ⟨⟨by decide, h⟩, by decide⟩
    · exact ⟨h, by decide⟩
  | arbitrary =>
    simp only [className, String.toList_append, List.mem_append, not_or]
    exact ⟨h, by decide⟩

theorem className_injective (a : Artefact) {config : Settings} {name other : String}
    (h : a.className config name = a.className config other) : name = other := by
  cases a with
  | model => exact h
  | spec =>
    simp only [className, specClassName] at h
    split at h <;> simpa using h
  | arbitrary => simpa [className] using h

/-- A spec and an arbitrary trait differ in the end of their names. -/
theorem spec_ne_arbitrary (config : Settings) (name other : String) :
    spec.className config name ≠ arbitrary.className config other := by
  intro h
  have hlast := congrArg (fun s : String => s.toList.getLast?) h
  simp [className, specClassName] at hlast

end Artefact

/-- No two sources of tables with identifiers for class names are at one place. -/
theorem eq_of_placeOf_target_eq {config : Settings} {d : Disk}
    (hpackage : ErrorFree (checkPackage config.package))
    (hdirs : d.placeOf (Path.ofString config.sourceDir) ≠ d.placeOf (Path.ofString config.testDir))
    {a b : Artefact} {name other : String} (hname : isPlainIdentifier name = true)
    (hother : isPlainIdentifier other = true)
    (h : d.placeOf (a.target config name).path = d.placeOf (b.target config other).path) :
    a = b ∧ name = other := by
  obtain ⟨above, hplace⟩ := placeOf_below hpackage d
  have hslash {name : String} (h : isPlainIdentifier name = true) : '/' ∉ name.toList :=
    not_mem_of_isPlainIdentifier h (by decide) (by decide)
  rw [a.target_eq, b.target_eq, hplace _ _ (a.noSlash_className (hslash hname) config),
    hplace _ _ (b.noSlash_className (hslash hother) config)] at h
  obtain ⟨hfile, habove⟩ := List.cons.inj h
  have hclass : a.className config name = b.className config other := by simpa using hfile
  have hroot : d.placeOf (Path.ofString (a.root config)) =
      d.placeOf (Path.ofString (b.root config)) := List.append_cancel_left habove
  -- The directory tells models from tests, the end of the name specs from arbitrary traits.
  have hab : a = b := by
    cases a <;> cases b <;> first
      | rfl
      | exact absurd hroot hdirs
      | exact absurd hroot.symm hdirs
      | exact absurd hclass (Artefact.spec_ne_arbitrary config _ _)
      | exact absurd hclass.symm (Artefact.spec_ne_arbitrary config _ _)
  subst hab
  exact ⟨rfl, a.className_injective hclass⟩

end RecordMapper.Output
