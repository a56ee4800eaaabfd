import RecordMapper.Proofs.Output.Places
import RecordMapper.Proofs.Validation.OneLine

/-!
# Files named for what they define

The file of a class stands where its qualified name says. Its path goes through the source directory
and the segments of the package, and these segments with the stem of the file are the qualified
name. So files of one kind tell their classes apart, and no spec is where an arbitrary trait is.
-/
namespace RecordMapper.Output

open RecordMapper.Config RecordMapper.Disk RecordMapper.Naming RecordMapper.Source RecordMapper.Text
open RecordMapper.Validation

/-- The last part of a path without its suffix. -/
def stem (path : Path) : String :=
  String.ofList (path.name.toList.take (path.name.length - path.suffix.length))

section Stems

variable {path : Path} {base ending : String}

/-- What comes after the last point of a name is its suffix. -/
theorem suffix_of_name (hname : path.name = base ++ "." ++ ending) (hbase : base ≠ "")
    (hending : ending ≠ "") (hpoint : '.' ∉ ending.toList) : path.suffix = "." ++ ending := by
  have hreversed : path.name.toList.reverse =
      ending.toList.reverse ++ '.' :: base.toList.reverse := by
    rw [hname, String.toList_append, String.toList_append]
    simp
  have hback : (path.name.toList.reverse.takeWhile fun c => c ≠ '.') = ending.toList.reverse := by
    rw [hreversed, List.takeWhile_append_of_pos, List.takeWhile_cons_of_neg (by simp),
      List.append_nil]
    intro c hc
    exact decide_eq_true fun heq => hpoint (heq ▸ List.mem_reverse.mp hc)
  have hbefore : (path.name.toList.reverse.drop ending.toList.reverse.length).drop 1 =
      base.toList.reverse := by
    rw [hreversed, List.drop_left, List.drop_one, List.tail_cons]
  rw [Path.suffix]
  rw [hback, hbefore, if_neg (by simp [hbase, hending]), List.reverse_reverse]
  apply String.toList_injective
  rw [String.toList_ofList, String.toList_append]
  rfl

theorem stem_of_name (hname : path.name = base ++ "." ++ ending) (hbase : base ≠ "")
    (hending : ending ≠ "") (hpoint : '.' ∉ ending.toList) : stem path = base := by
  have hlength : path.name.length - path.suffix.length = base.toList.length := by
    rw [suffix_of_name hname hbase hending hpoint, hname, String.append_assoc, String.length_append,
      Nat.add_sub_cancel, String.length_toList]
  rw [stem, hlength, hname, String.append_assoc, String.toList_append, List.take_left,
    String.ofList_toList]

end Stems

/-- The segments of a package before a name make the qualified name. -/
theorem join_packageSegments (package name : String) :
    join "." (packageSegments package ++ [name]) = qualified package name := by
  rw [packageSegments, qualified]
  split
  · rfl
  · have hne : split '.' package ≠ [] := fun h => pieces_ne_nil _ _ (List.map_eq_nil_iff.mp h)
    rw [join_append hne (List.cons_ne_nil _ _), show "." = String.singleton '.' from rfl,
      join_split, join]

section Targets

variable {config : Settings} {name : String}

theorem path_target (hpackage : ErrorFree (checkPackage config.package))
    (hslash : '/' ∉ name.toList) (a : Artefact) :
    (a.target config name).path =
      ⟨(Path.ofString (a.root config)).root,
        (Path.ofString (a.root config)).parts ++ packageSegments config.package ++
          [a.className config name ++ ".scala"]⟩ := by
  rw [a.target_eq, path_below _ _ (a.noSlash_className hslash config), packagePath_eq hpackage]
  rfl

theorem Artefact.className_ne_empty (hname : name ≠ "") (a : Artefact) :
    a.className config name ≠ "" := by
  cases a with
  | model => exact hname
  | spec =>
    rw [className, specClassName]
    split <;> simp
  | arbitrary => simp [className]

/-- Two targets with one path have one class name. -/
theorem className_eq_of_path_eq (hpackage : ErrorFree (checkPackage config.package))
    {a b : Artefact} {other : String} (hslash : '/' ∉ name.toList) (hother : '/' ∉ other.toList)
    (h : (a.target config name).path = (b.target config other).path) :
    a.className config name = b.className config other := by
  have hlast := congrArg (fun path : Path => path.parts.getLast?) h
  rw [path_target hpackage hslash, path_target hpackage hother] at hlast
  simpa using hlast

end Targets

/-- The files of a table whose class name is an identifier, under a configuration without errors.
The requests for its sources go to the path through the directory of the sources and the segments of
the package, to a file named for the class, and these segments with the stem of the file are the
target. Different classes have different files of every kind, and no spec is where an arbitrary
trait is. -/
theorem files_named_for_targets {t : TableOutput} {name : String}
    (hconfig : ErrorFree (checkConfig t.config)) (hname : t.resolvedName = .ok name)
    (hplain : isPlainIdentifier name = true) :
    (∀ a : Artefact,
      let target := a.target t.config name
      let base := Path.ofString (a.root t.config)
      (∀ overwrite, (a.request overwrite t).destination =
        .ok (target.qualifiedName, target.path)) ∧
      target.path = ⟨base.root, base.parts ++ packageSegments t.config.package ++
        [a.className t.config name ++ ".scala"]⟩ ∧
      join "." (packageSegments t.config.package ++ [stem target.path]) = target.qualifiedName) ∧
    ∀ other, isPlainIdentifier other = true →
      (∀ a : Artefact,
        (a.target t.config name).path = (a.target t.config other).path → name = other) ∧
      (Artefact.spec.target t.config name).path ≠
        (Artefact.arbitrary.target t.config other).path := by
  have hpackage : ErrorFree (checkPackage t.config.package) := by
    simp only [checkConfig, errorFree_append] at hconfig
    exact hconfig.1.1.1.1
  have hslash {name : String} (h : isPlainIdentifier name = true) : '/' ∉ name.toList :=
    not_mem_of_isPlainIdentifier h (by decide) (by decide)
  have hfilled : name ≠ "" := by
    rintro rfl
    exact absurd hplain (by decide)
  refine ⟨fun a => ⟨fun overwrite => Artefact.destination_request hname overwrite a,
    path_target hpackage (hslash hplain) a, ?_⟩, fun other hother => ⟨fun a hpath => ?_, ?_⟩⟩
  · have hfile : (a.target t.config name).path.name =
        a.className t.config name ++ "." ++ "scala" := by
      rw [path_target hpackage (hslash hplain), Path.name, List.getLast?_concat,
        String.append_assoc]
      rfl
    rw [stem_of_name hfile (a.className_ne_empty hfilled) (by decide) (by decide),
      join_packageSegments, a.target_eq]
    rfl
  · exact a.className_injective
      (className_eq_of_path_eq hpackage (hslash hplain) (hslash hother) hpath)
  · intro hpath
    exact Artefact.spec_ne_arbitrary t.config name other
      (className_eq_of_path_eq hpackage (hslash hplain) (hslash hother) hpath)

namespace Sample

/-- Sources of a nested package below a directory that is written in a roundabout way. -/
def nested : TableOutput where
  config := { Settings.default with
    package := "com.example", sourceDir := "./app//src", abstractSpec := true }
  table := Validation.Sample.keyedTable "emp" "id"
  className := some (.text "Staff")

end Sample

/-- Points of a package and slashes of a directory cut a path alike. -/
theorem files_named_for_targets_of_nested :
    ErrorFree (checkConfig Sample.nested.config) ∧
    Sample.nested.resolvedName = .ok "Staff" ∧
    (Artefact.model.target Sample.nested.config "Staff").path =
      ⟨"", ["app", "src", "com", "example", "Staff.scala"]⟩ ∧
    join "." ["com", "example",
        stem (Artefact.spec.target Sample.nested.config "Staff").path] =
      "com.example.AbstractStaffSpec" := by
  have hconfig : ErrorFree (checkConfig Sample.nested.config) := by decide +kernel
  have hname : Sample.nested.resolvedName = .ok "Staff" := rfl
  obtain ⟨hfiles, -⟩ := files_named_for_targets hconfig hname (by decide +kernel)
  have hsegments : packageSegments Sample.nested.config.package = ["com", "example"] := by
    decide +kernel
  have hbase : Path.ofString (Artefact.model.root Sample.nested.config) = ⟨"", ["app", "src"]⟩ := by
    decide +kernel
  refine ⟨hconfig, hname, ?_, ?_⟩
  · rw [(hfiles .model).2.1, hbase, hsegments]
    rfl
  · have htarget := (hfiles .spec).2.2
    rw [hsegments] at htarget
    exact htarget.trans (by decide +kernel)

end RecordMapper.Output
