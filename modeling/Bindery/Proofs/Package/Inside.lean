/-
This file proves that making a package stays inside the root of the package.

Whatever a schema is called, the file of its module lies inside the root, so that going up from it,
one directory at a time, leads to the root; from a path elsewhere it never would. What is read,
written or asked for when a package is made lies inside the root, too. All this is about names:
where links take a path is another matter.
-/

import Bindery.Proofs.Package.Tasks

namespace Bindery

/-! ### Paths inside a root -/

/-- A path lies inside a root: behind the names of the root come more, at least one, each of which
is a single name and leads down. -/
def Path.IsInside (path root : Path) : Prop :=
  ∃ rest ∈ path.relativeTo? root, rest.parts ≠ [] ∧
    ∀ part ∈ rest.parts, IsName part ∧ '/' ∉ part.toList

instance (path root : Path) : Decidable (path.IsInside root) := by
  unfold Path.IsInside
  infer_instance

theorem Path.isInside_iff {path root : Path} : path.IsInside root ↔
    ∃ place : Place, place ≠ [] ∧ (∀ part ∈ place, IsName part ∧ '/' ∉ part.toList) ∧
      path = root.down place := by
  constructor
  · rintro ⟨rest, seen, some, named⟩
    exact ⟨rest.parts, some, named, ((relativeTo?_eq_some_iff _ _ _).mp seen).2⟩
  · rintro ⟨place, some, named, rfl⟩
    exact ⟨⟨.relative, place⟩, (relativeTo?_eq_some_iff _ _ _).mpr ⟨rfl, rfl⟩, some, named⟩

example : (Path.parse "/p/a/b").IsInside (Path.parse "/p") ∧
    ¬ (Path.parse "/p/../q").IsInside (Path.parse "/p") := by decide +kernel

namespace Package

/-! ### The way up -/

variable {root path file : Path} {met : List Path}

/-- Going up from a path, one directory at a time, until the root is met: the directories on the
way. If the root is never met, there is no such list. -/
inductive Climbs (root : Path) : Path → List Path → Prop
  | arrived : Climbs root root []
  | up {path : Path} {rest : List Path} (different : path ≠ root)
    (onward : Climbs root path.parent rest) : Climbs root path (path :: rest)

theorem climbs_down (root : Path) (place : Place) :
    Climbs root (root.down place)
      ((placesUp place.length place).map fun above => root.down above) := by
  induction place using List.reverseRecOn with
  | nil =>
    have top : root.down [] = root := by simp [Path.down]
    rw [top]
    exact .arrived
  | append_singleton front name inductionHypothesis =>
    have some : front ++ [name] ≠ [] := by simp
    have different : root.down (front ++ [name]) ≠ root := by
      intro same
      exact some (List.append_right_eq_self.mp (congrArg Path.parts same))
    have above : (root.down (front ++ [name])).parent = root.down front := by
      rw [Path.parent_down root some, List.dropLast_concat]
    rw [List.length_append, List.length_singleton, placesUp, if_neg some, List.dropLast_concat,
      List.map_cons]
    exact .up different (above ▸ inductionHypothesis)

/-- Going up meets the root only from a path that begins with the names of the root. -/
theorem Climbs.exists_place (climbs : Climbs root path met) : ∃ place, path = root.down place := by
  induction climbs with
  | arrived => exact ⟨[], by simp [Path.down]⟩
  | @up path rest different onward inductionHypothesis =>
    obtain ⟨place, above⟩ := inductionHypothesis
    by_cases bare : path.parts = []
    · -- A path without names is its own parent, so that the root is not left behind.
      have own : path.parent = path := by
        obtain ⟨anchor, parts⟩ := path
        cases bare
        rfl
      exact ⟨place, own.symm.trans above⟩
    · refine ⟨place ++ [path.name], ?_⟩
      rw [← Path.down_down, ← above, path.down_parent bare]

/-- The root is met exactly from the paths that begin with its names. -/
theorem exists_climbs_iff : (∃ met, Climbs root path met) ↔ path.isBelow root = true := by
  have below : path.isBelow root = true ↔ ∃ place, path = root.down place := by
    rw [Path.isBelow, Option.isSome_iff_exists]
    constructor
    · rintro ⟨rest, seen⟩
      exact ⟨rest.parts, ((Path.relativeTo?_eq_some_iff _ _ _).mp seen).2⟩
    · rintro ⟨place, same⟩
      exact ⟨⟨.relative, place⟩, (Path.relativeTo?_eq_some_iff _ _ _).mpr ⟨rfl, same⟩⟩
  rw [below]
  constructor
  · rintro ⟨met, climbs⟩
    exact climbs.exists_place
  · rintro ⟨place, rfl⟩
    exact ⟨_, climbs_down root place⟩

/-- From a file inside the root the root is met, and the directories on the way are those that
become packages. -/
theorem climbs_packagesAbove (inside : file.IsInside root) :
    Climbs root file.parent (packagesAbove root file) := by
  obtain ⟨place, some, -, rfl⟩ := Path.isInside_iff.mp inside
  have enough : place.dropLast.length ≤ (root.down place.dropLast).parts.length := by
    show _ ≤ (root.parts ++ place.dropLast).length
    rw [List.length_append]
    omega
  rw [packagesAbove, Path.parent_down root some, enclosing_down, placesUp_of_le enough]
  exact climbs_down root place.dropLast

/-! ### Files of modules -/

/-- The file of a module lies inside the root. -/
theorem isInside_fileOf (root : Path) (schema : String) {suffix : String}
    (long : 2 < suffix.length) (noSlash : '/' ∉ suffix.toList) :
    (root.down (fileOf (moduleName schema) suffix)).IsInside root :=
  Path.isInside_iff.mpr ⟨_, fileOf_ne_nil _ _, fun _ member =>
    ⟨isName_of_mem_fileOf long member,
      not_mem_of_mem_fileOf (slash_not_mem_moduleName schema) noSlash member⟩, rfl⟩

/-! ### Making a package -/

/-- The file of a task lies inside the root. -/
theorem isInside_of_mem_tasksOf (root : Path) {schemas : List String} {policy : Policy}
    {task : Task} (member : task ∈ tasksOf (modulesOf schemas) policy) :
    (root.down task.place).IsInside root := by
  obtain ⟨some, named⟩ := isNamed_of_mem_tasksOf member
  refine Path.isInside_iff.mpr ⟨task.place, some, fun part inside => ⟨named part inside, ?_⟩, rfl⟩
  refine not_mem_of_mem_tasksOf (fun name isModule => ?_) (by decide) member inside
  obtain ⟨schema, -, rfl⟩ := mem_modulesOf.mp isModule
  exact slash_not_mem_moduleName schema

/-- Going up meets the root exactly from the paths that begin with the names of the root. Whatever
the root and the schemas are called, the files of all modules lie inside the root, so that going up
from each of them meets it, by the directories that become packages. Making a package reads, writes
and asks for nothing but what paths inside the root lead to: on every machine the disk is written to
by such paths alone, and every refusal names one. -/
theorem finalize_stays_inside (root : Path) (schemas : List String) (policy : Policy) :
    (∀ path, (∃ met, Climbs root path met) ↔ path.isBelow root = true) ∧
    (∀ schema : String, ∀ suffix ∈ [sourceSuffix, stubSuffix], ∃ file,
      modulePath root (moduleName schema) suffix = .ok file ∧ file.IsInside root ∧
        Climbs root file.parent (packagesAbove root file)) ∧
    (finalize root schemas policy).KeepsTo (·.IsInside root) ∧
    ∀ machine after result, (finalize root schemas policy).on machine = (result, after) →
      machine.disk.WrittenBy (·.IsInside root) machine.host.here after.disk ∧
        ∀ fault, result = .error (.system fault) →
          ∃ path : Path, path.IsInside root ∧ fault.paths = [path.text] := by
  have fits : ∀ suffix ∈ [sourceSuffix, stubSuffix],
      Path.isSuffix suffix.toList = true ∧ 2 < suffix.length ∧ '/' ∉ suffix.toList := by decide
  have keeps : (finalize root schemas policy).KeepsTo (·.IsInside root) :=
    keepsTo_finalize fun _ => isInside_of_mem_tasksOf root
  refine ⟨fun _ => exists_climbs_iff, fun schema suffix member => ?_, keeps,
    fun machine after result ran => ?_⟩
  · obtain ⟨isSuffix, long, noSlash⟩ := fits suffix member
    have inside := isInside_fileOf root schema long noSlash
    exact ⟨_, modulePath_eq root (isModuleName_moduleName schema) isSuffix, inside,
      climbs_packagesAbove inside⟩
  · have kept := (keeps.kept machine).of_on ran
    exact ⟨kept.written, kept.refused⟩

/-- A machine with a root and nothing inside it. -/
def bareRoot : Machine := Machine.fresh {} ⟨[(["p"], .directory Disk.directoryMode)]⟩

/-- A schema whose name seems to lead up and away. -/
theorem climbing_schema_kept_inside :
    sourceSuffix ∈ [sourceSuffix, stubSuffix] ∧
    modulePath (Path.parse "/p") (moduleName "/../../etc//x.y.proto") sourceSuffix =
      .ok (Path.parse "/p/etc/x/y_pb2.py") ∧
    Climbs (Path.parse "/p") (Path.parse "/p/etc/x") [Path.parse "/p/etc/x", Path.parse "/p/etc"] ∧
    ((finalize (Path.parse "/p") ["/../../etc//x.y.proto"] .standard).on bareRoot).1 =
      .error (.system ⟨Errno.noEntry, ["/p/etc/x/y_pb2.py"]⟩) ∧
    ∃ path : Path, path.IsInside (Path.parse "/p") ∧ "/p/etc/x/y_pb2.py" = path.text := by
  have stays := finalize_stays_inside (Path.parse "/p") ["/../../etc//x.y.proto"] .standard
  have isSuffix : sourceSuffix ∈ [sourceSuffix, stubSuffix] := List.mem_cons_self
  have found : modulePath (Path.parse "/p") (moduleName "/../../etc//x.y.proto") sourceSuffix =
      .ok (Path.parse "/p/etc/x/y_pb2.py") := by decide +kernel
  have above : packagesAbove (Path.parse "/p") (Path.parse "/p/etc/x/y_pb2.py") =
      [Path.parse "/p/etc/x", Path.parse "/p/etc"] := by decide +kernel
  have failed : ((finalize (Path.parse "/p") ["/../../etc//x.y.proto"] .standard).on bareRoot).1 =
      .error (.system ⟨Errno.noEntry, ["/p/etc/x/y_pb2.py"]⟩) := by decide +kernel
  refine ⟨isSuffix, found, ?_, failed, ?_⟩
  · obtain ⟨file, same, -, climbs⟩ := stays.2.1 "/../../etc//x.y.proto" sourceSuffix isSuffix
    cases found.symm.trans same
    rw [above] at climbs
    exact climbs
  · obtain ⟨path, inside, named⟩ := (stays.2.2.2 bareRoot _ _ (Action.on_eq failed)).2 _ rfl
    exact ⟨path, inside, List.singleton_inj.mp named⟩

end Package

end Bindery
