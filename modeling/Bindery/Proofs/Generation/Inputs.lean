/-
This file finds out which schemas are still there after a run.

A run replaces its output as a whole. A schema that is found without the output, and without the
name that the output is moved aside to, is found after every run; a run that fails loses no schema
but with its output. A schema below the output is found after a run that succeeds only if the
compiler emitted the same file. Nothing keeps the output from being the include directory.
-/

import Bindery.Proofs.Generation.Writer

namespace Bindery

namespace Disk

variable {disk other : Disk} {here : Place} {path : Path} {bytes : List UInt8}

/-- Without some trees, a disk has what it had outside them. -/
theorem get?_foldl_eraseTree {tops : List Place} (named : ∀ top ∈ tops, top ≠ []) {place : Place}
    {node : Node} (found : (tops.foldl eraseTree disk).get? place = some node) :
    disk.get? place = some node ∧ ∀ top ∈ tops, ¬ top <+: place := by
  induction tops generalizing disk with
  | nil => exact ⟨found, by simp⟩
  | cons top others inductionHypothesis =>
    obtain ⟨there, apart⟩ :=
      inductionHypothesis (fun each member => named each (List.mem_cons_of_mem _ member)) found
    have beside : ¬ top <+: place := by
      intro under
      rw [get?_eraseTree_of_under disk (named top List.mem_cons_self) under] at there
      cases there
    rw [get?_eraseTree_of_not_under disk beside] at there
    refine ⟨there, fun each member => ?_⟩
    rcases List.mem_cons.mp member with rfl | later
    · exact beside
    · exact apart each later

/-- A file is read on every disk that has what one has on which it is read. -/
theorem Keeps.readFile (keeps : disk.Keeps other) (absolute : path.isAbsolute = true)
    (read : disk.readFile here path = .ok bytes) : other.readFile here path = .ok bytes := by
  obtain ⟨place, mode, located⟩ := locate_of_readFile read
  exact readFile_of_locate
    (locate_keep absolute located fun each entry found _ => keeps each entry found)

/-- A file is read by a path only if neither the path nor a name in it is too long. -/
theorem fits_of_readFile (read : disk.readFile here path = .ok bytes) :
    ¬ pathLimit ≤ path.text.utf8ByteSize ∧
      ∀ name ∈ path.parts, IsName name → isLongName name = false := by
  obtain ⟨place, mode, located⟩ := locate_of_readFile read
  unfold Disk.locate at located
  split at located
  next => cases located
  next fits =>
    exact ⟨fits, fun name member named =>
      (way_of_walk_eq located).isLongName_eq_false member named⟩

end Disk

namespace Generation

open Disk (Built SameOutside)
open Package

variable {lookup : Compiler.Lookup} {run : Runner} {invocation : Invocation} {policy : Policy}
  {before after : Machine} {result : Except Failure Unit} {input : Path} {bytes : List UInt8}

/-- A directory that the path to the output leads to when directories were made on the way. -/
def OutputDirectory (before : Machine) (output : Path) (directory : Place) : Prop :=
  ∃ base, Built before.host.here output.parent before.disk base ∧
    base.Leads before.host.here output.parent directory

/-- A file is read as well without what lies at certain places. -/
def ReadsWithout (before : Machine) (input : Path) (tops : List Place) : Prop :=
  (tops.foldl Disk.eraseTree before.disk).readFile before.host.here input =
    before.disk.readFile before.host.here input

/-- What lies outside the places that changed is still there. -/
theorem Workspace.keeps_outside {here directory : Place} {output : Path} {number : Nat}
    {disk base now other : Disk}
    (workspace : Workspace here output disk base directory number now) (regular : output.IsRegular)
    {tops : List Place} (named : ∀ top ∈ tops, top ≠ [])
    (same : SameOutside (stagingPlace output number directory :: tops) base other) :
    (tops.foldl Disk.eraseTree disk).Keeps other := by
  intro place node found
  obtain ⟨there, apart⟩ := Disk.get?_foldl_eraseTree named found
  have inBase := workspace.built.keeps regular.parent place node there
  refine (same place fun top member => ?_).trans inBase
  rcases List.mem_cons.mp member with rfl | other
  · rintro ⟨rest, rfl⟩
    rw [stagingPlace, workspace.inside.baseTree.get?_under workspace.inside.free rest] at inBase
    cases inBase
  · exact apart top other

/-- The directory of a run's output. -/
theorem Workspace.outputDirectory {directory : Place} {output : Path} {number : Nat}
    {base now : Disk}
    (workspace : Workspace before.host.here output before.disk base directory number now) :
    OutputDirectory before output directory := ⟨base, workspace.built, workspace.inside.leads⟩

section Endings

variable (ending : Ending run invocation policy before result after)
  (regular : invocation.outputDirectory.IsRegular)
  (openWay : OpenWay before invocation.outputDirectory (lastNumber after))
  (read : before.disk.readFile before.host.here input = .ok bytes)

include ending regular openWay read

/-- A file that is found without the output is found after every run. -/
theorem Ending.readFile_apart (absolute : input.isAbsolute = true)
    (apart : ∀ directory, OutputDirectory before invocation.outputDirectory directory →
      ReadsWithout before input [outputPlace invocation.outputDirectory directory,
        previousPlace invocation.outputDirectory (lastNumber after) directory]) :
    after.disk.readFile before.host.here input = .ok bytes := by
  cases ending with
  | early _ _ built => exact Disk.Keeps.readFile (built.keeps regular.parent) absolute read
  | kept _ _ workspace same =>
    exact (workspace.keeps_outside regular (by simp) same).readFile absolute read
  | obstructed _ _ workspace taken occupied obstacle =>
    exact absurd (workspace.clear_of_openWay openWay taken occupied) obstacle
  | putBack _ _ workspace taken same =>
    rw [lastNumber_eq taken] at apart
    refine (workspace.keeps_outside regular (by simp [outputPlace, previousPlace])
      (same.mono ?_)).readFile absolute ((apart _ workspace.outputDirectory).trans read)
    simp
  | stranded _ _ workspace taken same | published _ workspace taken same =>
    rw [lastNumber_eq taken] at apart
    exact (workspace.keeps_outside regular (by simp [outputPlace, previousPlace])
      same).readFile absolute ((apart _ workspace.outputDirectory).trans read)

/-- A run that fails loses files at most with its output, when that could not be moved back. -/
theorem Ending.readFile_failed (absolute : input.isAbsolute = true) {failure : Failure}
    (failed : result = .error failure)
    (apart : ∀ directory, OutputDirectory before invocation.outputDirectory directory →
      ReadsWithout before input
        [previousPlace invocation.outputDirectory (lastNumber after) directory]) :
    after.disk.readFile before.host.here input = .ok bytes ∨
      after.calls .rename = before.calls .rename + 3 := by
  cases ending with
  | early _ _ built => exact .inl (Disk.Keeps.readFile (built.keeps regular.parent) absolute read)
  | kept _ _ workspace same =>
    exact .inl ((workspace.keeps_outside regular (by simp) same).readFile absolute read)
  | obstructed _ _ workspace taken occupied obstacle =>
    exact absurd (workspace.clear_of_openWay openWay taken occupied) obstacle
  | putBack _ _ workspace taken same =>
    rw [lastNumber_eq taken] at apart
    exact .inl ((workspace.keeps_outside regular (by simp [previousPlace]) same).readFile absolute
      ((apart _ workspace.outputDirectory).trans read))
  | stranded _ _ _ _ _ _ _ _ _ renames => exact .inr renames
  | published => cases failed

/-- A file below the output is found after a run that succeeds if the same file was emitted. -/
theorem Ending.readFile_below (outputAbsolute : invocation.outputDirectory.isAbsolute = true)
    (succeeded : result = .ok ()) {rest : List String}
    (below : input = invocation.outputDirectory.down rest) (named : ∀ each ∈ rest, IsName each) :
    ∃ schemas compiler emission, invocation.virtualPaths = .ok schemas ∧
      Emitted run (commandTo compiler invocation policy (lastNumber after))
        (stagingPath invocation.outputDirectory (lastNumber after)) emission ∧
        (after.disk.readFile before.host.here input = .ok bytes ↔
          ∃ mode,
            Tree.finish (modulesOf schemas) policy emission rest = some (.file bytes mode)) := by
  cases ending with
  | early | kept | putBack | stranded => cases succeeded
  | obstructed _ _ workspace taken occupied obstacle =>
    exact absurd (workspace.clear_of_openWay openWay taken occupied) obstacle
  | @published base directory number _ workspace taken _ leads isNamed _ isTree linkless schemas
      listed compiler emission emitted tree_eq =>
    rw [lastNumber_eq taken]
    have outputNamed : IsName invocation.outputDirectory.name := regular.isName isNamed
    have shape : input =
        invocation.outputDirectory.parent.down (invocation.outputDirectory.name :: rest) := by
      have split := invocation.outputDirectory.parent.down_down
        [invocation.outputDirectory.name] rest
      rw [invocation.outputDirectory.down_parent isNamed.1, ← below] at split
      exact split
    have start : after.disk.HasDirectory
        (Disk.startOf before.host.here invocation.outputDirectory.parent) := by
      rw [Disk.startOf_of_isAbsolute (show invocation.outputDirectory.parent.isAbsolute = true from
        outputAbsolute)]
      exact after.disk.hasDirectory_top
    have atPlace : after.disk.get? (outputPlace invocation.outputDirectory directory ++ rest) =
        Tree.finish (modulesOf schemas) policy emission rest := congrFun tree_eq rest
    refine ⟨schemas, compiler, emission, listed, emitted, fun kept => ?_, ?_⟩
    · obtain ⟨place, mode, located⟩ := Disk.locate_of_readFile kept
      rw [shape] at located
      obtain ⟨same, held⟩ := leads.locate_below isTree start linkless outputNamed named located
      refine ⟨mode, ?_⟩
      rw [← atPlace]
      have there : after.disk.get? place = some (.file bytes mode) := held
      rw [← there]
      exact congrArg after.disk.get? same.symm
    · rintro ⟨mode, there⟩
      rw [← atPlace] at there
      obtain ⟨short, shortNames⟩ := Disk.fits_of_readFile read
      rw [shape] at short shortNames ⊢
      rcases leads.nodeAt_below isTree linkless outputNamed named there with found | ⟨-, long⟩
      · unfold Disk.readFile
        rw [found]
      · rcases long with long | ⟨each, member, long⟩
        · exact absurd long short
        · have eachNamed : IsName each := by
            rcases List.mem_cons.mp member with rfl | later
            · exact outputNamed
            · exact named each later
          rw [shortNames each (List.mem_append_right _ member) eachNamed] at long
          cases long

end Endings

theorem input_kept_iff (quiet : Quiet lookup) (confined : ConfinedRunner run invocation policy)
    (validated : invocation.Validated) (isTree : before.disk.IsTree)
    (ran : (generate lookup run invocation policy).on before = (result, after))
    (openWay : OpenWay before invocation.outputDirectory (lastNumber after))
    (member : input ∈ invocation.inputFiles)
    (read : before.disk.readFile before.host.here input = .ok bytes) :
    ((∀ directory, OutputDirectory before invocation.outputDirectory directory →
        ReadsWithout before input [outputPlace invocation.outputDirectory directory,
          previousPlace invocation.outputDirectory (lastNumber after) directory]) →
      after.disk.readFile before.host.here input = .ok bytes) ∧
    (∀ failure, result = .error failure →
      (∀ directory, OutputDirectory before invocation.outputDirectory directory →
        ReadsWithout before input
          [previousPlace invocation.outputDirectory (lastNumber after) directory]) →
      after.disk.readFile before.host.here input = .ok bytes ∨
        after.calls .rename = before.calls .rename + 3) ∧
    (result = .ok () → ∀ rest, input = invocation.outputDirectory.down rest →
      (∀ each ∈ rest, IsName each) →
      ∃ schemas compiler emission, invocation.virtualPaths = .ok schemas ∧
        Emitted run (commandTo compiler invocation policy (lastNumber after))
          (stagingPath invocation.outputDirectory (lastNumber after)) emission ∧
        (after.disk.readFile before.host.here input = .ok bytes ↔
          ∃ mode, Tree.finish (modulesOf schemas) policy emission rest =
            some (.file bytes mode))) := by
  have regular := validated.isRegular
  have absolute := validated.isAbsolute_of_mem member
  have ending := ((generate_meets quiet confined regular validated.isAbsolute isTree).of_on ran).2
  refine ⟨ending.readFile_apart regular openWay read absolute, fun failure failed apart => ?_,
    fun succeeded rest below named => ?_⟩
  · exact ending.readFile_failed regular openWay read absolute failed apart
  · exact ending.readFile_below regular openWay read validated.isAbsolute succeeded below named

/-- Nothing keeps the output from being the include directory, and then the schema is gone. -/
theorem schema_lost_with_output :
    (generateOneSchema "/in" bare).1 = .ok () ∧
      bare.disk.readFile [] (Path.parse "/in/x.proto") = .ok [] ∧
        (generateOneSchema "/in" bare).2.disk.readFile [] (Path.parse "/in/x.proto") ≠ .ok [] := by
  have absolute : (oneSchema "/in").outputDirectory.isAbsolute = true := by decide +kernel
  have succeeded : (generateOneSchema "/in" bare).1 = .ok () := by decide +kernel
  have read : bare.disk.readFile [] (Path.parse "/in/x.proto") = .ok [] := by decide +kernel
  refine ⟨succeeded, read, ?_⟩
  obtain ⟨-, -, below⟩ := input_kept_iff quiet_foundInstalled
    (confined_writesBindings absolute .standard)
    (validated_oneSchema bare rfl (by decide +kernel)) (Disk.isTree_of_entries (by decide +kernel))
    (Action.on_eq succeeded) (fun base _ => unobstructed_of_top absolute (by decide +kernel) base)
    (List.mem_cons_self : Path.parse "/in/x.proto" ∈ (oneSchema "/in").inputFiles) read
  obtain ⟨schemas, compiler, emission, listed, emitted, kept⟩ :=
    below rfl ["x.proto"] (by decide +kernel) (by decide)
  have left := emitted_writerTo absolute (by decide) emitted
  refine fun same => ?_
  obtain ⟨mode, there⟩ := kept.mp same
  have finished := Tree.finish_ne_none_iff.mp (by rw [there]; exact Option.some_ne_none _)
  rw [left] at finished
  rcases finished with (top | buffers | ⟨name, -, package, -, marked⟩) | written
  · exact absurd top (by decide)
  · exact absurd buffers.2 (by decide)
  · have last := congrArg List.getLast? marked
    rw [List.getLast?_concat] at last
    exact absurd last (by decide)
  · exact absurd written (by decide)

end Generation

end Bindery
