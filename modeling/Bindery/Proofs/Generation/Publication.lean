/-
This file proves what putting a finished directory in the place of the output can come to.

The output is moved aside, the finished directory takes its place, and then the old output is
removed. When the finished directory cannot take the place, the old output is moved back. So
either the new output is there, or the old one is, or neither is and the old one lies untouched
where it was moved aside; in the last case three entries were to be moved, and a record says
where the old output is.
-/

import Bindery.Proofs.Disk.Changes
import Bindery.Proofs.Generation.Staging
import Bindery.Proofs.Text.Replaced

namespace Bindery

open Disk (Built SameOutside)
open Text

namespace Generation

/-! ### The name for output that is moved aside -/

/-- The name for output that is moved aside. -/
def previousName (output : Path) (number : Nat) : String :=
  String.ofList (replaceFirst stagingMark.toList previousMark.toList
    (stagingName output number).toList)

/-- The path that output is moved aside to. -/
def besidePath (output : Path) (number : Nat) : Path :=
  output.parent.down [previousName output number]

theorem previousPath_stagingPath (output : Path) (number : Nat) :
    previousPath (stagingPath output number) = besidePath output number := by
  have name : (stagingPath output number).name = stagingName output number :=
    List.getLastD_concat
  have front : (stagingPath output number).parts.dropLast = output.parent.parts :=
    List.dropLast_concat
  unfold previousPath Path.withName
  rw [name, front]
  rfl

/-- The names for the staging directory and for the output that is moved aside differ in the mark,
which lies at the same place in all of them. -/
theorem exists_marks (output : Path) : ∃ front back : List Char, ∀ number,
    (stagingName output number).toList =
        front ++ stagingMark.toList ++ (back ++ (Action.temporaryDigits number).toList) ∧
      (previousName output number).toList =
        front ++ previousMark.toList ++ (back ++ (Action.temporaryDigits number).toList) := by
  obtain ⟨front, back, shape, replaced⟩ := exists_replaceFirst previousMark.toList
    ("." ++ output.name).toList (show stagingMark.toList ≠ [] by decide)
  refine ⟨front, back, fun number => ?_⟩
  have whole : (stagingName output number).toList = ("." ++ output.name).toList ++
      stagingMark.toList ++ (Action.temporaryDigits number).toList := by
    simp only [stagingName, String.toList_append]
  constructor
  · rw [whole, shape, List.append_assoc]
  · rw [previousName, String.toList_ofList, whole, replaced, List.append_assoc]

theorem length_previousName (output : Path) (number : Nat) :
    (previousName output number).length = (stagingName output number).length + 1 := by
  obtain ⟨front, back, names⟩ := exists_marks output
  have marks : stagingMark.toList.length = 9 ∧ previousMark.toList.length = 10 := by decide
  rw [← String.length_toList, ← String.length_toList, (names number).1, (names number).2]
  simp only [List.length_append, marks.1, marks.2]
  omega

theorem length_stagingName (output : Path) (number : Nat) :
    output.name.length < (stagingName output number).length := by
  simp only [stagingName, String.length_append]
  have mark : stagingMark.length = 9 := rfl
  omega

theorem isName_previousName (output : Path) (number : Nat) :
    IsName (previousName output number) := by
  refine isName_of_length ?_
  rw [length_previousName]
  simp only [stagingName, String.length_append]
  have mark : stagingMark.length = 9 := rfl
  omega

/-- No name for a staging directory is a name for output that is moved aside. -/
theorem stagingName_ne_previousName (output : Path) (number other : Nat) :
    stagingName output number ≠ previousName output other := by
  obtain ⟨front, back, names⟩ := exists_marks output
  intro same
  have texts := congrArg String.toList same
  rw [(names number).1, (names other).2, List.append_assoc, List.append_assoc] at texts
  have marks := List.append_cancel_left texts
  simp [stagingMark, previousMark] at marks

/-- The three names beside each other are different. -/
theorem names_ne (output : Path) (number : Nat) :
    output.name ≠ stagingName output number ∧ output.name ≠ previousName output number ∧
      stagingName output number ≠ previousName output number := by
  have staging := length_stagingName output number
  have previous := length_previousName output number
  refine ⟨fun same => ?_, fun same => ?_, stagingName_ne_previousName output number number⟩
  · rw [← same] at staging
    omega
  · rw [← same] at previous
    omega

/-! ### The places that a publication is about -/

/-- The place of the output in a directory. -/
def outputPlace (output : Path) (directory : Place) : Place := directory ++ [output.name]

/-- The place of the staging directory. -/
def stagingPlace (output : Path) (number : Nat) (directory : Place) : Place :=
  directory ++ [stagingName output number]

/-- The place that output is moved aside to. -/
def previousPlace (output : Path) (number : Nat) (directory : Place) : Place :=
  directory ++ [previousName output number]

theorem outputPlace_ne_nil (output : Path) (directory : Place) :
    outputPlace output directory ≠ [] := by simp [outputPlace]

theorem stagingPlace_ne_nil (output : Path) (number : Nat) (directory : Place) :
    stagingPlace output number directory ≠ [] := by simp [stagingPlace]

theorem previousPlace_ne_nil (output : Path) (number : Nat) (directory : Place) :
    previousPlace output number directory ≠ [] := by simp [previousPlace]

variable {here directory : Place} {output : Path} {number : Nat} {before base disk : Disk}

/-- All places that a publication changes. -/
def places (output : Path) (number : Nat) (directory : Place) : List Place :=
  [stagingPlace output number directory, outputPlace output directory,
    previousPlace output number directory]

/-- The way to the output does not go through the name that output is moved aside to. -/
def Clear (here : Place) (output : Path) (number : Nat) (directory : Place) (disk : Disk) : Prop :=
  (disk.eraseTree (previousPlace output number directory)).Leads here output.parent directory

/-- Where the output's directory is found on two disks between which a publication takes place.
What lies below the output may be missing on the first one, but only if the path to the directory
does not need it. -/
theorem Workspace.carry (workspace : Workspace here output before base directory number disk)
    (absolute : output.isAbsolute = true) (clear : Clear here output number directory base)
    {middle other : Disk} (middleSame : SameOutside (places output number directory) disk middle)
    (otherSame : SameOutside (places output number directory) disk other)
    (atOutput : ∀ rest node, base.get? (outputPlace output directory ++ rest) = some node →
      middle.get? (outputPlace output directory ++ rest) = none ∨
        middle.get? (outputPlace output directory ++ rest) = some node ∧
          other.get? (outputPlace output directory ++ rest) = some node)
    {found : Place} (leads : middle.Leads here output.parent found) :
    found = directory ∧ other.Leads here output.parent directory := by
  have parentAbsolute : output.parent.isAbsolute = true := absolute
  refine Disk.Leads.carry parentAbsolute clear (fun place node there _ => ?_) leads
  have notPrevious : ¬ previousPlace output number directory <+: place := by
    intro under
    rw [Disk.get?_eraseTree_of_under base (previousPlace_ne_nil _ _ _) under] at there
    cases there
  rw [Disk.get?_eraseTree_of_not_under base notPrevious] at there
  by_cases atOrBelow : outputPlace output directory <+: place
  · obtain ⟨rest, rfl⟩ := atOrBelow
    exact atOutput rest node there
  · have beside : ∀ top ∈ places output number directory, ¬ top <+: place := by
      intro top member
      simp only [places, List.mem_cons, List.not_mem_nil, or_false] at member
      rcases member with rfl | rfl | rfl
      · rintro ⟨rest, rfl⟩
        rw [stagingPlace, workspace.inside.baseTree.get?_under workspace.inside.free rest] at there
        cases there
      · exact atOrBelow
      · exact notPrevious
    have inDisk := workspace.inside.keeps place node there
    rw [middleSame place beside, otherSame place beside]
    exact .inr ⟨inDisk, inDisk⟩

/-- The places of a publication are apart from each other. -/
theorem places_apart (output : Path) (number : Nat) (directory : Place) :
    (¬ outputPlace output directory <+: stagingPlace output number directory ∧
      ¬ stagingPlace output number directory <+: outputPlace output directory) ∧
    (¬ outputPlace output directory <+: previousPlace output number directory ∧
      ¬ previousPlace output number directory <+: outputPlace output directory) ∧
    (¬ stagingPlace output number directory <+: previousPlace output number directory ∧
      ¬ previousPlace output number directory <+: stagingPlace output number directory) := by
  obtain ⟨first, second, third⟩ := names_ne output number
  exact ⟨⟨Disk.not_prefix_of_ne first, Disk.not_prefix_of_ne first.symm⟩,
    ⟨Disk.not_prefix_of_ne second, Disk.not_prefix_of_ne second.symm⟩,
    ⟨Disk.not_prefix_of_ne third, Disk.not_prefix_of_ne third.symm⟩⟩

/-! ### Moving the output aside and the staging directory in -/

/-- An entry that a machine finds by a path lies in the directory that leads to it. -/
theorem exists_of_entry {machine : Machine} {parent : Path} {name : String} (named : IsName name)
    (isTree : machine.disk.IsTree) (absolute : parent.isAbsolute = true)
    (found : (Action.entry machine (parent.down [name])).isSome = true) :
    ∃ directory, machine.disk.Leads machine.host.here parent directory ∧
      machine.disk.get? (directory ++ [name]) ≠ none := by
  unfold Action.entry Disk.nodeAt at found
  split at found
  next => cases found
  next =>
    have start : machine.disk.HasDirectory (Disk.startOf machine.host.here parent) := by
      rw [Disk.startOf_of_isAbsolute absolute]
      exact machine.disk.hasDirectory_top
    split at found
    next place node located =>
      obtain ⟨directory, left, leads, way⟩ :=
        Disk.locate_down isTree start (List.cons_ne_nil _ _) located
      refine ⟨directory, leads, fun free => ?_⟩
      rw [leads.locate named, free] at located
      split at located
      · cases located
      · split at located <;> cases located
    all_goals cases found

/-- A name in a directory is free if no entry is found by a path that the system accepts. -/
theorem free_of_entry {machine : Machine} {parent : Path} {name : String} (named : IsName name)
    {directory : Place} (leads : machine.disk.Leads machine.host.here parent directory)
    (usable : Action.holdsNull (parent.down [name]) = false)
    (fits : Disk.Fits (parent.down [name]) name)
    (notFound : (Action.entry machine (parent.down [name])).isSome = false) :
    machine.disk.get? (directory ++ [name]) = none := by
  unfold Action.entry Disk.nodeAt at notFound
  rw [usable, if_neg (by simp), leads.locate named, if_neg fits.1, fits.2,
    if_neg (by simp)] at notFound
  cases found : machine.disk.get? (directory ++ [name]) with
  | none => rfl
  | some node =>
    rw [found] at notFound
    cases notFound

/-- The disk after the output was moved aside. -/
def asideDisk (output : Path) (number : Nat) (directory : Place) (disk : Disk) : Disk :=
  disk.moveTree (outputPlace output directory) (previousPlace output number directory)

/-- What moving the output aside and the staging directory in can come to. -/
inductive Swapped (output : Path) (number : Nat) (directory : Place) (machine : Machine) :
    Except Failure Unit → Machine → Prop
  /-- The output was not moved. -/
  | unmoved (failure : Failure) (after : Machine) (same : after.disk = machine.disk) :
    Swapped output number directory machine (.error failure) after
  /-- The output was moved aside, and the staging directory was not moved. -/
  | aside (code : Errno) (after : Machine)
    (moved : after.disk = asideDisk output number directory machine.disk)
    (usable : Action.holdsNull output = false ∧
      Action.holdsNull (besidePath output number) = false)
    (fits : Disk.Fits (besidePath output number) (previousName output number))
    (renames : after.calls .rename = machine.calls .rename + 2) :
    Swapped output number directory machine
      (.error (.system ⟨code, [(stagingPath output number).text, output.text]⟩)) after
  /-- Both were moved. -/
  | swapped (after : Machine)
    (moved : after.disk = (asideDisk output number directory machine.disk).moveTree
      (stagingPlace output number directory) (outputPlace output directory))
    (usable : Action.holdsNull (besidePath output number) = false)
    (leads : (asideDisk output number directory machine.disk).Leads machine.host.here
      output.parent directory)
    (fits : Disk.Fits output output.name)
    (there : machine.disk.get? (stagingPlace output number directory) ≠ none) :
    Swapped output number directory machine (.ok ()) after

theorem asideDisk_sameOutside (output : Path) (number : Nat) (directory : Place) (disk : Disk) :
    SameOutside (places output number directory) disk
      (asideDisk output number directory disk) :=
  (Disk.sameOutside_moveTree disk _ _).mono (by simp [places])

/-- Moving the output aside leaves the staging directory as it was. -/
theorem tree_asideDisk_staging (output : Path) (number : Nat) (directory : Place) (disk : Disk) :
    (asideDisk output number directory disk).tree (stagingPlace output number directory) =
      disk.tree (stagingPlace output number directory) := by
  obtain ⟨apartStaging, -, apartPrevious⟩ := places_apart output number directory
  refine (Disk.sameOutside_moveTree disk _ _).tree_eq fun top member => ?_
  simp only [List.mem_cons, List.not_mem_nil, or_false] at member
  rcases member with rfl | rfl
  · exact apartStaging
  · exact apartPrevious.symm

theorem get?_asideDisk_output (output : Path) (number : Nat) (directory : Place) (disk : Disk) :
    (asideDisk output number directory disk).get? (outputPlace output directory) = none :=
  have apart := (places_apart output number directory).2.1
  Disk.get?_moveTree_gone disk (outputPlace_ne_nil _ _) apart.2 apart.1

/-- When the output was moved aside, its directory is found where it was or not at all, and if it
is found then also after whatever is done to the output. -/
theorem Workspace.leads_aside (workspace : Workspace here output before base directory number disk)
    (absolute : output.isAbsolute = true) (clear : Clear here output number directory base)
    {found : Place}
    (leads : (asideDisk output number directory disk).Leads here output.parent found) :
    found = directory ∧ ∀ other, SameOutside (places output number directory) disk other →
      other.Leads here output.parent directory := by
  have apart := (places_apart output number directory).2.1
  have carried : ∀ other, SameOutside (places output number directory) disk other →
      found = directory ∧ other.Leads here output.parent directory := fun other otherSame =>
    workspace.carry absolute clear (asideDisk_sameOutside output number directory disk) otherSame
      (fun rest node _ => .inl (Disk.get?_moveTree_old disk (outputPlace_ne_nil _ _) apart.2
        apart.1 rest)) leads
  exact ⟨(carried disk (.refl _ _)).1, fun other otherSame => (carried other otherSame).2⟩

/-- The directory of the output is found whatever becomes of the output, if the way there goes
neither through it nor through the name that it is moved aside to. -/
theorem Workspace.leads_beside {now other : Disk}
    (workspace : Workspace here output before base directory number now)
    (absolute : output.isAbsolute = true) (clear : Clear here output number directory base)
    (apart : (base.eraseTree (outputPlace output directory)).Leads here output.parent directory)
    (same : SameOutside (places output number directory) base other) :
    other.Leads here output.parent directory := by
  have parentAbsolute : output.parent.isAbsolute = true := absolute
  refine (apart.carry parentAbsolute (fun place node there _ => ?_) clear).2
  have notOutput : ¬ outputPlace output directory <+: place := by
    intro under
    rw [Disk.get?_eraseTree_of_under base (outputPlace_ne_nil _ _) under] at there
    cases there
  rw [Disk.get?_eraseTree_of_not_under base notOutput] at there
  by_cases under : previousPlace output number directory <+: place
  · exact .inl (Disk.get?_eraseTree_of_under base (previousPlace_ne_nil _ _ _) under)
  · refine .inr ⟨(Disk.get?_eraseTree_of_not_under base under).trans there, ?_⟩
    refine (same place fun top member => ?_).trans there
    simp only [places, List.mem_cons, List.not_mem_nil, or_false] at member
    rcases member with rfl | rfl | rfl
    · rintro ⟨rest, rfl⟩
      rw [stagingPlace, workspace.inside.baseTree.get?_under workspace.inside.free rest] at there
      cases there
    · exact notOutput
    · exact under

theorem swap_meets {machine : Machine}
    (workspace : Workspace machine.host.here output before base directory number machine.disk)
    (absolute : output.isAbsolute = true) (named : IsName output.name)
    (some : output.parts ≠ []) (clear : Clear machine.host.here output number directory base)
    (usable : Action.holdsNull (stagingPath output number) = false) :
    (do
      Action.rename output (besidePath output number)
      Action.rename (stagingPath output number) output : Action Unit).Meets machine
      fun result after => machine.Onward after ∧ after.nextTemporary = machine.nextTemporary ∧
        Swapped output number directory machine result after := by
  have shape : output.parent.down [output.name] = output := output.down_parent some
  have previousNamed := isName_previousName output number
  obtain ⟨notStaging, notPrevious, -⟩ := names_ne output number
  refine (Action.attempt_meets .rename _ _ machine).bind ?_ ?_
  · intro _ between ended
    obtain ⟨onward, temporary⟩ := ended.onward
    cases ended with
    | done disk usableBoth worked =>
      have moved : machine.disk.rename machine.host.here (output.parent.down [output.name])
          (besidePath output number) = .ok disk := by
        rw [shape]
        exact worked
      obtain ⟨found, mover, leads, previousFits, -, -, rfl⟩ :=
        Disk.rename_down named previousNamed notPrevious moved
      cases (workspace.inside.leadsNow absolute).unique leads
      have outputUsable : Action.holdsNull output = false ∧
          Action.holdsNull (besidePath output number) = false := by
        simpa using usableBoth
      refine (Action.attempt_meets .rename _ _ _).mono fun result after again => ?_
      obtain ⟨onwardAgain, temporaryAgain⟩ := again.onward
      refine ⟨onward.trans onwardAgain, temporaryAgain.trans temporary, ?_⟩
      cases again with
      | refused code =>
        exact .aside code _ rfl outputUsable previousFits (by simp)
      | unusable null => simp [usable, outputUsable.1] at null
      | done disk usableAgain workedAgain =>
        have movedIn : (asideDisk output number directory machine.disk).rename machine.host.here
            (output.parent.down [stagingName output number])
            (output.parent.down [output.name]) = .ok disk := by
          rw [shape]
          exact workedAgain
        -- Once the output is aside the path might lead to another directory.
        obtain ⟨found, mover, leadsAside, fits, there, -, rfl⟩ :=
          Disk.rename_down (isName_stagingName output number) named notStaging.symm movedIn
        obtain ⟨same, -⟩ := workspace.leads_aside absolute clear leadsAside
        cases same
        rw [shape] at fits
        refine .swapped _ rfl outputUsable.2 leadsAside fits ?_
        have atTop := congrFun (tree_asideDisk_staging output number directory machine.disk) []
        rw [Disk.tree, Disk.tree, List.append_nil] at atTop
        rw [← atTop]
        exact fun absent => by cases there.symm.trans absent
  · intro failure between ended
    obtain ⟨onward, temporary⟩ := ended.onward
    refine ⟨onward, temporary, ?_⟩
    cases ended with
    | refused | unusable => exact .unmoved _ _ rfl

/-! ### Putting the output back, and removing it -/

/-- What a record says about output that could not be put back. -/
def strandedMessage (output : Path) (number : Nat) : String :=
  "Could not restore " ++ output.text ++ "; previous bindings are in " ++
    (besidePath output number).text

theorem Workspace.hasDirectory
    (workspace : Workspace here output before base directory number disk)
    (absolute : output.isAbsolute = true) : disk.HasDirectory directory := by
  have parentAbsolute : output.parent.isAbsolute = true := absolute
  refine (workspace.inside.leadsNow parentAbsolute).hasDirectory workspace.inside.isTree ?_
  rw [Disk.startOf_of_isAbsolute parentAbsolute]
  exact disk.hasDirectory_top

theorem Workspace.isTree_aside
    (workspace : Workspace here output before base directory number disk)
    (absolute : output.isAbsolute = true) :
    (asideDisk output number directory disk).IsTree := by
  have apart := (places_apart output number directory).2.1
  refine workspace.inside.isTree.moveTree (outputPlace_ne_nil _ _)
    (previousPlace_ne_nil _ _ _) apart.2 apart.1 ?_
  rw [previousPlace, List.dropLast_concat]
  exact workspace.hasDirectory absolute

/-- A directory of the output's names stays one while these change. -/
theorem Workspace.hasDirectory_of_sameOutside
    (workspace : Workspace here output before base directory number disk)
    (absolute : output.isAbsolute = true) {other : Disk}
    (same : SameOutside (places output number directory) disk other) :
    other.HasDirectory directory := by
  refine (workspace.hasDirectory absolute).of_eq (same directory fun top member => ?_)
  simp only [places, List.mem_cons, List.not_mem_nil, or_false] at member
  rcases member with rfl | rfl | rfl <;> exact Disk.not_prefix_directory

/-- The disk after the output was moved aside and back. -/
def restoredDisk (output : Path) (number : Nat) (directory : Place) (disk : Disk) : Disk :=
  (asideDisk output number directory disk).moveTree (previousPlace output number directory)
    (outputPlace output directory)

/-- Moving the output aside and back changes nothing but the place where it was moved. -/
theorem restoredDisk_sameOutside (output : Path) (number : Nat) (directory : Place) (disk : Disk) :
    SameOutside [previousPlace output number directory] disk
      (restoredDisk output number directory disk) := by
  have outputNamed := outputPlace_ne_nil output directory
  have previousNamed := previousPlace_ne_nil output number directory
  intro place beside
  have notPrevious := beside _ List.mem_cons_self
  by_cases under : outputPlace output directory <+: place
  · obtain ⟨rest, rfl⟩ := under
    rw [restoredDisk, Disk.get?_moveTree_new _ previousNamed outputNamed, asideDisk,
      Disk.get?_moveTree_new _ outputNamed previousNamed]
  · rw [restoredDisk, Disk.get?_moveTree_of_not_under _ notPrevious under, asideDisk,
      Disk.get?_moveTree_of_not_under _ under notPrevious]

theorem get?_restoredDisk_previous (output : Path) (number : Nat) (directory : Place)
    (disk : Disk) :
    (restoredDisk output number directory disk).get? (previousPlace output number directory) =
      none :=
  have apart := (places_apart output number directory).2.1
  Disk.get?_moveTree_gone _ (previousPlace_ne_nil _ _ _) apart.1 apart.2

/-- Putting the output back works, or it stays where it was moved aside and a record says so. -/
theorem restore_meets {machine : Machine}
    (workspace : Workspace machine.host.here output before base directory number disk)
    (aside : machine.disk = asideDisk output number directory disk)
    (absolute : output.isAbsolute = true) (named : IsName output.name)
    (some : output.parts ≠ []) (clear : Clear machine.host.here output number directory base)
    (usable : Action.holdsNull output = false ∧
      Action.holdsNull (besidePath output number) = false) :
    (restore output (besidePath output number)).Meets machine
      fun result after => result = .ok () ∧ machine.Onward after ∧
        after.nextTemporary = machine.nextTemporary ∧
          (after.disk = restoredDisk output number directory disk ∨
            after.disk = machine.disk ∧ after.calls .rename = machine.calls .rename + 1 ∧
              (machine.host.level.deciding ≤ Log.Level.error →
                .logged Log.Level.error (.text (strandedMessage output number)) ∈
                  after.journal)) := by
  have shape : output.parent.down [output.name] = output := output.down_parent some
  have parentAbsolute : output.parent.isAbsolute = true := absolute
  have previousNamed := isName_previousName output number
  obtain ⟨-, notPrevious, -⟩ := names_ne output number
  have vacant : (Action.entry machine output).isNone = true := by
    rw [Option.isNone_iff_eq_none, ← Option.not_isSome_iff_eq_none]
    intro found
    rw [← shape] at found
    obtain ⟨place, leads, there⟩ := exists_of_entry named
      (aside ▸ workspace.isTree_aside absolute) parentAbsolute found
    rw [aside] at leads there
    obtain ⟨same, -⟩ := workspace.leads_aside absolute clear leads
    subst same
    exact there (get?_asideDisk_output output number place disk)
  unfold restore
  rw [Action.meets_entryAt?_bind, vacant, if_pos rfl]
  refine (Action.attempt_meets .rename _ _ machine).outcome_bind fun result between ended => ?_
  obtain ⟨onward, temporary⟩ := ended.onward
  cases ended with
  | refused code =>
    refine (Action.log_meets Log.Level.error _ _).mono ?_
    rintro result after ⟨rfl, follows, same, recorded⟩
    refine ⟨rfl, onward.trans follows.toOnward, follows.temporary.trans temporary, .inr ⟨same, ?_,
      recorded⟩⟩
    rw [follows.renames]
    simp
  | unusable null => simp [usable.1, usable.2] at null
  | done disk' usableAgain worked =>
    have moved : (asideDisk output number directory disk).rename machine.host.here
        (besidePath output number)
        (output.parent.down [output.name]) = .ok disk' := by
      rw [shape, ← aside]
      exact worked
    obtain ⟨found, mover, leads, -, -, -, rfl⟩ :=
      Disk.rename_down previousNamed named notPrevious.symm moved
    obtain ⟨same, -⟩ := workspace.leads_aside absolute clear leads
    subst same
    exact ⟨rfl, onward, temporary, .inl rfl⟩

/-- What a record says about output that was moved aside and could not be removed. -/
def keptMessage (path : Path) (reason : String) : String :=
  "Could not remove old bindings at " ++ path.text ++ ": " ++ reason

/-- A record says that a path could not be removed, unless warnings are not logged. -/
def WarnedOf (path : Path) (before after : Machine) : Prop :=
  before.host.level.deciding ≤ Log.Level.warning →
    ∃ reason, .logged Log.Level.warning (.text (keptMessage path reason)) ∈ after.journal

/-- Output that was moved aside is removed by one of two calls, or the system refuses to say which
one is the right one. -/
theorem removePrevious_cases (previous : Path) (machine : Machine) :
    (∃ fault, (removePrevious previous).on machine = (.error (.system fault), machine)) ∨
      (removePrevious previous).on machine = (Action.unlink previous).on machine ∨
      (removePrevious previous).on machine = (Action.removeTree previous).on machine := by
  unfold removePrevious
  rw [Action.on_bind, Action.on_isDirectory]
  cases asked : Action.answer machine previous with
  | error failure =>
    obtain ⟨code, -, rfl, -⟩ := Action.answer_eq_error asked
    exact .inl ⟨_, rfl⟩
  | ok found =>
    dsimp only [Except.map]
    split
    next =>
      rw [Action.on_bind, Action.on_isLink]
      cases askedAgain : Action.answer machine previous false with
      | error failure =>
        obtain ⟨code, -, rfl, -⟩ := Action.answer_eq_error askedAgain
        exact .inl ⟨_, rfl⟩
      | ok itself =>
        dsimp only [Except.map]
        split
        next => exact .inr (.inl rfl)
        next => exact .inr (.inr rfl)
    next => exact .inr (.inl rfl)

/-- What holds of both calls, and of a refusal that changes nothing, holds of the removal of output
that was moved aside. -/
theorem removePrevious_meets {previous : Path} {machine : Machine}
    {condition : Except Failure Unit → Machine → Prop}
    (refused : ∀ fault, condition (.error (.system fault)) machine)
    (unlinked : (Action.unlink previous).Meets machine condition)
    (removed : (Action.removeTree previous).Meets machine condition) :
    (removePrevious previous).Meets machine condition := by
  unfold Action.Meets at unlinked removed ⊢
  rcases removePrevious_cases previous machine with ⟨fault, same⟩ | same | same
  · rw [same]
    exact refused fault
  · rw [same]
    exact unlinked
  · rw [same]
    exact removed

/-- Removing output that was moved aside never fails, and changes nothing else. If it stays, a
record says so. -/
theorem dropPrevious_meets {machine : Machine} {parent : Path} {name : String}
    (named : IsName name) (isTree : machine.disk.IsTree) (absolute : parent.isAbsolute = true)
    (leads : machine.disk.Leads machine.host.here parent directory)
    (usable : Action.holdsNull (parent.down [name]) = false) :
    (dropPrevious (parent.down [name])).Meets machine fun result after =>
      result = .ok () ∧ machine.Follows after ∧ after.disk.IsTree ∧
        SameOutside [directory ++ [name]] machine.disk after.disk ∧
          (after.disk.get? (directory ++ [name]) = none ∨
            WarnedOf (parent.down [name]) machine after) := by
  have start : machine.disk.HasDirectory (Disk.startOf machine.host.here parent) := by
    rw [Disk.startOf_of_isAbsolute absolute]
    exact machine.disk.hasDirectory_top
  have removal : (removePrevious (parent.down [name])).Meets machine fun result after =>
        (result = .ok () ∧ after.disk.get? (directory ++ [name]) = none ∨
            ∃ fault, result = .error (.system fault)) ∧
          machine.Follows after ∧ after.disk.IsTree ∧
            SameOutside [directory ++ [name]] machine.disk after.disk := by
    refine removePrevious_meets (fun fault => ⟨.inr ⟨fault, rfl⟩, .refl machine, isTree, .refl _ _⟩)
      ((Action.attempt_meets .unlink _ _ machine).mono fun result after ended => ?_)
      ((Action.attempt_meets .removeTree _ _ machine).mono fun result after ended => ?_)
    · have follows := ended.follows (by decide)
      cases ended with
      | refused code => exact ⟨.inr ⟨_, rfl⟩, follows, isTree, .refl _ _⟩
      | unusable null => simp [usable] at null
      | done disk _ worked =>
        obtain ⟨found, leadsFound, notDirectory, rfl⟩ := Disk.unlink_down named worked
        cases leads.unique leadsFound
        exact ⟨.inl ⟨rfl, Disk.get?_erase_self _ (by simp)⟩, follows,
          isTree.erase (by simp) notDirectory, Disk.sameOutside_erase machine.disk _⟩
    · have follows := ended.follows (by decide)
      cases ended with
      | refused code => exact ⟨.inr ⟨_, rfl⟩, follows, isTree, .refl _ _⟩
      | unusable null => simp [usable] at null
      | done disk _ worked =>
        obtain ⟨found, leadsFound, rfl⟩ := Disk.removeTree_down isTree start named worked
        cases leads.unique leadsFound
        exact ⟨.inl ⟨rfl, Disk.get?_eraseTree_of_under _ (by simp) List.prefix_rfl⟩, follows,
          isTree.eraseTree (by simp), Disk.sameOutside_eraseTree machine.disk _⟩
  unfold dropPrevious
  refine removal.outcome_bind ?_
  rintro result between ⟨⟨rfl, gone⟩ | ⟨fault, rfl⟩, follows, isTreeAfter, same⟩
  · exact ⟨rfl, follows, isTreeAfter, same, .inl gone⟩
  · refine (Action.log_meets _ _ _).mono ?_
    rintro result after ⟨rfl, followsOn, sameDisk, recorded⟩
    rw [sameDisk]
    refine ⟨rfl, follows.trans followsOn, isTreeAfter, same, .inr fun high => ?_⟩
    rw [← follows.host] at high
    exact ⟨_, recorded high⟩

/-! ### Publication -/

/-- How putting a staging directory in the place of the output can end. -/
inductive Publication (output : Path) (number : Nat) (directory : Place) (machine : Machine) :
    Except Failure Unit → Machine → Prop
  /-- The output was not moved. -/
  | unchanged (failure : Failure) (after : Machine) (same : after.disk = machine.disk) :
    Publication output number directory machine (.error failure) after
  /-- The output was moved aside and back. -/
  | restored (failure : Failure) (after : Machine) (isTree : after.disk.IsTree)
    (occupied : (Action.entry machine output).isSome = true)
    (same : SameOutside [previousPlace output number directory] machine.disk after.disk)
    (dropped : after.disk.get? (previousPlace output number directory) = none) :
    Publication output number directory machine (.error failure) after
  /-- The output could be moved aside, but neither could the staging directory be moved to its
  place nor the output be moved back. -/
  | stranded (code : Errno) (after : Machine)
    (aside : after.disk = asideDisk output number directory machine.disk)
    (occupied : (Action.entry machine output).isSome = true)
    (fits : Disk.Fits (besidePath output number) (previousName output number))
    (renames : after.calls .rename = machine.calls .rename + 3)
    (recorded : machine.host.level.deciding ≤ Log.Level.error →
      .logged Log.Level.error (.text (strandedMessage output number)) ∈ after.journal) :
    Publication output number directory machine
      (.error (.generation (.outputWrite output
        ⟨code, [(stagingPath output number).text, output.text]⟩))) after
  /-- The staging directory is in the place of the output. -/
  | published (after : Machine) (isTree : after.disk.IsTree)
    (same : SameOutside (places output number directory) machine.disk after.disk)
    (tree_eq : after.disk.tree (outputPlace output directory) =
      machine.disk.tree (stagingPlace output number directory))
    (gone : after.disk.get? (stagingPlace output number directory) = none)
    (leads : after.disk.Leads machine.host.here output.parent directory)
    (entry : after.disk.entryAt machine.host.here output =
      some (after.disk.tree (outputPlace output directory)))
    (dropped : machine.disk.get? (previousPlace output number directory) = none →
      after.disk.get? (previousPlace output number directory) = none ∨
        WarnedOf (besidePath output number) machine after) :
    Publication output number directory machine (.ok ()) after

/-- The entry of output whose directory is found. -/
theorem entryAt_output (some : output.parts ≠ []) (named : IsName output.name)
    (leads : disk.Leads here output.parent directory) (fits : Disk.Fits output output.name)
    (there : disk.get? (outputPlace output directory) ≠ none) :
    disk.entryAt here output = .some (disk.tree (outputPlace output directory)) := by
  have found := leads.entryAt named
  rw [output.down_parent some] at found
  rw [found, if_neg]
  · rfl
  · rintro (long | long | absent)
    · exact fits.1 long
    · rw [fits.2] at long
      cases long
    · exact there absent

/-- A tree that was moved has the same top. -/
theorem ne_none_of_tree_eq {other : Disk} {place otherPlace : Place}
    (same : other.tree otherPlace = disk.tree place) (there : disk.get? place ≠ none) :
    other.get? otherPlace ≠ none := by
  have atTop := congrFun same []
  rw [Disk.tree, Disk.tree, List.append_nil, List.append_nil] at atTop
  rwa [atTop]

theorem Workspace.isTree_restored
    (workspace : Workspace here output before base directory number disk)
    (absolute : output.isAbsolute = true) :
    (restoredDisk output number directory disk).IsTree := by
  have apart := (places_apart output number directory).2.1
  refine (workspace.isTree_aside absolute).moveTree (previousPlace_ne_nil _ _ _)
    (outputPlace_ne_nil _ _) apart.1 apart.2 ?_
  rw [outputPlace, List.dropLast_concat]
  exact workspace.hasDirectory_of_sameOutside absolute
    (asideDisk_sameOutside output number directory disk)

/-- The disk after the staging directory took the place of output that was moved aside. -/
theorem Workspace.isTree_swapped
    (workspace : Workspace here output before base directory number disk)
    (absolute : output.isAbsolute = true) {other : Disk} (isTree : other.IsTree)
    (same : SameOutside (places output number directory) disk other) :
    (other.moveTree (stagingPlace output number directory)
      (outputPlace output directory)).IsTree := by
  have apart := (places_apart output number directory).1
  refine isTree.moveTree (stagingPlace_ne_nil _ _ _) (outputPlace_ne_nil _ _) apart.1 apart.2 ?_
  rw [outputPlace, List.dropLast_concat]
  exact workspace.hasDirectory_of_sameOutside absolute same

/-- Where there is no output, the staging directory takes its place or stays. -/
theorem publish_vacant_meets {machine : Machine}
    (workspace : Workspace machine.host.here output before base directory number machine.disk)
    (absolute : output.isAbsolute = true) (named : IsName output.name)
    (some : output.parts ≠ [])
    (vacant : (Action.entry machine output).isSome = false) :
    (Action.rename (stagingPath output number) output).Meets machine fun result after =>
      machine.Onward after ∧ after.nextTemporary = machine.nextTemporary ∧
        Publication output number directory machine result after := by
  have shape : output.parent.down [output.name] = output := output.down_parent some
  have parentAbsolute : output.parent.isAbsolute = true := absolute
  have isTree := workspace.inside.isTree
  obtain ⟨notStaging, -, -⟩ := names_ne output number
  have leads := workspace.inside.leadsNow parentAbsolute
  refine (Action.attempt_meets .rename _ _ machine).mono fun result after ended => ?_
  obtain ⟨onward, temporary⟩ := ended.onward
  refine ⟨onward, temporary, ?_⟩
  cases ended with
  | refused | unusable => exact .unchanged _ _ rfl
  | done disk usableBoth worked =>
    have moved : machine.disk.rename machine.host.here
        (output.parent.down [stagingName output number])
        (output.parent.down [output.name]) = .ok disk := by
      rw [shape]
      exact worked
    obtain ⟨found, mover, leadsFound, fits, there, -, rfl⟩ :=
      Disk.rename_down (isName_stagingName output number) named notStaging.symm moved
    cases leads.unique leadsFound
    have usable : Action.holdsNull (output.parent.down [output.name]) = false := by
      rw [shape]
      simpa using (Bool.or_eq_false_iff.mp usableBoth).2
    rw [← shape] at vacant
    have free := free_of_entry named leads usable fits vacant
    have moveOnly := Disk.sameOutside_moveTree machine.disk
      (stagingPlace output number directory) (outputPlace output directory)
    have tree_eq := Disk.tree_moveTree machine.disk (stagingPlace_ne_nil output number directory)
      (outputPlace_ne_nil output directory)
    have leadsAfter : (machine.disk.moveTree (stagingPlace output number directory)
        (outputPlace output directory)).Leads machine.host.here output.parent directory := by
      refine workspace.inside.leads.keep parentAbsolute fun place node there _ => ?_
      have inDisk := workspace.inside.keeps place node there
      refine (moveOnly place fun top member => ?_).trans inDisk
      simp only [List.mem_cons, List.not_mem_nil, or_false] at member
      rcases member with rfl | rfl
      · rintro ⟨rest, rfl⟩
        rw [stagingPlace, workspace.inside.baseTree.get?_under workspace.inside.free rest] at there
        cases there
      · rintro ⟨rest, rfl⟩
        rw [outputPlace, isTree.get?_under free rest] at inDisk
        cases inDisk
    refine .published _ (workspace.isTree_swapped absolute isTree (.refl _ _))
      (moveOnly.mono (by simp [places])) tree_eq ?_ leadsAfter ?_ fun absent => .inl ?_
    · have apart := (places_apart output number directory).1
      exact Disk.get?_moveTree_gone machine.disk (stagingPlace_ne_nil _ _ _) apart.1 apart.2
    · rw [shape] at fits
      refine entryAt_output some named leadsAfter fits (ne_none_of_tree_eq tree_eq ?_)
      exact fun absent => by cases there.symm.trans absent
    · obtain ⟨-, apartPrevious, apartBoth⟩ := places_apart output number directory
      rw [← absent]
      exact Disk.get?_moveTree_of_not_under machine.disk apartBoth.1 apartPrevious.1

/-- An entry that is found while a run is at work was found when its directories had been made. -/
theorem Workspace.entryAt_isSome {machine : Machine}
    (workspace : Workspace machine.host.here output before base directory number machine.disk)
    (absolute : output.isAbsolute = true) (named : IsName output.name) (some : output.parts ≠ [])
    (occupied : (Action.entry machine output).isSome = true) :
    (base.entryAt machine.host.here output).isSome = true := by
  have parentAbsolute : output.parent.isAbsolute = true := absolute
  have tree_eq : machine.disk.tree (directory ++ [output.name]) =
      base.tree (directory ++ [output.name]) := by
    have same : SameOutside [stagingPlace output number directory] base machine.disk :=
      fun place beside => workspace.inside.outside place (beside _ List.mem_cons_self)
    refine same.tree_eq fun top member => ?_
    rw [List.mem_singleton.mp member]
    exact (places_apart output number directory).1.symm
  have entries := workspace.inside.leads.entryAt_eq (workspace.inside.leadsNow parentAbsolute) named
    tree_eq
  rw [output.down_parent some] at entries
  rw [← entries, Disk.entryAt_isSome_iff]
  unfold Action.entry at occupied
  split at occupied
  next => cases occupied
  next => exact occupied

/-- What follows when the output was moved aside and the staging directory could not be moved. -/
theorem publish_aside_meets {machine between : Machine}
    (workspace : Workspace machine.host.here output before base directory number machine.disk)
    (absolute : output.isAbsolute = true) (named : IsName output.name)
    (some : output.parts ≠ []) (clear : Clear machine.host.here output number directory base)
    (occupied : (Action.entry machine output).isSome = true) (onward : machine.Onward between)
    (temporary : between.nextTemporary = machine.nextTemporary)
    (moved : between.disk = asideDisk output number directory machine.disk)
    (usable : Action.holdsNull output = false ∧
      Action.holdsNull (besidePath output number) = false)
    (fits : Disk.Fits (besidePath output number) (previousName output number))
    (renames : between.calls .rename = machine.calls .rename + 2) {code : Errno} :
    (do
      restore output (besidePath output number)
      throw (.generation (.outputWrite output
        ⟨code, [(stagingPath output number).text, output.text]⟩)) : Action Unit).Meets between
      fun result after => machine.Onward after ∧ after.nextTemporary = machine.nextTemporary ∧
        Publication output number directory machine result after := by
  have placeThere : between.host.here = machine.host.here := by rw [onward.host]
  rw [← placeThere] at workspace clear
  refine (restore_meets workspace moved absolute named some clear usable).bind ?_ ?_
  · rintro _ after ⟨-, onwardAgain, temporaryAgain, ended⟩
    rw [Action.meets_throw]
    refine ⟨onward.trans onwardAgain, temporaryAgain.trans temporary, ?_⟩
    rcases ended with restored | ⟨same, renamesAgain, recorded⟩
    · refine .restored _ _ ?_ occupied ?_ ?_
      · rw [restored]
        exact workspace.isTree_restored absolute
      · rw [restored]
        exact restoredDisk_sameOutside output number directory machine.disk
      · rw [restored]
        exact get?_restoredDisk_previous output number directory machine.disk
    · refine .stranded code _ (same.trans moved) occupied fits ?_ ?_
      · rw [renamesAgain, renames]
      · rw [onward.host] at recorded
        exact recorded
  · rintro failure after ⟨impossible, -⟩
    cases impossible

/-- What follows when the output was moved aside and the staging directory to its place. -/
theorem publish_swapped_meets {machine between : Machine}
    (workspace : Workspace machine.host.here output before base directory number machine.disk)
    (absolute : output.isAbsolute = true) (named : IsName output.name)
    (some : output.parts ≠ []) (clear : Clear machine.host.here output number directory base)
    (onward : machine.Onward between) (temporary : between.nextTemporary = machine.nextTemporary)
    (moved : between.disk = (asideDisk output number directory machine.disk).moveTree
      (stagingPlace output number directory) (outputPlace output directory))
    (usable : Action.holdsNull (besidePath output number) = false)
    (leads : (asideDisk output number directory machine.disk).Leads machine.host.here
      output.parent directory)
    (fits : Disk.Fits output output.name)
    (there : machine.disk.get? (stagingPlace output number directory) ≠ none) :
    (dropPrevious (besidePath output number)).Meets between fun result after =>
      machine.Onward after ∧ after.nextTemporary = machine.nextTemporary ∧
        Publication output number directory machine result after := by
  obtain ⟨apartStaging, apartPrevious, apartBoth⟩ := places_apart output number directory
  have aside := asideDisk_sameOutside output number directory machine.disk
  have swappedSame : SameOutside (places output number directory) machine.disk between.disk := by
    rw [moved]
    exact aside.trans ((Disk.sameOutside_moveTree _ _ _).mono (by simp [places]))
  have swappedTree : between.disk.IsTree := by
    rw [moved]
    exact workspace.isTree_swapped absolute (workspace.isTree_aside absolute) aside
  obtain ⟨-, leadsAfter⟩ := workspace.leads_aside absolute clear leads
  have leadsHere : between.disk.Leads between.host.here output.parent directory := by
    rw [onward.host]
    exact leadsAfter _ swappedSame
  have parentAbsolute : output.parent.isAbsolute = true := absolute
  refine (dropPrevious_meets (isName_previousName output number) swappedTree parentAbsolute
    leadsHere usable).mono ?_
  rintro result after ⟨rfl, follows, isTreeAfter, same, dropped⟩
  have onlyPrevious : ∀ {place}, (¬ previousPlace output number directory <+: place) →
      ∀ top ∈ [previousPlace output number directory], ¬ top <+: place := by
    intro place notUnder top member
    rwa [List.mem_singleton.mp member]
  have sameAfter : SameOutside (places output number directory) machine.disk after.disk :=
    swappedSame.trans (same.mono (by simp [places, previousPlace]))
  have tree_eq : after.disk.tree (outputPlace output directory) =
      machine.disk.tree (stagingPlace output number directory) := by
    have untouched := same.tree_eq fun top member => by
      rw [List.mem_singleton.mp member]
      exact apartPrevious.symm
    rw [untouched, moved, ← tree_asideDisk_staging output number directory]
    exact Disk.tree_moveTree _ (stagingPlace_ne_nil _ _ _) (outputPlace_ne_nil _ _)
  have gone : after.disk.get? (stagingPlace output number directory) = none := by
    rw [same _ (onlyPrevious apartBoth.2), moved]
    exact Disk.get?_moveTree_gone _ (stagingPlace_ne_nil _ _ _) apartStaging.1 apartStaging.2
  refine ⟨onward.trans follows.toOnward, follows.temporary.trans temporary,
    .published _ isTreeAfter sameAfter tree_eq gone (leadsAfter _ sameAfter)
      (entryAt_output some named (leadsAfter _ sameAfter) fits (ne_none_of_tree_eq tree_eq there))
      fun _ => ?_⟩
  unfold WarnedOf at dropped ⊢
  rw [onward.host] at dropped
  exact dropped

theorem publish_meets {machine : Machine}
    (workspace : Workspace machine.host.here output before base directory number machine.disk)
    (absolute : output.isAbsolute = true) (named : IsName output.name)
    (some : output.parts ≠ [])
    (clear : (base.entryAt machine.host.here output).isSome = true →
      Clear machine.host.here output number directory base)
    (usable : Action.holdsNull (stagingPath output number) = false) :
    (publish (stagingPath output number) output).Meets machine fun result after =>
      machine.Onward after ∧ after.nextTemporary = machine.nextTemporary ∧
        Publication output number directory machine result after := by
  have parentAbsolute : output.parent.isAbsolute = true := absolute
  have shape : output.parent.down [output.name] = output := output.down_parent some
  unfold publish
  rw [Action.meets_entryAt?_bind]
  dsimp only
  rw [previousPath_stagingPath]
  cases occupied : (Action.entry machine output).isSome with
  | false =>
    simp only [Bool.false_eq_true, if_false]
    refine (publish_vacant_meets workspace absolute named some occupied).outcome_bind ?_
    rintro result between ⟨onward, temporary, published⟩
    split
    next => exact ⟨onward, temporary, published⟩
    next fault =>
      cases published with
      | unchanged failure _ same => exact ⟨onward, temporary, .unchanged _ _ same⟩
      | restored failure _ _ found => exact absurd found (by simp [occupied])
    next failure _ => exact ⟨onward, temporary, published⟩
  | true =>
    simp only [if_true]
    replace clear := clear (workspace.entryAt_isSome absolute named some occupied)
    refine (swap_meets workspace absolute named some clear usable).outcome_bind ?_
    rintro result between ⟨onward, temporary, swapped⟩
    have placeThere : between.host.here = machine.host.here := by rw [onward.host]
    cases swapped with
    | unmoved failure _ same =>
      have stillOccupied : (Action.entry between output).isNone = false := by
        rw [Action.entry_congr same placeThere, ← Option.not_isSome, occupied]
        rfl
      cases failure with
      | system fault =>
        dsimp only
        unfold restore
        rw [bind_assoc, Action.meets_entryAt?_bind, stillOccupied]
        exact ⟨onward, temporary, .unchanged _ _ same⟩
      | _ => exact ⟨onward, temporary, .unchanged _ _ same⟩
    | aside _ _ moved usableBoth fits renames =>
      exact publish_aside_meets workspace absolute named some clear occupied onward temporary moved
        usableBoth fits renames
    | swapped _ moved usablePrevious leads fits there =>
      exact publish_swapped_meets workspace absolute named some clear onward temporary moved
        usablePrevious leads fits there

/-- Nothing was done, and that is a failure. -/
def Refused {α : Type} (machine : Machine) (result : Except Failure α) (after : Machine) : Prop :=
  (∃ failure, result = .error failure) ∧ machine.Onward after ∧ after.disk = machine.disk

theorem rename_nameless_meets (machine : Machine) {old new : Path}
    (nameless : ¬ (old.IsNamed ∧ new.IsNamed)) :
    (Action.rename old new).Meets machine (Refused machine) := by
  refine (Action.attempt_meets .rename _ _ machine).mono fun result after ended => ?_
  obtain ⟨onward, -⟩ := ended.onward
  cases ended with
  | refused | unusable => exact ⟨⟨_, rfl⟩, onward, rfl⟩
  | done disk _ worked => exact absurd (Disk.rename_named worked) nameless

/-- Output without a name of its own can be neither moved aside nor replaced. -/
theorem publish_nameless_meets (machine : Machine) (nameless : ¬ output.IsNamed)
    (staging : Path) : (publish staging output).Meets machine (Refused machine) := by
  have swaps : (do
      if (Action.entry machine output).isSome then
        Action.rename output (previousPath staging)
      Action.rename staging output : Action Unit).Meets machine (Refused machine) := by
    split
    next =>
      refine (rename_nameless_meets machine fun both => nameless both.1).bind ?_ ?_
      · rintro value between ⟨⟨failure, impossible⟩, -⟩
        cases impossible
      · rintro failure between ⟨-, onward, same⟩
        exact ⟨⟨failure, rfl⟩, onward, same⟩
    next => exact rename_nameless_meets machine fun both => nameless both.2
  unfold publish
  rw [Action.meets_entryAt?_bind]
  refine swaps.outcome_bind ?_
  rintro result between ⟨⟨failure, rfl⟩, onward, same⟩
  have here : between.host.here = machine.host.here := by rw [onward.host]
  cases failure with
  | system fault =>
    dsimp only
    split
    next occupied =>
      have notNone : (Action.entry between output).isNone = false := by
        rw [Action.entry_congr same here, ← Option.not_isSome, occupied]
        rfl
      unfold restore
      rw [bind_assoc, Action.meets_entryAt?_bind, notNone]
      exact ⟨⟨_, rfl⟩, onward, same⟩
    next => exact ⟨⟨_, rfl⟩, onward, same⟩
  | _ => exact ⟨⟨_, rfl⟩, onward, same⟩

/-- A publication changes nothing and fails, or the way to the output goes through the name that it
is to be moved aside to, or the publication ends in one of the ways. -/
theorem Workspace.publish_ends {machine after : Machine} {result : Except Failure Unit}
    (workspace : Workspace machine.host.here output before base directory number machine.disk)
    (regular : output.IsRegular) (absolute : output.isAbsolute = true)
    (usable : Action.holdsNull (stagingPath output number) = false)
    (ran : (publish (stagingPath output number) output).on machine = (result, after)) :
    (∃ failure, result = .error failure ∧ after.disk = machine.disk) ∨
      output.IsNamed ∧
        ((base.entryAt machine.host.here output).isSome = true ∧
            ¬ Clear machine.host.here output number directory base ∨
          ((base.entryAt machine.host.here output).isSome = true →
              Clear machine.host.here output number directory base) ∧
            Publication output number directory machine result after) := by
  by_cases named : output.IsNamed
  · refine .inr ⟨named, ?_⟩
    by_cases clear : (base.entryAt machine.host.here output).isSome = true →
        Clear machine.host.here output number directory base
    · have published := (publish_meets workspace absolute (regular.isName named) named.1 clear
        usable).of_on ran
      exact .inr ⟨clear, published.2.2⟩
    · exact .inl (Classical.not_imp.mp clear)
  · obtain ⟨⟨failure, failed⟩, -, same⟩ := (publish_nameless_meets machine named _).of_on ran
    exact .inl ⟨failure, failed, same⟩

/-- Whatever lies beside the output, a publication takes no temporary name and discards no tree. -/
theorem steady_publish (staging output : Path) : Action.Steady (publish staging output) := by
  have moves (old new : Path) : Action.Steady (Action.rename old new) :=
    Action.steady_attempt (by decide) _ _
  have restores (previous : Path) : Action.Steady (restore output previous) := by
    refine (Action.steady_entryAt? output).bind fun entry => ?_
    split
    next =>
      refine (moves previous output).outcome.bind fun result => ?_
      split
      next => exact Action.steady_pure ()
      next => exact Action.steady_log _ _
      next => exact Action.steady_throw _
    next => exact Action.steady_pure ()
  have drops (previous : Path) : Action.Steady (dropPrevious previous) := by
    have removal : Action.Steady (removePrevious previous) := fun machine =>
      removePrevious_meets (fun _ => ⟨.refl machine, rfl, .refl _ machine⟩)
        (Action.steady_attempt (by decide) _ _ machine)
        (Action.steady_attempt (by decide) _ _ machine)
    refine removal.outcome.bind fun result => ?_
    split
    next => exact Action.steady_pure ()
    next => exact Action.steady_log _ _
    next => exact Action.steady_throw _
  refine (Action.steady_entryAt? output).bind fun entry => ?_
  have swaps : Action.Steady (do
      if entry.isSome then Action.rename output (previousPath staging)
      Action.rename staging output) := by
    split
    next => exact (moves _ _).bind fun _ => moves _ _
    next => exact moves _ _
  refine swaps.outcome.bind fun result => ?_
  split
  next =>
    split
    next => exact drops _
    next => exact Action.steady_pure ()
  next =>
    split
    next => exact (restores _).bind fun _ => Action.steady_throw _
    next => exact Action.steady_throw _
  next => exact Action.steady_throw _

end Generation

end Bindery
