/-
This file gives a compiler that keeps to the directory that it is to write to.

It obeys one command, for which it writes one file, be it to a directory that it makes for it, and
reports that every other command cannot be obeyed. The command tells the directory, so that the
compiler touches nothing else however it is called.
-/

import Bindery.Proofs.Generation.Endings
import Bindery.Proofs.Invocation.Validated
import Bindery.Proofs.Text.Joined

namespace Bindery

open Disk (SameOutside)
open Package

theorem Path.name_eq_of_text_eq {parent : Path} {name other : String} (named : name ≠ "")
    (otherNamed : other ≠ "")
    (same : (parent.down [name]).text = (parent.down [other]).text) : name = other := by
  obtain ⟨front, joined⟩ := Text.join_concat "/" parent.parts
  have written : ∀ last, (parent.down [last]).written = parent.anchor.text ++ front ++ last := by
    intro last
    rw [String.append_assoc, ← joined last]
    rfl
  have text : ∀ last, last ≠ "" → (parent.down [last]).text =
      parent.anchor.text ++ front ++ last := by
    intro last some
    unfold Path.text
    rw [written last, if_neg]
    intro empty
    exact some (String.append_eq_empty_iff.mp empty).2
  rw [text name named, text other otherNamed] at same
  exact (String.append_right_inj _).mp same

namespace Generation

variable {invocation : Invocation} {policy : Policy} {number again : Nat}
  {compiler other : Compiler}

/-- A command tells the directory that is to be written to. -/
theorem stagingPath_of_commandTo_eq (same : commandTo compiler invocation policy number =
      commandTo other invocation policy again) :
    stagingPath invocation.outputDirectory number =
      stagingPath invocation.outputDirectory again := by
  unfold commandTo Compiler.commandLine Compiler.options at same
  have withoutInputs := List.append_cancel_right same
  simp only [← List.append_assoc] at withoutInputs
  have lengths : ∀ path otherPath, (Compiler.reflectionArguments policy path).length =
      (Compiler.reflectionArguments policy otherPath).length := by
    intro path otherPath
    unfold Compiler.reflectionArguments
    split <;> rfl
  obtain ⟨front, -⟩ := List.append_inj' withoutInputs (lengths _ _)
  have flag := List.append_inj_right' front (by simp only [List.length_singleton])
  have texts := (String.append_right_inj _).mp (List.singleton_inj.mp flag)
  have names := Path.name_eq_of_text_eq (isName_stagingName _ _).1 (isName_stagingName _ _).1 texts
  unfold stagingPath
  rw [names]

/-! ### Compilers that do little -/

/-- The name that a lookup always answers with is found without touching the machine. -/
theorem quiet_pure (found : Option String) : Quiet fun _ => pure found :=
  fun _ machine => ⟨.refl machine, rfl⟩

/-- A compiler that obeys one command, for which it writes a file to a directory. -/
def writer (command : List String) (path : Path) (name text : String) : Runner := fun given =>
  if given = command then do
    Action.writeText (path.down [name]) text
    return ⟨0, ""⟩
  else return ⟨1, ""⟩

/-- A directory with one file in it. -/
def oneFile (name text : String) : Tree := fun place =>
  if place = [] then some (.directory Disk.directoryMode)
  else if place = [name] then some (.file (Text.bytesOf text) Disk.fileMode)
  else none

section Writer

variable {machine : Machine} {path : Path} {place : Place} {name text : String}

/-- Writing a new file to an empty directory works as it should, or nothing is written. -/
theorem Prepared.writeText_meets (prepared : Prepared machine path place)
    (absolute : path.isAbsolute = true) (named : IsName name) :
    (Action.writeText (path.down [name]) text).Meets machine fun result after =>
      machine.Follows after ∧
        (after.disk = machine.disk ∧ result ≠ .ok () ∨
          after.disk = machine.disk.put (place ++ [name])
            (.file (Text.bytesOf text) Disk.fileMode)) := by
  obtain ⟨isTree, leads, isDirectory, bare⟩ := prepared
  refine (Action.attempt_meets .write _ _ machine).mono fun result after ended => ?_
  have follows := ended.follows (by decide)
  cases ended with
  | refused | unusable => exact ⟨follows, .inl ⟨rfl, by simp⟩⟩
  | done disk _ worked =>
    refine ⟨follows, .inr ?_⟩
    have start : machine.disk.HasDirectory (Disk.startOf machine.host.here path) := by
      rw [Disk.startOf_of_isAbsolute absolute]
      exact machine.disk.hasDirectory_top
    have free : machine.disk.get? (place ++ [name]) = none := bare [name] (by simp)
    have vacant : ∀ spot, machine.disk.locate machine.host.here true (path.down [name]) = .ok spot →
        spot = .vacant place name := by
      intro spot located
      obtain ⟨found, left, leadsFound, way⟩ :=
        Disk.locate_down isTree start (List.cons_ne_nil _ _) located
      cases leads.unique leadsFound
      cases way with
      | skip point => exact absurd point (by simp [named.1, named.2.1])
      | up => exact absurd rfl named.2.2
      | free => rfl
      | enter _ _ found | file _ _ found | link _ _ found | follow _ _ found =>
        rw [free] at found
        cases found
    unfold Disk.writeFile at worked
    split at worked
    next located => cases vacant _ located
    next => cases worked
    next => cases worked
    next located =>
      cases vacant _ located
      cases worked
      rfl
    next => cases worked

theorem Prepared.tree_put (prepared : Prepared machine path place) :
    (machine.disk.put (place ++ [name]) (.file (Text.bytesOf text) Disk.fileMode)).tree place =
      oneFile name text := by
  obtain ⟨-, -, isDirectory, bare⟩ := prepared
  funext rest
  unfold Disk.tree oneFile
  by_cases top : rest = []
  · subst top
    rw [if_pos rfl, List.append_nil, Disk.get?_put_of_ne _ (by simp), isDirectory]
  · rw [if_neg top]
    by_cases file : rest = [name]
    · rw [if_pos file, file, Disk.get?_put_self _ (by simp)]
    · rw [if_neg file, Disk.get?_put_of_ne _ (by simpa using file), bare rest top]

/-- An empty directory holds no links. -/
theorem Prepared.linkless (prepared : Prepared machine path place) :
    machine.disk.Linkless place := by
  rintro each target ⟨rest, rfl⟩ found
  by_cases top : rest = []
  · subst top
    rw [List.append_nil, prepared.empty.1] at found
    cases found
  · rw [prepared.empty.2 rest top] at found
    cases found

/-- Writing one file to an empty directory touches nothing else. -/
theorem Prepared.confined_put (prepared : Prepared machine path place) {after : Disk}
    (written : after = machine.disk ∨
      after = machine.disk.put (place ++ [name]) (.file (Text.bytesOf text) Disk.fileMode)) :
    after.IsTree ∧ SameOutside [place] machine.disk after ∧
      ∀ each target, place <+: each → after.get? each ≠ some (.link target) := by
  have linkless := prepared.linkless
  obtain ⟨isTree, leads, isDirectory, bare⟩ := prepared
  rcases written with rfl | rfl
  · exact ⟨isTree, .refl _ _, linkless⟩
  · refine ⟨isTree.put ⟨_, isDirectory⟩ (.inr ?_), fun each beside => ?_, ?_⟩
    · exact Disk.not_hasDirectory_of_free (bare [name] (by simp))
    · refine Disk.get?_put_of_ne _ (fun same => ?_) _
      rw [same] at beside
      exact beside place List.mem_cons_self (List.prefix_append _ _)
    · intro each target under found
      by_cases file : each = place ++ [name]
      · rw [file, Disk.get?_put_self _ (by simp)] at found
        cases found
      · rw [Disk.get?_put_of_ne _ file] at found
        exact linkless each target under found

end Writer

/-- The compiler that obeys the command for one staging directory. -/
def writerTo (compiler : Compiler) (invocation : Invocation) (policy : Policy) (number : Nat)
    (name text : String) : Runner :=
  writer (commandTo compiler invocation policy number)
    (stagingPath invocation.outputDirectory number) name text

theorem confined_writerTo (absolute : invocation.outputDirectory.isAbsolute = true)
    {name : String} (named : IsName name) (compiler : Compiler) (policy : Policy) (number : Nat)
    (text : String) :
    ConfinedRunner (writerTo compiler invocation policy number name text) invocation policy := by
  intro other again machine place prepared
  unfold writerTo writer
  split
  next same =>
    rw [stagingPath_of_commandTo_eq same] at prepared
    refine (prepared.writeText_meets absolute named).bind ?_ ?_
    · rintro _ after ⟨follows, written⟩
      exact ⟨follows, prepared.confined_put (written.imp_left And.left)⟩
    · rintro failure after ⟨follows, written⟩
      exact ⟨follows, prepared.confined_put (written.imp_left And.left)⟩
  next => exact ⟨.refl machine, @Prepared.confined_put _ _ _ name text prepared _ (.inl rfl)⟩

theorem leavesDirectory_writerTo (absolute : invocation.outputDirectory.isAbsolute = true)
    {name : String} (named : IsName name) (text : String) :
    LeavesDirectory (writerTo compiler invocation policy number name text)
      (commandTo other invocation policy again)
      (stagingPath invocation.outputDirectory again) := by
  intro machine place prepared
  have there : machine.disk.HasDirectory place := ⟨_, prepared.empty.1⟩
  unfold writerTo writer
  split
  next same =>
    rw [stagingPath_of_commandTo_eq same] at prepared
    have stays : ∀ {after : Machine} {result : Except Failure Unit},
        (after.disk = machine.disk ∧ result ≠ .ok () ∨ after.disk =
          machine.disk.put (place ++ [name]) (.file (Text.bytesOf text) Disk.fileMode)) →
        after.disk.Removable place := by
      rintro after result (⟨unchanged, -⟩ | written)
      · rw [unchanged]
        exact .inr there
      · rw [written]
        exact .inr (there.of_eq (Disk.get?_put_of_ne _ (by simp) _))
    refine (prepared.writeText_meets absolute named).bind ?_ ?_
    · rintro _ after ⟨-, written⟩
      exact stays written
    · rintro failure after ⟨-, written⟩
      exact stays written
  next => exact .inr there

/-- It writes a file at most, so that it discards nothing. -/
theorem spares_writerTo (compiler : Compiler) (invocation : Invocation) (policy : Policy)
    (number : Nat) (name text : String) (command : List String) :
    (writerTo compiler invocation policy number name text command).Spares .discard := by
  intro machine
  unfold writerTo writer
  split
  next =>
    refine (Action.attempt_meets .write _ _ machine).bind ?_ ?_
    · exact fun _ after written => written.keeps (by decide)
    · exact fun failure after written => written.keeps (by decide)
  next => exact .refl .discard machine

/-- What the compiler leaves when it succeeds. -/
theorem emitted_writerTo (absolute : invocation.outputDirectory.isAbsolute = true)
    {name : String} (named : IsName name) {text : String} {tree : Tree}
    (emitted : Emitted (writerTo compiler invocation policy number name text)
      (commandTo other invocation policy again) (stagingPath invocation.outputDirectory again)
      tree) : tree = oneFile name text := by
  obtain ⟨machine, place, outcome, after, prepared, ran, succeeded, rfl⟩ := emitted
  have written : (writerTo compiler invocation policy number name text
      (commandTo other invocation policy again)).Meets machine fun result after =>
        ∀ outcome, result = .ok outcome → outcome.status = 0 →
          after.disk = machine.disk.put (place ++ [name])
            (.file (Text.bytesOf text) Disk.fileMode) := by
    unfold writerTo writer
    split
    next same =>
      rw [stagingPath_of_commandTo_eq same] at prepared
      refine (prepared.writeText_meets absolute named).bind ?_ ?_
      · rintro _ after ⟨-, ⟨-, failed⟩ | written⟩
        · exact absurd rfl failed
        · exact fun _ _ _ => written
      · rintro failure after - outcome impossible
        cases impossible
    next =>
      rintro _ ⟨⟩ impossible
      cases impossible
  rw [written.of_on ran outcome rfl succeeded, prepared.tree_put]

/-! ### A compiler that writes to a new directory -/

section Nested

variable {machine : Machine} {path : Path} {place : Place} {directory name text : String}

/-- Making a directory in an empty one works as it should, or nothing is made. The new directory
can be written to like the one that it lies in. -/
theorem Prepared.makeDirectory_meets (prepared : Prepared machine path place)
    (absolute : path.isAbsolute = true) (named : IsName directory) :
    (Action.makeDirectory (path.down [directory]) Disk.directoryMode).Meets machine
      fun result after => machine.Follows after ∧
        (after.disk = machine.disk ∧ result ≠ .ok () ∨
          result = .ok () ∧
            after.disk = machine.disk.put (place ++ [directory]) (.directory Disk.directoryMode) ∧
            Prepared after (path.down [directory]) (place ++ [directory])) := by
  obtain ⟨isTree, leads, isDirectory, bare⟩ := prepared
  refine (Action.attempt_meets .makeDirectory _ _ machine).mono fun result after ended => ?_
  have follows := ended.follows (by decide)
  cases ended with
  | refused | unusable => exact ⟨follows, .inl ⟨rfl, by simp⟩⟩
  | done disk _ worked =>
    refine ⟨follows, .inr ?_⟩
    obtain ⟨found, leadsFound, fits, free, made⟩ := Disk.makeDirectory_down named worked
    cases leads.unique leadsFound
    subst made
    have keeps := Disk.keeps_put free (.directory Disk.directoryMode)
    have there : (machine.disk.put (place ++ [directory])
        (.directory Disk.directoryMode)).HasDirectory (place ++ [directory]) :=
      ⟨_, Disk.get?_put_self _ (by simp) _⟩
    have leadsBelow := (leads.keep absolute fun each node entry _ => keeps each node entry).down
      named fits.2 there
    refine ⟨rfl, rfl, isTree.put ⟨_, isDirectory⟩ (.inl rfl), leadsBelow, ?_⟩
    refine Disk.hasEmptyDirectory_put (by simp) (fun rest some => ?_) _
    rw [List.append_assoc]
    exact bare _ (by simp)

/-- What touches nothing but a new directory in an empty one touches nothing but that. -/
theorem Prepared.confined_within (prepared : Prepared machine path place) {between after : Disk}
    (made : between = machine.disk.put (place ++ [directory]) (.directory Disk.directoryMode))
    (same : SameOutside [place ++ [directory]] between after)
    (linkless : after.Linkless (place ++ [directory])) :
    SameOutside [place] machine.disk after ∧ after.Linkless place := by
  have outside : ∀ each, ¬ place ++ [directory] <+: each →
      after.get? each = machine.disk.get? each := by
    intro each beside
    rw [same each (by simpa using beside), made, Disk.get?_put_of_ne]
    exact fun itself => beside (itself ▸ List.prefix_refl _)
  constructor
  · intro each beside
    refine outside each fun under => ?_
    exact beside place List.mem_cons_self ((List.prefix_append _ _).trans under)
  · intro each target under
    by_cases inside : place ++ [directory] <+: each
    · exact linkless each target inside
    · rw [outside each inside]
      exact prepared.linkless each target under

end Nested

/-- A compiler that obeys the command for one staging directory, for which it makes a directory and
writes a file to that. -/
def nestedWriterTo (compiler : Compiler) (invocation : Invocation) (policy : Policy) (number : Nat)
    (directory name text : String) : Runner := fun given =>
  if given = commandTo compiler invocation policy number then do
    let path := (stagingPath invocation.outputDirectory number).down [directory]
    Action.makeDirectory path Disk.directoryMode
    Action.writeText (path.down [name]) text
    return ⟨0, ""⟩
  else return ⟨1, ""⟩

theorem confined_nestedWriterTo (absolute : invocation.outputDirectory.isAbsolute = true)
    {directory name : String} (directoryNamed : IsName directory) (named : IsName name)
    (compiler : Compiler) (policy : Policy) (number : Nat) (text : String) :
    ConfinedRunner (nestedWriterTo compiler invocation policy number directory name text)
      invocation policy := by
  intro other again machine place prepared
  have untouched : SameOutside [place] machine.disk machine.disk ∧ machine.disk.Linkless place :=
    ⟨.refl _ _, prepared.linkless⟩
  unfold nestedWriterTo
  split
  next same =>
    rw [stagingPath_of_commandTo_eq same] at prepared
    refine (prepared.makeDirectory_meets absolute directoryNamed).bind ?_ ?_
    · rintro _ between ⟨follows, ⟨-, failed⟩ | ⟨-, made, nested⟩⟩
      · exact absurd rfl failed
      have wrote : ∀ after : Disk, after = between.disk ∨ after = between.disk.put
          (place ++ [directory] ++ [name]) (.file (Text.bytesOf text) Disk.fileMode) →
            after.IsTree ∧ SameOutside [place] machine.disk after ∧ after.Linkless place := by
        intro after written
        obtain ⟨isTree, outside, linkless⟩ := nested.confined_put written
        exact ⟨isTree, prepared.confined_within made outside linkless⟩
      refine (nested.writeText_meets absolute named).bind ?_ ?_
      · rintro _ after ⟨followsWrite, written⟩
        exact ⟨follows.trans followsWrite, wrote _ (written.imp_left And.left)⟩
      · rintro failure after ⟨followsWrite, written⟩
        exact ⟨follows.trans followsWrite, wrote _ (written.imp_left And.left)⟩
    · rintro failure after ⟨follows, ⟨unchanged, -⟩ | ⟨impossible, -⟩⟩
      · rw [unchanged]
        exact ⟨follows, prepared.isTree, untouched⟩
      · cases impossible
  next => exact ⟨.refl machine, prepared.isTree, untouched⟩

/-! ### Runs for one schema -/

/-- The compiler of a machine that has one on its search path. -/
def installed : Compiler := ⟨["/usr/bin/protoc"], .searchPath, []⟩

/-- Finds the compiler. -/
def foundInstalled : Compiler.Lookup := fun _ => pure (some "/usr/bin/protoc")

theorem quiet_foundInstalled : Quiet foundInstalled := quiet_pure _

/-- The bindings of one schema are to be made. -/
def oneSchema (output : String) : Invocation :=
  ⟨Path.parse "/in", [Path.parse "/in/x.proto"], Path.parse output, none⟩

/-- A machine with the schema and other entries on its disk, on which some attempts to move an
entry are refused. -/
def machineWith (entries : List (Place × Node)) (refused : List Nat) (level : Log.Level) :
    Machine :=
  { Machine.fresh { level } ⟨[(["in"], .directory Disk.directoryMode),
      (["in", "x.proto"], .file [] Disk.fileMode)] ++ entries⟩ with
    schedule := fun kind count =>
      if kind = .rename ∧ count ∈ refused then some Errno.accessDenied else none }

/-- A machine with nothing but the schema. -/
def bare : Machine := machineWith [] [] Log.Level.info

/-- Makes the invocation for the schema. -/
def invokeOneSchema (output : String) : Action Invocation :=
  Invocation.ofPaths (Path.parse "/in") [Path.parse "/in/x.proto"] (Path.parse output) none

theorem validated_oneSchema {output : String} (machine : Machine) (atTop : machine.host.here = [])
    (accepted : ((invokeOneSchema output).on machine).1 = .ok (oneSchema output)) :
    (oneSchema output).Validated := Invocation.validated_of_accepted atTop accepted

/-- Writes the bindings of the schema to the first staging directory. -/
def writesBindings (output : String) (policy : Policy) : Runner :=
  writerTo installed (oneSchema output) policy 1 "x_pb2.py" "new\n"

theorem confined_writesBindings {output : String}
    (absolute : (oneSchema output).outputDirectory.isAbsolute = true) (policy : Policy) :
    ConfinedRunner (writesBindings output policy) (oneSchema output) policy :=
  confined_writerTo absolute (by decide) installed policy 1 "new\n"

/-- What becomes of a machine on which the bindings of the schema are made. -/
def generateOneSchema (output : String) (before : Machine) : Except Failure Unit × Machine :=
  (generate foundInstalled (writesBindings output .standard) (oneSchema output) .standard).on before

/-- The directory of output at the top is found on every disk. -/
theorem leads_of_top {here : Place} {output : Path} (absolute : output.isAbsolute = true)
    (top : output.parent.parts = []) (disk : Disk) : disk.Leads here output.parent [] := by
  have parentAbsolute : output.parent.isAbsolute = true := absolute
  refine ⟨Disk.topMode, ?_⟩
  rw [top, Disk.startOf_of_isAbsolute parentAbsolute, Disk.walk_nil, disk.get?_top]
  rfl

/-- The way to output at the top goes through no entry. -/
theorem unobstructed_of_top {here : Place} {output : Path} (absolute : output.isAbsolute = true)
    (top : output.parent.parts = []) (disk : Disk) : Unobstructed here output number disk := by
  intro _ directory leads
  cases (leads_of_top absolute top disk).unique leads
  exact leads_of_top absolute top _

end Generation

end Bindery
