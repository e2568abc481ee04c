/-
This file proves in which ways a run can fail with anything but a failure of generation.

The refusals of the system are reported as failures of generation wherever they come from, with one
exception: whether anything is left of the staging directory is asked outside all handlers. What is
no refusal is not reported so: what the compiler is run by may fail by itself, a file that the
compiler wrote may be no text, and the path of the output may hold the character that ends texts.
Nothing else escapes, whatever the compiler does and whichever calls are refused.
-/

import Bindery.Compiler.Process
import Bindery.Proofs.Generation.Course
import Bindery.Proofs.Generation.Writer
import Bindery.Proofs.Package.Texts

namespace Bindery

open Text

namespace Generation

variable {lookup : Compiler.Lookup} {run : Runner} {invocation : Invocation} {policy : Policy}
  {output : Path} {number : Nat} {before after : Machine} {failure : Failure}

/-! ### Paths that can be handed over -/

theorem null_not_mem_temporaryDigits (number : Nat) :
    '\x00' ∉ (Action.temporaryDigits number).toList := by
  unfold Action.temporaryDigits
  rw [String.toList_append, String.toList_ofList, List.mem_append]
  rintro (zero | digit)
  · exact absurd (List.eq_of_mem_replicate zero) (by decide)
  · have digits : '\x00' ∈ Nat.toDigits 10 number := by simpa using digit
    have isDigit := Nat.isDigit_of_mem_toDigits (by decide) (by decide) digits
    exact absurd isDigit (by decide)

theorem null_mem_stagingName_iff : '\x00' ∈ (stagingName output number).toList ↔
    '\x00' ∈ output.name.toList := by
  unfold stagingName
  simp only [String.toList_append, List.mem_append, null_not_mem_temporaryDigits, or_false]
  constructor
  · rintro ((inPoint | inName) | inMark)
    · exact absurd inPoint (by decide)
    · exact inName
    · exact absurd inMark (by decide)
  · exact fun inName => .inl (.inr inName)

/-- The path of a staging directory can be handed over exactly when that of the output can. -/
theorem holdsNull_stagingPath (output : Path) (number : Nat) :
    Action.holdsNull (stagingPath output number) = Action.holdsNull output := by
  rw [Bool.eq_iff_iff, Action.holdsNull_iff, Action.holdsNull_iff]
  have parts : (stagingPath output number).parts =
      output.parts.dropLast ++ [stagingName output number] := rfl
  rw [parts]
  constructor
  · rintro ⟨part, member, inPart⟩
    rcases List.mem_append.mp member with front | final
    · exact ⟨part, List.dropLast_subset _ front, inPart⟩
    · rw [List.mem_singleton.mp final, null_mem_stagingName_iff] at inPart
      refine ⟨output.name, Path.name_mem fun top => ?_, inPart⟩
      rw [Path.name, top] at inPart
      cases inPart
  · rintro ⟨part, member, inPart⟩
    have some : output.parts ≠ [] := List.ne_nil_of_mem member
    rw [← List.dropLast_concat_getLast some] at member
    rcases List.mem_append.mp member with front | final
    · exact ⟨part, List.mem_append_left _ front, inPart⟩
    · refine ⟨_, List.mem_append_right _ List.mem_cons_self, ?_⟩
      rw [null_mem_stagingName_iff, Path.name, List.getLastD_eq_getLast?,
        List.getLast?_eq_some_getLast some]
      rwa [List.mem_singleton.mp final] at inPart

theorem holdsNull_besidePath (usable : Action.holdsNull (stagingPath output number) = false) :
    Action.holdsNull (besidePath output number) = false := by
  obtain ⟨inParent, inName⟩ := Action.holdsNull_down_eq_false_iff.mp usable
  refine Action.holdsNull_down_eq_false_iff.mpr ⟨inParent, fun part member => ?_⟩
  obtain ⟨front, back, names⟩ := exists_marks output
  replace inName := inName _ List.mem_cons_self
  rw [(names number).1] at inName
  rw [List.mem_singleton.mp member, (names number).2]
  have notInMark : '\x00' ∉ previousMark.toList := by decide
  simp only [List.mem_append, not_or] at inName ⊢
  exact ⟨⟨inName.1.1, notInMark⟩, inName.2⟩

/-! ### The failures of each step -/

/-- A failure of generation. -/
def IsGeneration (failure : Failure) : Prop := ∃ fault, failure = .generation fault

/-- A failure that says that the output cannot be written. -/
def IsUnwritten (output : Path) (failure : Failure) : Prop :=
  ∃ fault, failure = .generation (.outputWrite output fault)

theorem IsUnwritten.isGeneration (unwritten : IsUnwritten output failure) : IsGeneration failure :=
  ⟨_, unwritten.choose_spec⟩

/-- What the calls that prepare a staging directory come to: a path that can be handed over, or a
failure that is due to a refusal or to the path of the output. -/
inductive Prepares (output : Path) : Except Failure Path → Prop
  | made (number : Nat) (usable : Action.holdsNull (stagingPath output number) = false) :
    Prepares output (.ok (stagingPath output number))
  | failed (failure : Failure)
    (ofCalls : Action.OfCalls (Action.holdsNull output = true) failure) :
    Prepares output (.error failure)

theorem makeTemporary_prepares (output : Path) (before : Machine) :
    (Action.makeTemporary output.parent ("." ++ output.name ++ stagingMark)).Meets before
      fun result _ => Prepares output result := by
  have fails := Action.failsOnly_makeTemporaryUpTo output.parent
    ("." ++ output.name ++ stagingMark) Action.temporaryAttempts before
  have makes := Action.makeTemporaryUpTo_meets Action.temporaryAttempts output.parent
    ("." ++ output.name ++ stagingMark) (isName_stagingName output) before
  refine (makes.and fails).mono ?_
  rintro result after ⟨⟨-, -, -, makes⟩, fails⟩
  cases result with
  | ok staging =>
    obtain ⟨number, directory, temporary⟩ := makes
    have usable := temporary.usable
    rw [temporary.path_eq] at usable ⊢
    exact .made number usable
  | error failure =>
    refine .failed failure ((fails failure rfl).mono ?_)
    rintro ⟨number, null⟩
    exact (holdsNull_stagingPath output number).symm.trans null

/-- A staging directory is prepared at a path that can be handed over. -/
theorem stage_fails (output : Path) (before : Machine) :
    (stage output).Meets before fun result _ =>
      match result with
      | .ok staging => ∃ number, staging = stagingPath output number ∧
        Action.holdsNull staging = false
      | .error failure => IsUnwritten output failure ∨
        failure = .value .embeddedNull ∧ Action.holdsNull output = true := by
  have prepared : (do
      Action.makeDirectories output.parent
      let staging ← Action.makeTemporary output.parent ("." ++ output.name ++ stagingMark)
      Action.changeMode staging Disk.directoryMode
      return staging : Action Path).Meets before fun result _ => Prepares output result := by
    have made := Action.failsOnly_makeDirectoriesUpTo output.parent.parts.length output.parent
    refine (made before).bind (fun _ between _ => ?_) fun failure _ ended =>
      .failed failure ((ended failure rfl).mono Action.holdsNull_of_parent)
    refine (makeTemporary_prepares output between).bind ?_ ?_
    · rintro staging staged (⟨number, usable⟩ | _)
      have changed := Action.failsOnly_attempt .chmod [stagingPath output number]
        (fun disk here => disk.changeMode here (stagingPath output number) Disk.directoryMode)
      refine (changed staged).bind (fun _ _ _ => .made number usable) fun failure _ ended => ?_
      exact .failed failure ((ended failure rfl).mono fun null => by simp [usable] at null)
    · rintro failure after (_ | ⟨_, ofCalls⟩)
      exact .failed failure ofCalls
  unfold stage writing
  refine prepared.outcome_bind fun result between ended => ?_
  cases ended with
  | made number usable => exact ⟨number, rfl, usable⟩
  | failed failure ofCalls =>
    cases ofCalls with
    | refused fault => exact .inl ⟨_, rfl⟩
    | unusable null => exact .inr ⟨rfl, null⟩

/-- The compiler fails as it does by itself, unless the system refuses to run it. -/
theorem compile_fails (run : Runner) (compiler : Compiler) (command : List String)
    (machine : Machine) :
    (compile run compiler command).Meets machine fun result after =>
      match result with
      | .ok () => ∃ outcome compiled, (run command).on machine = (.ok outcome, compiled) ∧
        outcome.status = 0 ∧ after.disk = compiled.disk
      | .error failure => IsGeneration failure ∨
        (∃ last, (run command).on machine = (.error failure, last)) ∧
          ∀ fault, failure ≠ .system fault := by
  unfold compile
  refine (Action.meets_on (run command) machine).outcome_bind fun result compiled ran => ?_
  split
  next outcome =>
    dsimp only
    split
    next => exact .inl ⟨_, rfl⟩
    next succeeded =>
      split
      next =>
        refine (Action.log_logged _ _ compiled).mono ?_
        rintro result after ⟨rfl, logged, -⟩
        exact ⟨outcome, compiled, ran, not_not.mp succeeded, logged.disk⟩
      next => exact ⟨outcome, compiled, ran, not_not.mp succeeded, rfl⟩
  next fault => exact .inl ⟨_, rfl⟩
  next failure notSystem => exact .inr ⟨⟨compiled, ran⟩, notSystem⟩

/-- Making a package fails over a file that the compiler left, unless the system refuses. -/
theorem finish_fails {staging : Path} {schemas : List String}
    (usable : Action.holdsNull staging = false)
    (usableSchemas : ∀ schema ∈ schemas, '\x00' ∉ schema.toList) (machine : Machine) :
    (finish staging output schemas policy).Meets machine fun result _ =>
      ∀ failure, result = .error failure → IsGeneration failure ∨
        ∃ fault, failure = .value (.undecodable fault) ∧
          (machine.disk.tree []).HoldsUndecodable fault := by
  have inRoot := Action.holdsNull_eq_false_iff.mp usable
  unfold finish
  refine (Package.addsOnlyTexts_finalize inRoot usableSchemas policy machine).outcome_bind ?_
  intro result between added failure
  cases result with
  | ok modules =>
    intro impossible
    cases impossible
  | error other =>
    rcases added.failed other rfl with ⟨fault, rfl⟩ | ⟨fault, rfl, holds⟩
    · dsimp only
      split
      next => exact fun same => .inl ⟨_, (Except.error.inj same).symm⟩
      next => exact fun same => .inl ⟨_, (Except.error.inj same).symm⟩
    · exact fun same => .inr ⟨fault, (Except.error.inj same).symm, added.texts.holds holds⟩

theorem failsOnly_restore {kind : Failure → Prop} {previous : Path}
    (usable : Action.holdsNull output = false)
    (usablePrevious : Action.holdsNull previous = false) :
    Action.FailsOnly (restore output previous) kind := by
  refine (Action.failsOnly_entryAt? output).bind fun entry => ?_
  split
  next =>
    refine (Action.failsOnly_attempt .rename [previous, output] _).outcome_bind ?_
    intro result ended
    split
    next => exact Action.failsOnly_pure _
    next => exact Action.failsOnly_log _ _
    next failure notSystem =>
      obtain ⟨fault, same⟩ := (ended failure rfl).refusal (by simp [usable, usablePrevious])
      exact absurd same (notSystem fault)
  next => exact Action.failsOnly_pure _

theorem failsOnly_dropPrevious {kind : Failure → Prop} {previous : Path}
    (usable : Action.holdsNull previous = false) :
    Action.FailsOnly (dropPrevious previous) kind := by
  have removal : Action.FailsOnly (removePrevious previous)
      (Action.OfCalls ([previous].any Action.holdsNull = true)) := fun machine =>
    removePrevious_meets (fun fault failure same => (Except.error.inj same) ▸ .refused fault)
      (Action.failsOnly_attempt .unlink [previous] _ machine)
      (Action.failsOnly_attempt .removeTree [previous] _ machine)
  refine removal.outcome_bind fun result ended => ?_
  split
  next => exact Action.failsOnly_pure _
  next => exact Action.failsOnly_log _ _
  next failure notSystem =>
    obtain ⟨fault, same⟩ := (ended failure rfl).refusal (by simp [usable])
    exact absurd same (notSystem fault)

/-- A publication whose paths can be handed over fails only because the output cannot be written. -/
theorem failsOnly_publish (usable : Action.holdsNull (stagingPath output number) = false) :
    Action.FailsOnly (publish (stagingPath output number) output) (IsUnwritten output) := by
  have usableOutput : Action.holdsNull output = false :=
    (holdsNull_stagingPath output number).symm.trans usable
  have usablePrevious := holdsNull_besidePath usable
  refine (Action.failsOnly_entryAt? output).bind fun entry => ?_
  rw [previousPath_stagingPath]
  have swaps : Action.FailsOnly (do
      if entry.isSome then Action.rename output (besidePath output number)
      Action.rename (stagingPath output number) output) (Action.OfCalls False) := by
    have moves : ∀ old new, Action.holdsNull old = false → Action.holdsNull new = false →
        Action.FailsOnly (Action.rename old new) (Action.OfCalls False) := by
      intro old new usableOld usableNew
      exact (Action.failsOnly_attempt .rename [old, new] _).mono fun _ ofCalls =>
        ofCalls.mono (by simp [usableOld, usableNew])
    split
    next =>
      exact (moves _ _ usableOutput usablePrevious).bind fun _ => moves _ _ usable usableOutput
    next => exact moves _ _ usable usableOutput
  refine swaps.outcome_bind fun result ended => ?_
  split
  next =>
    split
    next => exact failsOnly_dropPrevious usablePrevious
    next => exact Action.failsOnly_pure _
  next fault =>
    split
    next =>
      exact (failsOnly_restore usableOutput usablePrevious).bind fun _ =>
        Action.failsOnly_throw ⟨_, rfl⟩
    next => exact Action.failsOnly_throw ⟨_, rfl⟩
  next failure notSystem =>
    obtain ⟨fault, same⟩ := (ended failure rfl).refusal id
    exact absurd same (notSystem fault)

/-- A failure that is none of generation's, by where it comes from. -/
inductive Escape (run : Runner) (invocation : Invocation) (policy : Policy) (after : Machine) :
    Failure → Prop
  /-- What runs the compiler failed by itself, and not because the system refused. -/
  | raised (compiler : Compiler) (number : Nat) (machine last : Machine) (failure : Failure)
    (ran : (run (commandTo compiler invocation policy number)).on machine = (.error failure, last))
    (foreign : ∀ fault, failure ≠ .system fault) :
    Escape run invocation policy after failure
  /-- The compiler succeeded, and there is a file that is no text. -/
  | undecodable (compiler : Compiler) (number : Nat) (machine compiled : Machine)
    (outcome : Outcome) (fault : Utf8Fault)
    (ran : (run (commandTo compiler invocation policy number)).on machine = (.ok outcome, compiled))
    (succeeded : outcome.status = 0) (holds : (compiled.disk.tree []).HoldsUndecodable fault) :
    Escape run invocation policy after (.value (.undecodable fault))
  /-- The path of the output cannot be handed to the system. -/
  | unusable (null : Action.holdsNull invocation.outputDirectory = true) :
    Escape run invocation policy after (.value .embeddedNull)
  /-- At the end, what the path of the staging directory leads to is withheld: a name on the way is
  too long by then, or the process may not look. -/
  | withheld (number : Nat) (code : Errno)
    (withheld : Action.Withheld after (stagingPath invocation.outputDirectory number) code) :
    Escape run invocation policy after
      (.system ⟨code, [(stagingPath invocation.outputDirectory number).text]⟩)

/-- The work in a staging directory fails as generation does, or its failure escapes. -/
theorem Effort.fails {schemas : List String} {compiler : Compiler} {staged left : Machine}
    (effort : Effort run invocation policy schemas compiler
      (stagingPath invocation.outputDirectory number) staged (.error failure) left)
    (usable : Action.holdsNull (stagingPath invocation.outputDirectory number) = false)
    (usableSchemas : ∀ schema ∈ schemas, '\x00' ∉ schema.toList) :
    IsGeneration failure ∨ Escape run invocation policy after failure := by
  generalize same : (Except.error failure : Except Failure (List String)) = result at effort
  cases effort with
  | uncompiled ready logged other _ ran =>
    cases same
    rcases (compile_fails run compiler _ ready).of_on ran with
      generation | ⟨⟨last, raised⟩, foreign⟩
    · exact .inl generation
    · exact .inr (.raised compiler number ready last failure raised foreign)
  | unfinished ready compiled logged compiledIt other _ ran =>
    cases same
    obtain ⟨outcome, written, wrote, succeeded, disk⟩ :=
      (compile_fails run compiler _ ready).of_on compiledIt
    rcases (finish_fails usable usableSchemas compiled).of_on ran failure rfl with
      generation | ⟨fault, rfl, holds⟩
    · exact .inl generation
    · rw [disk] at holds
      exact .inr (.undecodable compiler number ready written outcome fault wrote succeeded holds)
  | attempted ready compiled finished logged compiledIt modules finishedIt published _ ran =>
    cases published with
    | ok _ => cases same
    | error other =>
      cases same
      exact .inl ((failsOnly_publish usable finished).of_on ran failure rfl).isGeneration

/-- A run whose schemas can be listed fails as generation does, or its failure escapes. -/
theorem isGeneration_or_escape {listing : List String} (answering : Answering lookup)
    (listedIt : invocation.virtualPaths = .ok listing)
    (usableSchemas : ∀ schema ∈ listing, '\x00' ∉ schema.toList)
    (failed : (generate lookup run invocation policy).on before = (.error failure, after)) :
    IsGeneration failure ∨ Escape run invocation policy after failure := by
  have course := (generate_course before).of_on failed
  generalize same : (Except.error failure : Except Failure Unit) = result at course
  cases course with
  | unresolved other resolved _ ran =>
    cases same
    exact .inl (((resolve_answering answering before).of_on ran).2 failure rfl)
  | unlisted compiler error _ resolved listed =>
    rw [listedIt] at listed
    cases listed
  | unstaged compiler ready resolved other stopped _ ran logged =>
    cases same
    rcases (stage_fails _ ready).of_on ran with unwritten | ⟨rfl, null⟩
    · exact .inl unwritten.isGeneration
    · exact .inr (.unusable null)
  | worked compiler schemas ready resolved listed staging staged stagedIt result left effort final
      cleaned _ ran logged =>
    rw [listedIt] at listed
    cases listed
    obtain ⟨number, rfl, usable⟩ := (stage_fails _ ready).of_on stagedIt
    have removal := (cleanUp_removal _ left).of_on ran
    cases removal with
    | withheld code withheld =>
      cases same
      exact .inr (.withheld number code (withheld.logged logged))
    | nothing | discarded =>
      cases result with
      | ok modules => cases same
      | error other =>
        cases same
        exact effort.fails usable usableSchemas

end Generation

end Bindery
