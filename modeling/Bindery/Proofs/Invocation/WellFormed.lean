/-
This file proves that exactly the well-formed invocations pass their checks.

An invocation is well formed if its include directory leads to a directory, and if it has schemas
that lead to files inside of that directory, each to a file of its own. How the paths are spelled
does not matter, nor whether there are links on them.
-/

import Bindery.Proofs.Invocation.Followed

namespace Bindery

open Bindery.Disk

theorem Path.isBelow_ofPlace_iff {place directory : Place} :
    (Path.ofPlace place).isBelow (Path.ofPlace directory) = true ↔ directory <+: place := by
  unfold Path.isBelow
  rw [Option.isSome_iff_exists]
  constructor
  · rintro ⟨rest, found⟩
    obtain ⟨-, shape⟩ := (Path.relativeTo?_eq_some_iff _ _ _).mp found
    exact ⟨rest.parts, (Path.mk.inj shape).2.symm⟩
  · rintro ⟨rest, rfl⟩
    exact ⟨⟨.relative, rest⟩, (Path.relativeTo?_eq_some_iff _ _ _).mpr ⟨rfl, rfl⟩⟩

namespace Invocation

open Bindery.Action

variable {machine : Machine} {directory : Place} {includeDirectory outputDirectory : Path}
  {inputFiles : List Path} {compilerOverride : Option Path}

/-! ### Well-formed invocations -/

/-- A schema leads to a file inside of the include directory. A relative path starts from there. -/
structure IsSchema (machine : Machine) (directory : Place) (file : Path) (place : Place) :
    Prop where
  leads : LeadsTo machine (Path.ofPlace directory ++ file) place
  inside : directory <+: place
  isFile : ∃ bytes mode, machine.disk.get? place = some (.file bytes mode)

/-- The include directory and the schemas are there, and no two schemas are the same. -/
structure WellFormed (machine : Machine) (includeDirectory : Path) (inputFiles : List Path)
    (directory : Place) (places : List Place) : Prop where
  leads : LeadsTo machine includeDirectory directory
  isDirectory : machine.disk.HasDirectory directory
  some : inputFiles ≠ []
  schemas : List.Forall₂ (IsSchema machine directory) inputFiles places
  distinct : places.Nodup

/-- The paths of an invocation are followed to their ends, those of the schemas as they are seen
from the include directory. -/
structure AllClear (machine : Machine) (includeDirectory : Path) (inputFiles : List Path) :
    Prop where
  included : Clear machine includeDirectory
  schemas : ∀ directory, LeadsTo machine includeDirectory directory →
    ∀ file ∈ inputFiles, Clear machine (Path.ofPlace directory ++ file)

/-! ### Checks of paths that are followed -/

theorem isFile_iff {place : Place} :
    (machine.disk.get? place).any Node.isFile = true ↔
      ∃ bytes mode, machine.disk.get? place = some (.file bytes mode) := by
  cases machine.disk.get? place with
  | none => simp
  | some node => cases node <;> simp [Node.isFile]

theorem isDirectory_iff {place : Place} :
    (machine.disk.get? place).any Node.isDirectory = true ↔ machine.disk.HasDirectory place := by
  unfold HasDirectory
  cases machine.disk.get? place with
  | none => simp
  | some node => cases node <;> simp [Node.isDirectory]

/-- The checks of a schema that is followed, in their order. -/
theorem on_checkFiles_cons {accepted : List Place} {file : Path} {rest : List Path} {place : Place}
    (followed : Followed machine (Path.ofPlace directory ++ file) place) :
    (checkFiles (Path.ofPlace directory) (accepted.map Path.ofPlace) (file :: rest)).on machine =
      if ¬ directory <+: place then
        (.ok (.error (.outside (Path.ofPlace place) (Path.ofPlace directory))), machine)
      else if ¬ (machine.disk.get? place).any Node.isFile then
        (.ok (.error (.missing (Path.ofPlace place))), machine)
      else if place ∈ accepted then (.ok (.error (.repeated (Path.ofPlace place))), machine)
      else
        (checkFiles (Path.ofPlace directory) ((accepted ++ [place]).map Path.ofPlace) rest).on
          machine := by
  have repeated : (accepted.map Path.ofPlace).contains (Path.ofPlace place) = true ↔
      place ∈ accepted := by
    rw [List.contains_iff_mem, List.mem_map_of_injective Path.ofPlace_injective]
  rw [checkFiles, on_bind, followed.resolved]
  dsimp only
  by_cases inside : directory <+: place
  · rw [if_neg (not_not_intro inside), Path.isBelow_ofPlace_iff.mpr inside, if_neg (by decide),
      on_bind, on_isFile, followed.answered]
    dsimp only [Except.map]
    by_cases isFile : (machine.disk.get? place).any Node.isFile = true
    · rw [if_neg (not_not_intro isFile), isFile, if_neg (by decide)]
      by_cases again : place ∈ accepted
      · rw [if_pos (repeated.mpr again), if_pos again]
        rfl
      · rw [if_neg (mt repeated.mp again), if_neg again, List.map_append]
        rfl
    · rw [if_pos isFile, Bool.eq_false_iff.mpr isFile, if_pos (by decide)]
      rfl
  · rw [if_pos inside, if_pos (by simpa using mt Path.isBelow_ofPlace_iff.mp inside)]
    rfl

/-- Schemas lead to files inside of the include directory; no two of these are the same, nor is one
of them among those before. -/
def Accepts (machine : Machine) (directory : Place) (accepted : List Place) (inputFiles : List Path)
    (places : List Place) : Prop :=
  List.Forall₂ (IsSchema machine directory) inputFiles places ∧ (accepted ++ places).Nodup

theorem Accepts.cons {accepted places : List Place} {file : Path} {rest : List Path} {place : Place}
    (schema : IsSchema machine directory file place)
    (accepts : Accepts machine directory (accepted ++ [place]) rest places) :
    Accepts machine directory accepted (file :: rest) (place :: places) := by
  obtain ⟨schemas, distinct⟩ := accepts
  rw [← List.append_cons] at distinct
  exact ⟨.cons schema schemas, distinct⟩

theorem Accepts.of_cons {accepted places : List Place} {file : Path} {rest : List Path}
    {place : Place} (leads : LeadsTo machine (Path.ofPlace directory ++ file) place)
    (accepts : Accepts machine directory accepted (file :: rest) places) :
    IsSchema machine directory file place ∧ place ∉ accepted ∧
      ∃ others, Accepts machine directory (accepted ++ [place]) rest others := by
  obtain ⟨schemas, distinct⟩ := accepts
  cases schemas with
  | @cons _ first _ others schema schemas =>
    cases leads.unique schema.leads
    refine ⟨schema, fun again => ?_, others, schemas, ?_⟩
    · exact (List.nodup_append.mp distinct).2.2 place again place List.mem_cons_self rfl
    · rwa [← List.append_cons]

/-- The schemas pass the checks if they are accepted; otherwise one of them is refused. -/
theorem on_checkFiles (orderly : machine.Orderly) {accepted : List Place}
    (clear : ∀ file ∈ inputFiles, Clear machine (Path.ofPlace directory ++ file))
    (distinct : accepted.Nodup) :
    (∃ places, Accepts machine directory accepted inputFiles places ∧
      (checkFiles (Path.ofPlace directory) (accepted.map Path.ofPlace) inputFiles).on machine =
        (.ok (.ok ((accepted ++ places).map Path.ofPlace)), machine)) ∨
    (∀ places, ¬ Accepts machine directory accepted inputFiles places) ∧
      ∃ result, (checkFiles (Path.ofPlace directory) (accepted.map Path.ofPlace) inputFiles).on
        machine = (result, machine) ∧
          (result = .error (.value .embeddedNull) ∨ ∃ issue, result = .ok (.error issue)) := by
  induction inputFiles generalizing accepted with
  | nil =>
    refine .inl ⟨[], ⟨.nil, ?_⟩, ?_⟩
    · rwa [List.append_nil]
    · rw [List.append_nil]
      rfl
  | cons file rest inductionHypothesis =>
    cases usable : holdsNull (Path.ofPlace directory ++ file) with
    | true =>
      refine .inr ⟨fun places accepts => ?_, _, ?_, .inl rfl⟩
      · cases accepts.1 with
        | cons schema _ =>
          rw [schema.leads.1] at usable
          cases usable
      · rw [checkFiles, on_bind, on_resolve_of_holdsNull usable]
    | false =>
      obtain ⟨place, followed⟩ :=
        (clear file List.mem_cons_self).exists_followed orderly usable
      rw [on_checkFiles_cons followed]
      by_cases inside : directory <+: place
      · rw [if_neg (not_not_intro inside)]
        by_cases isFile : (machine.disk.get? place).any Node.isFile = true
        · rw [if_neg (not_not_intro isFile)]
          by_cases again : place ∈ accepted
          · rw [if_pos again]
            exact .inr ⟨fun places accepts => (accepts.of_cons followed.leads).2.1 again, _, rfl,
              .inr ⟨_, rfl⟩⟩
          · rw [if_neg again]
            have schema : IsSchema machine directory file place :=
              ⟨followed.leads, inside, isFile_iff.mp isFile⟩
            have distinctMore : (accepted ++ [place]).Nodup :=
              List.nodup_append.mpr ⟨distinct, List.nodup_singleton place, fun each member other
                isPlace same => again (List.mem_singleton.mp isPlace ▸ same ▸ member)⟩
            rcases inductionHypothesis (fun each member => clear each
              (List.mem_cons_of_mem _ member)) distinctMore with ⟨places, accepts, passed⟩ |
              ⟨refused, ended⟩
            · rw [passed, ← List.append_cons]
              exact .inl ⟨place :: places, accepts.cons schema, rfl⟩
            · refine .inr ⟨fun places accepts => ?_, ended⟩
              obtain ⟨others, acceptsOthers⟩ := (accepts.of_cons followed.leads).2.2
              exact refused others acceptsOthers
        · rw [if_pos isFile]
          exact .inr ⟨fun places accepts => isFile (isFile_iff.mpr
            (accepts.of_cons followed.leads).1.isFile), _, rfl, .inr ⟨_, rfl⟩⟩
      · rw [if_pos inside]
        exact .inr ⟨fun places accepts => inside (accepts.of_cons followed.leads).1.inside, _, rfl,
          .inr ⟨_, rfl⟩⟩

/-- The include directory passes its check if it leads to a directory. -/
theorem on_checkInclude (orderly : machine.Orderly) (clear : Clear machine includeDirectory) :
    (∃ directory, LeadsTo machine includeDirectory directory ∧ machine.disk.HasDirectory directory ∧
      (checkInclude includeDirectory).on machine = (.ok (.ok (Path.ofPlace directory)), machine)) ∨
    (∀ directory, LeadsTo machine includeDirectory directory →
      ¬ machine.disk.HasDirectory directory) ∧
      ∃ findings, (checkInclude includeDirectory).on machine =
        (.ok (.error findings), machine) := by
  unfold checkInclude asFinding
  simp only [bind_assoc]
  rw [on_bind, on_outcome]
  cases usable : holdsNull includeDirectory with
  | true =>
    rw [on_resolve_of_holdsNull usable]
    refine .inr ⟨fun directory leads => ?_, _, rfl⟩
    rw [leads.1] at usable
    cases usable
  | false =>
    obtain ⟨directory, followed⟩ := clear.exists_followed orderly usable
    rw [followed.resolved]
    dsimp only
    rw [pure_bind, on_bind, on_isDirectory, followed.answered]
    dsimp only [Except.map]
    by_cases isDirectory : (machine.disk.get? directory).any Node.isDirectory = true
    · rw [if_pos isDirectory]
      exact .inl ⟨directory, followed.leads, isDirectory_iff.mp isDirectory, rfl⟩
    · rw [if_neg isDirectory]
      refine .inr ⟨fun other leads there => ?_, _, rfl⟩
      cases followed.leads.unique leads
      exact isDirectory (isDirectory_iff.mpr there)

/-- The schemas pass the checks if there are some and they are accepted. -/
theorem on_checkSchemas (orderly : machine.Orderly)
    (clear : ∀ file ∈ inputFiles, Clear machine (Path.ofPlace directory ++ file)) :
    (inputFiles ≠ [] ∧ ∃ places, Accepts machine directory [] inputFiles places ∧
      (checkSchemas (Path.ofPlace directory) inputFiles).on machine =
        (.ok (.ok (places.map Path.ofPlace)), machine)) ∨
    (∀ places, inputFiles ≠ [] → ¬ Accepts machine directory [] inputFiles places) ∧
      ∃ findings, (checkSchemas (Path.ofPlace directory) inputFiles).on machine =
        (.ok (.error findings), machine) := by
  unfold checkSchemas
  by_cases none : inputFiles = []
  · rw [none]
    exact .inr ⟨fun _ some => absurd rfl some, _, rfl⟩
  · rw [if_neg (by simpa using none)]
    unfold asFinding
    simp only [bind_assoc]
    rw [on_bind, on_outcome]
    rcases on_checkFiles orderly clear List.nodup_nil with ⟨places, accepts, passed⟩ |
      ⟨refused, result, ended, rfl | ⟨issue, rfl⟩⟩
    · rw [List.map_nil] at passed
      rw [passed]
      exact .inl ⟨none, places, accepts, rfl⟩
    · rw [List.map_nil] at ended
      rw [ended]
      exact .inr ⟨fun places _ => refused places, _, rfl⟩
    · rw [List.map_nil] at ended
      rw [ended]
      exact .inr ⟨fun places _ => refused places, _, rfl⟩

theorem on_absolute (path : Path) (machine : Machine) : (Action.absolute path).on machine =
    (.ok (Path.absolute ⟨.root, machine.host.here⟩ path), machine) := rfl

theorem on_ofPaths_of_refused {findings : List Finding}
    (refused : (checkInclude includeDirectory).on machine = (.ok (.error findings), machine)) :
    ∃ found, (ofPaths includeDirectory inputFiles outputDirectory compilerOverride).on machine =
      (.error (.invalid ⟨subject, found⟩), machine) := by
  unfold ofPaths assemble andCheck
  simp only [bind_assoc, pure_bind]
  rw [on_bind, refused]
  dsimp only
  rw [on_bind, on_absolute]
  exact ⟨_, rfl⟩

/-- What becomes of the checks of the schemas when all else is right. -/
def concluded (directory output : Path) (compilerOverride : Option Path) :
    Checked (List Path) → Except Failure Invocation
  | .ok files => .ok ⟨directory, files, output, compilerOverride⟩
  | .error findings => .error (.invalid ⟨subject, findings⟩)

theorem on_ofPaths_of_included {real : Path} {schemas : Checked (List Path)}
    (included : (checkInclude includeDirectory).on machine = (.ok (.ok real), machine))
    (checked : (checkSchemas real inputFiles).on machine = (.ok schemas, machine)) :
    (ofPaths includeDirectory inputFiles outputDirectory compilerOverride).on machine =
      (concluded real (Path.absolute ⟨.root, machine.host.here⟩ outputDirectory) compilerOverride
        schemas, machine) := by
  unfold ofPaths assemble andCheck
  simp only [bind_assoc, pure_bind]
  rw [on_bind, included]
  dsimp only
  rw [on_bind, on_absolute]
  show (checkSchemas real inputFiles >>= _).on machine = _
  rw [on_bind, checked]
  cases schemas <;> rfl

/-- An invocation is made if it is well formed, and refused with findings otherwise. -/
theorem on_ofPaths (orderly : machine.Orderly)
    (clear : AllClear machine includeDirectory inputFiles) :
    (∃ directory places, WellFormed machine includeDirectory inputFiles directory places ∧
      (ofPaths includeDirectory inputFiles outputDirectory compilerOverride).on machine =
        (.ok ⟨Path.ofPlace directory, places.map Path.ofPlace,
          Path.absolute ⟨.root, machine.host.here⟩ outputDirectory, compilerOverride⟩, machine)) ∨
    (∀ directory places, ¬ WellFormed machine includeDirectory inputFiles directory places) ∧
      ∃ findings,
        (ofPaths includeDirectory inputFiles outputDirectory compilerOverride).on machine =
          (.error (.invalid ⟨subject, findings⟩), machine) := by
  rcases on_checkInclude orderly clear.included with ⟨directory, leads, isDirectory, included⟩ |
    ⟨refused, findings, ended⟩
  · rcases on_checkSchemas orderly (clear.schemas directory leads) with
      ⟨some, places, ⟨schemas, distinct⟩, checked⟩ | ⟨refused, findings, checked⟩
    · exact .inl ⟨directory, places, ⟨leads, isDirectory, some, schemas, distinct⟩,
        on_ofPaths_of_included included checked⟩
    · refine .inr ⟨fun other places wellFormed => ?_, findings,
        on_ofPaths_of_included included checked⟩
      cases leads.unique wellFormed.leads
      exact refused places wellFormed.some ⟨wellFormed.schemas, wellFormed.distinct⟩
  · exact .inr ⟨fun directory places wellFormed =>
      refused directory wellFormed.leads wellFormed.isDirectory, on_ofPaths_of_refused ended⟩

end Invocation

end Bindery
