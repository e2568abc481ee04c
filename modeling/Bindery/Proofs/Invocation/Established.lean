/-
This file proves what the checks of an invocation establish.

The schemas of an invocation that passed are given by paths without links and points, which lead to
themselves. Inside of the include directory they have names of their own, which lead back to them.
The checks change nothing on such an invocation: it passes them again as it is.
-/

import Bindery.Proofs.Invocation.WellFormed

namespace Bindery

open Bindery.Disk

namespace Invocation

open Bindery.Action

variable {machine : Machine} {directory : Place} {includeDirectory outputDirectory : Path}
  {inputFiles : List Path} {compilerOverride : Option Path}

/-! ### Invocations that were made -/

theorem ofPlace_append_ofPlace (directory place : Place) :
    Path.ofPlace directory ++ Path.ofPlace place = Path.ofPlace place := rfl

/-- The schema of a file. -/
theorem exists_schema {places : List Place} {place : Place}
    (schemas : List.Forall₂ (IsSchema machine directory) inputFiles places)
    (member : place ∈ places) : ∃ file ∈ inputFiles, IsSchema machine directory file place := by
  induction schemas with
  | nil => cases member
  | cons schema _ inductionHypothesis =>
    rcases List.mem_cons.mp member with rfl | later
    · exact ⟨_, List.mem_cons_self, schema⟩
    · obtain ⟨file, inside, found⟩ := inductionHypothesis later
      exact ⟨file, List.mem_cons_of_mem _ inside, found⟩

namespace WellFormed

variable {places : List Place}

theorem followed_include (orderly : machine.Orderly)
    (clear : AllClear machine includeDirectory inputFiles)
    (wellFormed : WellFormed machine includeDirectory inputFiles directory places) :
    Followed machine includeDirectory directory := by
  obtain ⟨other, followed⟩ := clear.included.exists_followed orderly wellFormed.leads.1
  cases wellFormed.leads.unique followed.leads
  exact followed

theorem followed_schema (orderly : machine.Orderly)
    (clear : AllClear machine includeDirectory inputFiles)
    (wellFormed : WellFormed machine includeDirectory inputFiles directory places) {file : Path}
    (member : file ∈ inputFiles) {place : Place} (schema : IsSchema machine directory file place) :
    Followed machine (Path.ofPlace directory ++ file) place := by
  obtain ⟨other, followed⟩ := (clear.schemas directory wellFormed.leads file
    member).exists_followed orderly schema.leads.1
  cases schema.leads.unique followed.leads
  exact followed

/-- The schemas of an invocation lead to one list of places at most. -/
theorem places_unique {others : List Place}
    (wellFormed : WellFormed machine includeDirectory inputFiles directory places)
    (again : WellFormed machine includeDirectory inputFiles directory others) : places = others :=
  List.right_unique_forall₂' (fun _ _ _ first second => first.leads.unique second.leads)
    wellFormed.schemas again.schemas

/-- The path of a schema without links and points is a schema as well, and it is followed. -/
theorem settled (orderly : machine.Orderly)
    (clear : AllClear machine includeDirectory inputFiles)
    (wellFormed : WellFormed machine includeDirectory inputFiles directory places) {place : Place}
    (member : place ∈ places) : IsSchema machine directory (Path.ofPlace place) place ∧
      Clear machine (Path.ofPlace place) := by
  obtain ⟨file, inside, schema⟩ := exists_schema wellFormed.schemas member
  have followed := wellFormed.followed_schema orderly clear inside schema
  obtain ⟨bytes, mode, there⟩ := schema.isFile
  refine ⟨⟨?_, schema.inside, schema.isFile⟩, followed.clear orderly there⟩
  rw [ofPlace_append_ofPlace]
  exact followed.leadsTo_ofPlace orderly there

/-- What was made of a well-formed invocation is well formed, and its paths are followed. -/
theorem again (orderly : machine.Orderly) (clear : AllClear machine includeDirectory inputFiles)
    (wellFormed : WellFormed machine includeDirectory inputFiles directory places) :
    AllClear machine (Path.ofPlace directory) (places.map Path.ofPlace) ∧
      WellFormed machine (Path.ofPlace directory) (places.map Path.ofPlace) directory places := by
  have followed := wellFormed.followed_include orderly clear
  obtain ⟨mode, there⟩ := wellFormed.isDirectory
  refine ⟨⟨followed.clear orderly there, fun other _ file member => ?_⟩,
    followed.leadsTo_ofPlace orderly there, wellFormed.isDirectory, ?_, ?_, wellFormed.distinct⟩
  · obtain ⟨place, inside, rfl⟩ := List.mem_map.mp member
    rw [ofPlace_append_ofPlace]
    exact (wellFormed.settled orderly clear inside).2
  · intro none
    have noPlaces : places = [] := List.map_eq_nil_iff.mp none
    have schemas := wellFormed.schemas
    rw [noPlaces] at schemas
    cases schemas
    exact wellFormed.some rfl
  · rw [List.forall₂_map_left_iff, List.forall₂_same]
    exact fun place inside => (wellFormed.settled orderly clear inside).1

end WellFormed

/-! ### Names inside of the include directory -/

/-- The name of a place inside of a directory. -/
def insideName (directory place : Place) : String :=
  (⟨.relative, place.drop directory.length⟩ : Path).text

theorem seenFrom_ofPlace {places : List Place} (inside : ∀ place ∈ places, directory <+: place) :
    seenFrom (Path.ofPlace directory) (places.map Path.ofPlace) =
      .ok (places.map (insideName directory)) := by
  induction places with
  | nil => rfl
  | cons place rest inductionHypothesis =>
    obtain ⟨names, shape⟩ := inside place List.mem_cons_self
    have relative : (Path.ofPlace place).relativeTo (Path.ofPlace directory) =
        .ok ⟨.relative, place.drop directory.length⟩ := by
      have found : (Path.ofPlace place).relativeTo? (Path.ofPlace directory) =
          some ⟨.relative, place.drop directory.length⟩ := by
        rw [← shape, List.drop_left]
        exact (Path.relativeTo?_eq_some_iff _ _ _).mpr ⟨rfl, rfl⟩
      rw [Path.relativeTo, found]
    rw [List.map_cons, List.map_cons, seenFrom, relative]
    dsimp only
    rw [inductionHypothesis fun each member => inside each (List.mem_cons_of_mem _ member)]
    rfl

theorem parse_insideName {place : Place} (named : ∀ name ∈ place, IsName name)
    (slashless : ∀ name ∈ place, '/' ∉ name.toList) :
    Path.parse (insideName directory place) = ⟨.relative, place.drop directory.length⟩ :=
  Path.parse_text_relative (fun name member => named name (List.mem_of_mem_drop member))
    fun name member => slashless name (List.mem_of_mem_drop member)

/-- The name of a place leads back to it. -/
theorem child_insideName {place : Place} (named : ∀ name ∈ place, IsName name)
    (slashless : ∀ name ∈ place, '/' ∉ name.toList) (inside : directory <+: place) :
    (Path.ofPlace directory).child (insideName directory place) = Path.ofPlace place := by
  obtain ⟨names, rfl⟩ := inside
  show (Path.ofPlace directory).append (Path.parse _) = _
  rw [parse_insideName named slashless, List.drop_left]
  rfl

/-! ### What the checks establish -/

/-- The names of the schemas lead to them from the include directory, and each is a name of its
own. -/
structure NamesInputs (invocation : Invocation) (names : List String) : Prop where
  listed : invocation.virtualPaths = .ok names
  relative : ∀ name ∈ names, (Path.parse name).isAbsolute = false
  upless : ∀ name ∈ names, ".." ∉ (Path.parse name).parts
  distinct : names.Nodup
  leadBack : names.map invocation.includeDirectory.child = invocation.inputFiles

/-- What is known of an invocation whose checks were passed. -/
structure Established (machine : Machine) (includeDirectory : Path) (inputFiles : List Path)
    (invocation : Invocation) : Prop where
  included : (resolve includeDirectory).on machine = (.ok invocation.includeDirectory, machine)
  /-- The schemas are the given ones in their order, without links and points. -/
  resolved : List.Forall₂ (fun file input =>
    (resolve (invocation.includeDirectory ++ file)).on machine = (.ok input, machine)) inputFiles
    invocation.inputFiles
  absolute : ∀ input ∈ invocation.inputFiles, input.isAbsolute = true
  fixed : ∀ input ∈ invocation.inputFiles, (resolve input).on machine = (.ok input, machine)
  distinct : invocation.inputFiles.Nodup
  named : ∃ names, NamesInputs invocation names
  again : (ofPaths invocation.includeDirectory invocation.inputFiles invocation.outputDirectory
    invocation.compilerOverride).on machine = (.ok invocation, machine)

theorem WellFormed.namesInputs {places : List Place} {output : Path} (orderly : machine.Orderly)
    (clear : AllClear machine includeDirectory inputFiles) (slashless : includeDirectory.Slashless)
    (filesSlashless : ∀ file ∈ inputFiles, file.Slashless)
    (wellFormed : WellFormed machine includeDirectory inputFiles directory places) :
    NamesInputs ⟨Path.ofPlace directory, places.map Path.ofPlace, output, compilerOverride⟩
      (places.map (insideName directory)) := by
  have inside : ∀ place ∈ places, directory <+: place := fun place member =>
    (wellFormed.settled orderly clear member).1.inside
  have directorySlashless := wellFormed.leads.slashless orderly slashless
  have spelled : ∀ place ∈ places,
      (∀ name ∈ place, IsName name) ∧ ∀ name ∈ place, '/' ∉ name.toList := by
    intro place member
    obtain ⟨file, given, schema⟩ := exists_schema wellFormed.schemas member
    have seen : (Path.ofPlace directory ++ file).Slashless :=
      Path.Slashless.append directorySlashless (filesSlashless file given)
    exact ⟨schema.leads.named orderly, schema.leads.slashless orderly seen⟩
  have leadBack : (places.map (insideName directory)).map (Path.ofPlace directory).child =
      places.map Path.ofPlace := by
    rw [List.map_map]
    exact List.map_congr_left fun place member =>
      child_insideName (spelled place member).1 (spelled place member).2 (inside place member)
  have parsed : ∀ name ∈ places.map (insideName directory), ∃ place ∈ places,
      Path.parse name = ⟨.relative, place.drop directory.length⟩ := by
    intro name member
    obtain ⟨place, given, rfl⟩ := List.mem_map.mp member
    exact ⟨place, given, parse_insideName (spelled place given).1 (spelled place given).2⟩
  refine ⟨seenFrom_ofPlace inside, fun name member => ?_, fun name member => ?_, ?_, leadBack⟩
  · obtain ⟨place, -, shape⟩ := parsed name member
    rw [shape]
    rfl
  · obtain ⟨place, given, shape⟩ := parsed name member
    rw [shape]
    exact fun up => ((spelled place given).1 ".." (List.mem_of_mem_drop up)).2.2 rfl
  · refine List.Nodup.of_map (Path.ofPlace directory).child ?_
    rw [leadBack]
    exact wellFormed.distinct.map Path.ofPlace_injective

/-- The checks of a well-formed invocation establish what is known of it. -/
theorem WellFormed.established {places : List Place} (orderly : machine.Orderly)
    (clear : AllClear machine includeDirectory inputFiles) (slashless : includeDirectory.Slashless)
    (filesSlashless : ∀ file ∈ inputFiles, file.Slashless)
    (wellFormed : WellFormed machine includeDirectory inputFiles directory places) :
    Established machine includeDirectory inputFiles ⟨Path.ofPlace directory,
      places.map Path.ofPlace, Path.absolute ⟨.root, machine.host.here⟩ outputDirectory,
      compilerOverride⟩ := by
  have followed := List.forall₂_iff_zip.mp wellFormed.schemas
  obtain ⟨clearAgain, wellFormedAgain⟩ := wellFormed.again orderly clear
  refine ⟨(wellFormed.followed_include orderly clear).resolved, ?_, ?_, ?_,
    wellFormed.distinct.map Path.ofPlace_injective,
    ⟨_, wellFormed.namesInputs orderly clear slashless filesSlashless⟩, ?_⟩
  · rw [List.forall₂_map_right_iff, List.forall₂_iff_zip]
    exact ⟨followed.1, fun paired => (wellFormed.followed_schema orderly clear
      (List.of_mem_zip paired).1 (followed.2 paired)).resolved⟩
  · intro input member
    obtain ⟨place, -, rfl⟩ := List.mem_map.mp member
    rfl
  · intro input member
    obtain ⟨place, inside, rfl⟩ := List.mem_map.mp member
    exact (wellFormedAgain.followed_schema orderly clearAgain member
      (wellFormed.settled orderly clear inside).1).resolved
  · have outputAgain : Path.absolute ⟨.root, machine.host.here⟩
        (Path.absolute ⟨.root, machine.host.here⟩ outputDirectory) =
          Path.absolute ⟨.root, machine.host.here⟩ outputDirectory :=
      if_pos (Path.isAbsolute_append rfl outputDirectory)
    rcases on_ofPaths orderly clearAgain with ⟨other, others, made, ran⟩ | ⟨refused, -⟩
    · cases made.leads.unique wellFormedAgain.leads
      cases made.places_unique wellFormedAgain
      rw [ran, outputAgain]
    · exact absurd wellFormedAgain (refused _ _)

/-- The arguments of an invocation, with its paths as texts. -/
def pathArguments (includeDirectory : String) (inputFiles : List String) (outputDirectory : String)
    (compilerOverride : Option String) : Arguments :=
  [("include_directory", .text includeDirectory),
    ("input_files", .list (inputFiles.map Datum.text)),
    ("output_directory", .text outputDirectory),
    ("compiler_path_override", (compilerOverride.map Datum.text).getD .null)]

theorem items_readPath (index : Nat) (texts : List String) :
    Checked.items Datum.readPath index (texts.map Datum.text) = .ok (texts.map Path.parse) := by
  induction texts generalizing index with
  | nil => rfl
  | cons text rest inductionHypothesis =>
    rw [List.map_cons, Checked.items, inductionHypothesis]
    rfl

theorem ofArguments_pathArguments (includeDirectory : String) (inputFiles : List String)
    (outputDirectory : String) (compilerOverride : Option String) :
    ofArguments (pathArguments includeDirectory inputFiles outputDirectory compilerOverride) =
      ofPaths (Path.parse includeDirectory) (inputFiles.map Path.parse) (Path.parse outputDirectory)
        (compilerOverride.map Path.parse) := by
  have files : Checked.required (pathArguments includeDirectory inputFiles outputDirectory
      compilerOverride) "input_files" Datum.readPaths = .ok (inputFiles.map Path.parse) :=
    congrArg (Checked.under _) (items_readPath 0 inputFiles)
  unfold ofArguments
  rw [files]
  cases compilerOverride <;> rfl

/-- Exactly the well-formed invocations are made, all others are refused with findings, and what is
made keeps what the checks establish. Nothing is changed on the machine. -/
theorem made_iff_wellFormed (orderly : machine.Orderly) (includeDirectory : String)
    (inputFiles : List String) (outputDirectory : String) (compilerOverride : Option String)
    (clear : AllClear machine (Path.parse includeDirectory) (inputFiles.map Path.parse)) :
    ∃ result,
      (ofArguments (pathArguments includeDirectory inputFiles outputDirectory compilerOverride)).on
        machine = (result, machine) ∧
      ((∃ invocation, result = .ok invocation) ↔ ∃ directory places, WellFormed machine
        (Path.parse includeDirectory) (inputFiles.map Path.parse) directory places) ∧
      (∀ failure, result = .error failure → ∃ findings, failure = .invalid ⟨subject, findings⟩) ∧
      ∀ invocation, result = .ok invocation → Established machine (Path.parse includeDirectory)
        (inputFiles.map Path.parse) invocation := by
  have slashless : ∀ file ∈ inputFiles.map Path.parse, file.Slashless := by
    intro file member
    obtain ⟨text, -, rfl⟩ := List.mem_map.mp member
    exact Path.slashless_parse text
  rw [ofArguments_pathArguments]
  rcases on_ofPaths orderly clear with ⟨directory, places, wellFormed, ran⟩ |
    ⟨refused, findings, ran⟩
  · refine ⟨_, ran, ⟨fun _ => ⟨directory, places, wellFormed⟩, fun _ => ⟨_, rfl⟩⟩, ?_, ?_⟩
    · intro failure failed
      cases failed
    · intro invocation made
      cases made
      exact wellFormed.established orderly clear (Path.slashless_parse includeDirectory) slashless
  · refine ⟨_, ran, ⟨?_, ?_⟩, ?_, ?_⟩
    · rintro ⟨invocation, made⟩
      cases made
    · rintro ⟨directory, places, wellFormed⟩
      exact absurd wellFormed (refused directory places)
    · intro failure failed
      cases failed
      exact ⟨findings, rfl⟩
    · intro invocation made
      cases made

/-- A machine on which a link leads to the directory of two schemas. -/
def linkedSchemas : Machine :=
  Machine.fresh { here := ["p"] } ⟨[
    (["p"], .directory Disk.directoryMode),
    (["p", "link"], .link "real"),
    (["p", "real"], .directory Disk.directoryMode),
    (["p", "real", "a.proto"], .file [] Disk.fileMode),
    (["p", "real", "b.proto"], .file [] Disk.fileMode)]⟩

/-- The link is followed from the directory that the process is in, and from above the directory
that it leads to. -/
theorem linked_schemas_made :
    ∃ invocation, (ofArguments (pathArguments "link" ["a.proto", "../link/b.proto"] "out" none)).on
        linkedSchemas = (.ok invocation, linkedSchemas) ∧
      (∃ directory places, WellFormed linkedSchemas (Path.parse "link")
        (["a.proto", "../link/b.proto"].map Path.parse) directory places) ∧
      Established linkedSchemas (Path.parse "link")
        (["a.proto", "../link/b.proto"].map Path.parse) invocation := by
  have orderly : linkedSchemas.Orderly := by
    refine ⟨⟨isTree_of_entries (by decide +kernel), by decide +kernel, by decide⟩, by decide,
      by decide, fun link target found => ?_⟩
    have listed : link = ["p", "link"] ∧ target = "real" := by
      simpa [linkedSchemas, Machine.fresh] using mem_entries_of_link found
    rw [listed.2]
    decide
  have real : linkedSchemas.disk.nodeAt ["p"] false ⟨.relative, ["real"]⟩ =
      .ok (.directory Disk.directoryMode) := by decide +kernel
  have link : linkedSchemas.disk.nodeAt ["p"] false ⟨.relative, ["link"]⟩ = .ok (.link "real") := by
    decide +kernel
  have included : linkedSchemas.disk.Traced linkedSchemas.hides ["p"] (Path.parse "link")
      ["p", "real"] := by
    refine ⟨1, ⟨.relative, ["real"]⟩, ?_, by decide +kernel⟩
    exact .link (by decide) link rfl Nat.zero_lt_one (.found (by decide) real rfl .done) .done
  have top : linkedSchemas.disk.nodeAt ["p"] false (Path.ofPlace ["p"]) =
      .ok (.directory Disk.directoryMode) := by decide +kernel
  have below : linkedSchemas.disk.nodeAt ["p"] false (Path.ofPlace ["p", "real"]) =
      .ok (.directory Disk.directoryMode) := by decide +kernel
  have linkBelow : linkedSchemas.disk.nodeAt ["p"] false (Path.ofPlace ["p", "link"]) =
      .ok (.link "real") := by decide +kernel
  have first : linkedSchemas.disk.nodeAt ["p"] false (Path.ofPlace ["p", "real", "a.proto"]) =
      .ok (.file [] Disk.fileMode) := by decide +kernel
  have second : linkedSchemas.disk.nodeAt ["p"] false (Path.ofPlace ["p", "real", "b.proto"]) =
      .ok (.file [] Disk.fileMode) := by decide +kernel
  have clear : AllClear linkedSchemas (Path.parse "link")
      (["a.proto", "../link/b.proto"].map Path.parse) := by
    have directoryShown : linkedSchemas.look true (Path.ofPlace ["p", "real"]) =
        .ok (.directory Disk.directoryMode) := by decide +kernel
    have firstShown : linkedSchemas.look true (Path.ofPlace ["p", "real", "a.proto"]) =
        .ok (.file [] Disk.fileMode) := by decide +kernel
    have secondShown : linkedSchemas.look true (Path.ofPlace ["p", "real", "b.proto"]) =
        .ok (.file [] Disk.fileMode) := by decide +kernel
    refine ⟨fun _ => ⟨["p", "real"], included, not_withheld_of_look directoryShown⟩,
      fun directory leads file member => ?_⟩
    cases leads.unique ⟨by decide, included.resolves orderly.standing⟩
    rcases List.mem_pair.mp member with rfl | rfl
    · refine fun _ => ⟨["p", "real", "a.proto"], ⟨0, Path.ofPlace ["p", "real", "a.proto"], ?_,
        by decide +kernel⟩, not_withheld_of_look firstShown⟩
      exact .found (by decide) top rfl (.found (by decide) below rfl
        (.found (by decide) first rfl .done))
    · refine fun _ => ⟨["p", "real", "b.proto"], ⟨1, Path.ofPlace ["p", "real", "b.proto"], ?_,
        by decide +kernel⟩, not_withheld_of_look secondShown⟩
      refine .found (by decide) top rfl (.found (by decide) below rfl (.up ?_))
      exact .link (by decide) linkBelow rfl Nat.zero_lt_one (.found (by decide) below rfl .done)
        (.found (by decide) second rfl .done)
  obtain ⟨result, ran, made, -, established⟩ := made_iff_wellFormed orderly "link"
    ["a.proto", "../link/b.proto"] "out" none clear
  have passed : ((ofArguments (pathArguments "link" ["a.proto", "../link/b.proto"] "out"
      none)).on linkedSchemas).1 = .ok ⟨Path.ofPlace ["p", "real"],
        [Path.ofPlace ["p", "real", "a.proto"], Path.ofPlace ["p", "real", "b.proto"]],
        Path.ofPlace ["p", "out"], none⟩ := by
    decide +kernel
  rw [ran] at passed
  cases passed
  exact ⟨_, ran, made.mp ⟨_, rfl⟩, established _ rfl⟩

end Invocation

end Bindery
