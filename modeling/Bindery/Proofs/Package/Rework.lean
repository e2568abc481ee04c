/-
This file proves what making a package does to the tree below its root.

Wherever the root is, and whatever lies elsewhere, the tree of the package is the finished tree of
what lay below the root before. That the package could be made shows that the compiler wrote every
module.
-/

import Bindery.Proofs.Disk.Ground
import Bindery.Proofs.Machine.Nulls
import Bindery.Proofs.Package.Files

namespace Bindery

open Text Package

namespace Disk.Ground

variable {α β : Type} {ground : Ground} {demand more : Tree → Prop}
  {change moreChange : Tree → Tree}

/-! ### Work below a root -/

/-- A machine on which paths below the root lead where they say. -/
def Untouched (ground : Ground) (machine : Machine) : Prop :=
  machine.host.here = ground.here ∧ ground.Stands machine.disk

/-- What an action that changes the tree below the root comes to. If it does not fail, the tree met
a demand and was changed in a certain way. -/
structure Reworked (ground : Ground) (demand : Tree → Prop) (change : Tree → Tree)
    (machine : Machine) (result : Except Failure α) (after : Machine) : Prop where
  follows : machine.Follows after
  untouched : ground.Untouched after
  succeeded : ∀ value, result = .ok value → demand (machine.disk.tree ground.top) ∧
    after.disk.tree ground.top = change (machine.disk.tree ground.top)

section

variable {machine after : Machine}

theorem Reworked.done {value : α} (follows : machine.Follows after)
    (untouched : ground.Untouched after)
    (demanded : demand (machine.disk.tree ground.top))
    (changed : after.disk.tree ground.top = change (machine.disk.tree ground.top)) :
    ground.Reworked demand change machine (.ok value) after :=
  ⟨follows, untouched, fun _ _ => ⟨demanded, changed⟩⟩

theorem Reworked.failed {failure : Failure} (follows : machine.Follows after)
    (untouched : ground.Untouched after) :
    ground.Reworked demand change machine (.error failure : Except Failure α) after :=
  ⟨follows, untouched, fun _ impossible => by cases impossible⟩

end

/-- An action changes the tree below the root in a certain way, and demands something of it. -/
def Reworks (ground : Ground) (action : Action α) (demand : Tree → Prop) (change : Tree → Tree) :
    Prop :=
  ∀ machine, ground.Untouched machine → action.Meets machine (ground.Reworked demand change machine)

theorem reworks_pure (value : α) : ground.Reworks (pure value) (fun _ => True) id :=
  fun machine untouched => .done (.refl machine) untouched trivial rfl

/-- What follows an action makes its demand of the tree that the action left, and changes that. -/
theorem Reworks.bind {action : Action α} {next : α → Action β}
    (first : ground.Reworks action demand change)
    (rest : ∀ value machine after, action.on machine = (.ok value, after) →
      ground.Reworks (next value) more moreChange) :
    ground.Reworks (action >>= next) (fun tree => demand tree ∧ more (change tree))
      fun tree => moreChange (change tree) := by
  intro machine untouched
  have met : action.Meets machine fun result after =>
      action.on machine = (result, after) ∧ ground.Reworked demand change machine result after :=
    ⟨rfl, first machine untouched⟩
  refine met.bind ?_ ?_
  · rintro value between ⟨ran, reworked⟩
    refine (rest value machine between ran between reworked.untouched).mono ?_
    intro result after again
    refine ⟨reworked.follows.trans again.follows, again.untouched, fun last succeeded => ?_⟩
    obtain ⟨demanded, changed⟩ := reworked.succeeded value rfl
    obtain ⟨demandedAgain, changedAgain⟩ := again.succeeded last succeeded
    rw [changed] at demandedAgain changedAgain
    exact ⟨⟨demanded, demandedAgain⟩, changedAgain⟩
  · rintro failure between ⟨-, reworked⟩
    exact .failed reworked.follows reworked.untouched

/-- The same demand and the same change in other words. -/
theorem Reworks.congr {action : Action α} {otherDemand : Tree → Prop} {otherChange : Tree → Tree}
    (reworks : ground.Reworks action demand change)
    (weaker : ∀ tree, demand tree → otherDemand tree)
    (same : ∀ tree, change tree = otherChange tree) :
    ground.Reworks action otherDemand otherChange := by
  rw [← funext same]
  intro machine untouched
  refine (reworks machine untouched).mono fun result after reworked => ?_
  refine ⟨reworked.follows, reworked.untouched, fun value succeeded => ?_⟩
  exact (reworked.succeeded value succeeded).imp_left (weaker _)

/-- Writing a text writes its bytes to the file below the root. -/
theorem reworks_writeText {place : Place} (some : place ≠ [])
    (named : ∀ part ∈ place, IsName part) (text : String) :
    ground.Reworks (Action.writeText (ground.root.down place) text) (fun _ => True)
      fun tree => tree.write place (bytesOf text) := by
  rintro machine ⟨here, stands⟩
  refine (Action.attempt_meets .write _ _ machine).mono fun result after ended => ?_
  have follows := ended.follows (by decide)
  cases ended with
  | refused | unusable => exact .failed follows ⟨here, stands⟩
  | done disk usable worked =>
    rw [here] at worked
    obtain ⟨standsAfter, written⟩ := writeFile stands some named worked
    exact .done follows ⟨here, standsAfter⟩ trivial written

/-- Making the imports of a file relative reads and writes the file below the root. -/
theorem reworks_rewriteFile (generated : List String) (depth : Nat) {place : Place}
    (some : place ≠ []) (named : ∀ part ∈ place, IsName part) :
    ground.Reworks (rewriteFile generated depth (ground.root.down place))
      (Tree.Readable · place) (Tree.rewrite generated depth place) := by
  rintro machine ⟨here, stands⟩
  have counted := machine.follows_counted (show Primitive.read ≠ .rename by decide) machine.disk
  unfold rewriteFile
  refine (Action.readText_meets _ machine).bind ?_ ?_
  · rintro text between ⟨rfl, read⟩
    cases read with
    | read bytes source _ there decoded =>
      rw [here] at there
      obtain ⟨mode, found⟩ := readFile stands some named there
      have rewritten : Tree.rewrite generated depth place (machine.disk.tree ground.top) =
          (machine.disk.tree ground.top).write place
            (bytesOf (relativeImports depth generated (withUnixLines source))) := by
        unfold Tree.rewrite
        rw [found]
        dsimp only
        rw [decoded]
      refine (reworks_writeText some named _ (machine.counted .read) ⟨here, stands⟩).mono ?_
      intro result after written
      refine ⟨counted.trans written.follows, written.untouched, fun value succeeded => ?_⟩
      rw [rewritten]
      exact ⟨⟨_, found, bytes, mode, source, rfl, decoded⟩, (written.succeeded value succeeded).2⟩
  · rintro failure between ⟨rfl, -⟩
    exact .failed counted ⟨here, stands⟩

/-- What is asked for below the root is answered from the tree. -/
theorem Untouched.answer {machine : Machine} (untouched : ground.Untouched machine)
    {place : Place} (some : place ≠ []) (named : ∀ part ∈ place, IsName part)
    (usable : Action.holdsNull (ground.root.down place) = false) {found : Option Node}
    (answered : Action.answer machine (ground.root.down place) = .ok found) :
    found = machine.disk.tree ground.top place := by
  obtain ⟨here, stands⟩ := untouched
  have held := Action.nodeAt_of_answer usable answered
  rw [here] at held
  split at held
  next node there => rw [held, nodeAt stands some named there]
  next code refused =>
    obtain ⟨rfl, nowhere⟩ := held
    cases there : machine.disk.tree ground.top place with
    | none => rfl
    | some node =>
      rcases ground.present stands some named there with found | tooLong
      · cases found.symm.trans refused
      · cases tooLong.symm.trans refused
        exact absurd nowhere (by decide)

/-- An action for a path that leads nowhere, and another one for a path that leads to something,
change the tree as what lies at the path says. -/
theorem reworks_pathExists_bind {place : Place} (some : place ≠ [])
    (named : ∀ part ∈ place, IsName part)
    (usable : Action.holdsNull (ground.root.down place) = false) {next : Bool → Action α}
    (ifThere : ground.Reworks (next true) demand change)
    (ifNot : ground.Reworks (next false) more moreChange) :
    ground.Reworks (Action.pathExists (ground.root.down place) >>= next)
      (fun tree => if (tree place).isSome then demand tree else more tree)
      fun tree => if (tree place).isSome then change tree else moreChange tree := by
  intro machine untouched
  have asked : (Action.pathExists (ground.root.down place)).Meets machine fun result after =>
      after = machine ∧ ∀ value, result = .ok value →
        value = (machine.disk.tree ground.top place).isSome := by
    unfold Action.Meets
    rw [Action.on_pathExists]
    cases answered : Action.answer machine (ground.root.down place) with
    | error failure => exact ⟨rfl, fun _ impossible => by cases impossible⟩
    | ok found =>
      refine ⟨rfl, fun value succeeded => ?_⟩
      cases succeeded
      rw [untouched.answer some named usable answered]
  refine asked.bind ?_ ?_
  · rintro value between ⟨rfl, same⟩
    cases same value rfl
    cases there : (between.disk.tree ground.top place).isSome with
    | true =>
      refine (ifThere between untouched).mono fun result after reworked => ?_
      refine ⟨reworked.follows, reworked.untouched, ?_⟩
      simp only [there, if_true]
      exact reworked.succeeded
    | false =>
      refine (ifNot between untouched).mono fun result after reworked => ?_
      refine ⟨reworked.follows, reworked.untouched, ?_⟩
      simp only [there, Bool.false_eq_true, if_false]
      exact reworked.succeeded
  · rintro failure between ⟨rfl, -⟩
    exact .failed (.refl between) untouched

/-! ### Making a package in steps -/

/-- What marks one directory as a package comes before the others. -/
theorem markPackages_cons (root : Path) (package : Place) (rest : List Place) :
    markPackages ((package :: rest).map fun package => root.down package) =
      (do
        if !(← Action.pathExists (root.down (package ++ [initName]))) then
          Action.writeText (root.down (package ++ [initName])) header) >>= fun _ =>
        markPackages (rest.map fun package => root.down package) := by
  rw [List.map_cons, markPackages]
  have file : (⟨(root.down package).anchor, (root.down package).parts ++ [initName]⟩ : Path) =
      root.down (package ++ [initName]) := root.down_down package [initName]
  rw [file, bind_assoc]
  congr 1
  funext there
  cases there <;> rfl

/-- A module is finished by its source, its stub and its packages. -/
theorem finishModule_eq (root : Path) (generated : List String) {name : String}
    (named : IsModuleName name) :
    finishModule root generated name =
      rewriteFile generated (depth name) (root.down (fileOf name sourceSuffix)) >>= fun _ =>
        (do
          if ← Action.pathExists (root.down (fileOf name stubSuffix)) then
            rewriteFile generated (depth name) (root.down (fileOf name stubSuffix))) >>= fun _ =>
          markPackages ((packagesOf name).map fun package => root.down package) := by
  unfold finishModule orFail
  rw [modulePath_eq root named (by decide), modulePath_eq root named (by decide)]
  simp only [pure_bind, packagesAbove_fileOf, bind_assoc]
  congr 1
  funext _
  congr 1
  funext there
  cases there with
  | true => simp only [if_true]
  | false => simp only [Bool.false_eq_true, if_false, pure_bind]

/-- A package is made by its modules, the support module and its own module. -/
theorem finalize_eq (root : Path) (schemas : List String) (policy : Policy) :
    finalize root schemas policy =
      finishModules root (modulesOf schemas) (modulesOf schemas) >>= fun _ =>
        (do
          if policy.zeroCopyBuffers then
            Action.writeText (root.down Tree.buffersPlace) buffersText) >>= fun _ => do
          Action.writeText (root.down [initName]) (initText (modulesOf schemas) policy)
          return modulesOf schemas := by
  unfold finalize
  cases policy.zeroCopyBuffers <;> rfl

/-! ### Making a package -/

theorem reworks_mark {package : Place} (named : ∀ part ∈ package, IsName part)
    (usable : Action.holdsNull (ground.root.down (package ++ [initName])) = false) :
    ground.Reworks (do
      if !(← Action.pathExists (ground.root.down (package ++ [initName]))) then
        Action.writeText (ground.root.down (package ++ [initName])) header)
      (fun _ => True) fun tree => Tree.mark tree package := by
  have some : package ++ [initName] ≠ [] := by simp
  have namedAll : ∀ part ∈ package ++ [initName], IsName part := by
    intro part member
    rcases List.mem_append.mp member with front | final
    · exact named part front
    · rw [List.mem_singleton.mp final]
      decide
  exact (reworks_pathExists_bind some namedAll usable (reworks_pure ())
    (reworks_writeText some namedAll header)).congr (fun _ _ => trivial) fun _ => rfl

/-- Every directory becomes a package. -/
theorem reworks_markPackages {packages : List Place}
    (named : ∀ package ∈ packages, ∀ part ∈ package, IsName part)
    (usable : ∀ package ∈ packages,
      Action.holdsNull (ground.root.down (package ++ [initName])) = false) :
    ground.Reworks (markPackages (packages.map fun package => ground.root.down package))
      (fun _ => True) fun tree => packages.foldl Tree.mark tree := by
  induction packages with
  | nil => exact reworks_pure ()
  | cons package rest inductionHypothesis =>
    have first := reworks_mark (named package List.mem_cons_self)
      (usable package List.mem_cons_self)
    have others := inductionHypothesis
      (fun each member => named each (List.mem_cons_of_mem _ member))
      (fun each member => usable each (List.mem_cons_of_mem _ member))
    rw [markPackages_cons]
    exact (first.bind fun _ _ _ _ => others).congr (fun _ _ => trivial) fun _ => rfl

/-- A file that was rewritten has a path that can be handed to the system. -/
theorem usable_of_on_rewriteFile {generated : List String} {depth : Nat} {file : Path}
    {machine after : Machine} {value : Unit}
    (ran : (rewriteFile generated depth file).on machine = (.ok value, after)) :
    Action.holdsNull file = false := by
  have met : (rewriteFile generated depth file).Meets machine fun result _ =>
      result = .ok value → Action.holdsNull file = false := by
    unfold rewriteFile
    refine (Action.readText_meets file machine).bind ?_ ?_
    · rintro text between ⟨-, read⟩
      cases read with
      | read _ _ usable => exact fun _ => usable
    · intro failure between _ impossible
      cases impossible
  exact met.of_on ran rfl

theorem stub_usable {name : String}
    (usable : Action.holdsNull (ground.root.down (fileOf name sourceSuffix)) = false) :
    Action.holdsNull (ground.root.down (fileOf name stubSuffix)) = false ∧
      ∀ package ∈ packagesOf name,
        Action.holdsNull (ground.root.down (package ++ [initName])) = false := by
  obtain ⟨inRoot, inFile⟩ := Action.holdsNull_down_eq_false_iff.mp usable
  have inFront : ∀ part ∈ (pieces name).dropLast, '\x00' ∉ part.toList := fun part member =>
    inFile part (List.mem_append_left _ member)
  have inFinal : '\x00' ∉ ((pieces name).getLastD "").toList := by
    have whole := inFile _ (List.mem_append_right _ List.mem_cons_self)
    rw [String.toList_append] at whole
    exact fun member => whole (List.mem_append_left _ member)
  refine ⟨Action.holdsNull_down_eq_false_iff.mpr ⟨inRoot, fun part member => ?_⟩,
    fun package isPackage => Action.holdsNull_down_eq_false_iff.mpr ⟨inRoot, fun part member => ?_⟩⟩
  · rcases List.mem_append.mp member with front | final
    · exact inFront part front
    · rw [List.mem_singleton.mp final, String.toList_append]
      intro inEither
      rcases List.mem_append.mp inEither with inName | inSuffix
      · exact inFinal inName
      · exact absurd inSuffix (by decide)
  · rcases List.mem_append.mp member with front | final
    · exact inFront part ((mem_packagesOf.mp isPackage).2.subset front)
    · rw [List.mem_singleton.mp final]
      decide

theorem reworks_stub (generated : List String) (depth : Nat) {place : Place} (some : place ≠ [])
    (named : ∀ part ∈ place, IsName part)
    (usable : Action.holdsNull (ground.root.down place) = false) :
    ground.Reworks (do
      if ← Action.pathExists (ground.root.down place) then
        rewriteFile generated depth (ground.root.down place))
      (fun tree => tree place ≠ none → tree.Readable place)
      (Tree.rewrite generated depth place) := by
  refine (reworks_pathExists_bind some named usable
    (reworks_rewriteFile generated depth some named) (reworks_pure ())).congr ?_ ?_
  · intro tree demanded there
    rw [if_pos (Option.isSome_iff_ne_none.mpr there)] at demanded
    exact demanded
  · intro tree
    cases there : tree place with
    | some node => rfl
    | none =>
      unfold Tree.rewrite
      rw [there]
      rfl

theorem isName_of_mem_packagesOf {name : String} {package : Place}
    (isPackage : package ∈ packagesOf name) {part : String} (member : part ∈ package) :
    IsName part :=
  isName_piece (List.dropLast_subset _ ((mem_packagesOf.mp isPackage).2.subset member))

/-- Finishing a module changes its files and marks its packages. It demands that the compiler wrote
the module. -/
theorem reworks_finishModule (generated : List String) {name : String}
    (named : IsModuleName name) :
    ground.Reworks (finishModule ground.root generated name) (Tree.HasModule · name)
      fun tree => Tree.finishModule generated tree name := by
  have sourceNamed : ∀ part ∈ fileOf name sourceSuffix, IsName part := fun part member =>
    isName_of_mem_fileOf (by decide) member
  have stubNamed : ∀ part ∈ fileOf name stubSuffix, IsName part := fun part member =>
    isName_of_mem_fileOf (by decide) member
  have afterSource : ∀ value machine after,
      (rewriteFile generated (depth name)
        (ground.root.down (fileOf name sourceSuffix))).on machine = (.ok value, after) →
      ground.Reworks ((do
        if ← Action.pathExists (ground.root.down (fileOf name stubSuffix)) then
          rewriteFile generated (depth name) (ground.root.down (fileOf name stubSuffix))) >>=
        fun _ => markPackages ((packagesOf name).map fun package => ground.root.down package))
        (fun tree => (tree (fileOf name stubSuffix) ≠ none →
          tree.Readable (fileOf name stubSuffix)) ∧ True)
        fun tree => (packagesOf name).foldl Tree.mark
          (Tree.rewrite generated (depth name) (fileOf name stubSuffix) tree) := by
    intro value machine after ran
    -- That the source was read shows that the other paths of the module can be handed over too.
    obtain ⟨usable, packagesUsable⟩ := stub_usable (usable_of_on_rewriteFile ran)
    have marked := reworks_markPackages (fun package isPackage part member =>
      isName_of_mem_packagesOf isPackage member) packagesUsable
    exact (reworks_stub generated (depth name) (fileOf_ne_nil _ _) stubNamed usable).bind
      fun _ _ _ _ => marked
  have reworked :=
    (reworks_rewriteFile generated (depth name) (fileOf_ne_nil _ _) sourceNamed).bind afterSource
  rw [finishModule_eq ground.root generated named]
  refine reworked.congr ?_ fun _ => rfl
  rintro tree ⟨source, stub, -⟩
  rw [Tree.rewrite_ne_none_iff, Tree.readable_rewrite_iff] at stub
  exact ⟨source, stub⟩

theorem reworks_finishModules (generated schemas : List String) {modules : List String}
    (areModules : ∀ name ∈ modules, name ∈ modulesOf schemas) :
    ground.Reworks (finishModules ground.root generated modules)
      (fun tree => ∀ name ∈ modules, tree.HasModule name)
      fun tree => modules.foldl (Tree.finishModule generated) tree := by
  induction modules with
  | nil => exact (reworks_pure ()).congr (fun _ _ _ impossible => by cases impossible) fun _ => rfl
  | cons name rest inductionHypothesis =>
    have restAre : ∀ each ∈ rest, each ∈ modulesOf schemas := fun each member =>
      areModules each (List.mem_cons_of_mem _ member)
    have first : ground.Reworks (finishModule ground.root generated name) (Tree.HasModule · name)
        fun tree => Tree.finishModule generated tree name :=
      reworks_finishModule generated
        (isModuleName_of_mem_modulesOf (areModules name List.mem_cons_self))
    have inTurn := first.bind fun _ _ _ _ => inductionHypothesis restAre
    refine inTurn.congr ?_ fun _ => rfl
    rintro tree ⟨hasFirst, hasRest⟩ each member
    rcases List.mem_cons.mp member with rfl | later
    · exact hasFirst
    · exact (Tree.hasModule_finishModule_iff (restAre each later)).mp (hasRest each later)

/-- Making a package finishes the tree below its root. It demands that the compiler wrote every
module. -/
theorem reworks_finalize (schemas : List String) (policy : Policy) :
    ground.Reworks (finalize ground.root schemas policy)
      (fun tree => ∀ name ∈ modulesOf schemas, tree.HasModule name)
      (Tree.finish (modulesOf schemas) policy) := by
  have initNamed : ∀ part ∈ [initName], IsName part := by decide
  have buffersNamed : ∀ part ∈ Tree.buffersPlace, IsName part := by decide
  have last : ground.Reworks (do
      Action.writeText (ground.root.down [initName]) (initText (modulesOf schemas) policy)
      return modulesOf schemas)
      (fun _ => True ∧ True)
      fun tree => tree.write [initName] (bytesOf (initText (modulesOf schemas) policy)) :=
    (reworks_writeText (List.cons_ne_nil _ _) initNamed
      (initText (modulesOf schemas) policy)).bind fun _ _ _ _ => reworks_pure (modulesOf schemas)
  have support : ground.Reworks (do
      if policy.zeroCopyBuffers then
        Action.writeText (ground.root.down Tree.buffersPlace) buffersText)
      (fun _ => True) (Tree.support policy) := by
    unfold Tree.support
    split
    next => exact reworks_writeText (List.cons_ne_nil _ _) buffersNamed buffersText
    next => exact reworks_pure ()
  have finished := (reworks_finishModules (modulesOf schemas) schemas fun _ member => member).bind
    fun _ _ _ _ => support.bind fun _ _ _ _ => last
  rw [finalize_eq]
  exact finished.congr (fun tree demanded => demanded.1) fun _ => rfl

end Disk.Ground

end Bindery
