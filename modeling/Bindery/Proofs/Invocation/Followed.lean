/-
This file proves where a machine finds that paths lead.

A path is given in writing, with points, and links lie on its way. If it can be handed to the
system, and if the links on it do not lead back to themselves, nothing gets too long and the process
may look, then the machine finds the place that the names lead to, and it answers what lies there.
The names of that place are names again, so that the place can be written as a path without links
and points, and as a text.
-/

import Bindery.Proofs.Disk.RealPath
import Bindery.Proofs.Invocation.Unfollowed

namespace Bindery

open Text

/-! ### Paths in writing -/

/-- The names of a path hold no slashes. -/
def Path.Slashless (path : Path) : Prop := ∀ part ∈ path.parts, '/' ∉ part.toList

theorem Path.slashless_parse (text : String) : (Path.parse text).Slashless := by
  intro part member
  obtain ⟨field, isField, rfl⟩ := List.mem_map.mp member
  rw [String.toList_ofList]
  exact not_mem_of_mem_fields '/' _ field (List.mem_filter.mp isField).1

theorem Path.Slashless.append {base path : Path} (baseSlashless : base.Slashless)
    (slashless : path.Slashless) : (base ++ path).Slashless := by
  show (base.append path).Slashless
  unfold Path.append
  split
  next => exact slashless
  next =>
    intro part member
    rcases List.mem_append.mp member with front | back
    · exact baseSlashless part front
    · exact slashless part back

theorem Text.mem_of_mem_cut {separator c : Char} {text piece : String}
    (member : piece ∈ cut separator text) (inside : c ∈ piece.toList) : c ∈ text.toList := by
  obtain ⟨field, isField, rfl⟩ := List.mem_map.mp member
  rw [String.toList_ofList] at inside
  rw [← joinFields_fields separator text.toList]
  exact mem_joinFields_of_mem isField inside

theorem Text.not_mem_of_mem_cut {separator : Char} {text piece : String}
    (member : piece ∈ cut separator text) : separator ∉ piece.toList := by
  obtain ⟨field, isField, rfl⟩ := List.mem_map.mp member
  rw [String.toList_ofList]
  exact not_mem_of_mem_fields separator _ field isField

theorem IsName.isPart {name : String} (named : IsName name) : Path.isPart name.toList = true :=
  Path.isPart_iff.mpr ⟨fun empty => named.1 (String.toList_eq_nil_iff.mp empty),
    fun point => named.2.1 (String.toList_injective (point.trans (by decide)))⟩

/-- Names that are joined begin with what the first one begins with, which is no slash. -/
theorem Path.exists_head_join {first : String} (named : IsName first)
    (slashless : '/' ∉ first.toList) (rest : List String) :
    ∃ c, c ≠ '/' ∧ (join "/" (first :: rest)).toList.head? = some c := by
  obtain ⟨c, others, chars⟩ := List.exists_cons_of_ne_nil fun empty =>
    named.1 (String.toList_eq_nil_iff.mp empty)
  refine ⟨c, fun slash => slashless ?_, ?_⟩
  · rw [chars, slash]
    exact List.mem_cons_self
  · rw [toList_join '/' rfl, List.map_cons, chars]
    cases rest <;> rfl

/-- Names that are joined are the fields between the slashes. -/
theorem Path.fields_join {names : List String} (some : names ≠ [])
    (slashless : ∀ name ∈ names, '/' ∉ name.toList) :
    fields '/' (join "/" names).toList = names.map String.toList := by
  rw [toList_join '/' rfl]
  refine fields_joinFields '/' _ (by simpa using some) fun field member => ?_
  obtain ⟨name, inside, rfl⟩ := List.mem_map.mp member
  exact slashless name inside

/-- Names that are written one after the other are read again as they were. -/
theorem Path.parse_text_relative {names : List String} (named : ∀ name ∈ names, IsName name)
    (slashless : ∀ name ∈ names, '/' ∉ name.toList) :
    Path.parse (⟨.relative, names⟩ : Path).text = ⟨.relative, names⟩ := by
  cases names with
  | nil => decide +kernel
  | cons first rest =>
    obtain ⟨c, notSlash, begins⟩ := Path.exists_head_join (named first List.mem_cons_self)
      (slashless first List.mem_cons_self) rest
    have text : (⟨.relative, first :: rest⟩ : Path).text = join "/" (first :: rest) := by
      have written : (⟨.relative, first :: rest⟩ : Path).written = join "/" (first :: rest) :=
        String.empty_append
      unfold Path.text
      rw [written]
      refine if_neg fun empty => ?_
      rw [empty] at begins
      cases begins
    have kept : ((first :: rest).map String.toList).filter Path.isPart =
        (first :: rest).map String.toList := by
      refine List.filter_eq_self.mpr fun field member => ?_
      obtain ⟨name, inside, rfl⟩ := List.mem_map.mp member
      exact (named name inside).isPart
    have anchor : Path.anchorOf (join "/" (first :: rest)).toList = .relative := by
      refine Path.anchorOf_of_head ?_
      rw [begins]
      exact fun slash => notSlash (Option.some.inj slash)
    unfold Path.parse
    rw [text, anchor, Path.fields_join (List.cons_ne_nil _ _) slashless, kept, List.map_map]
    simp [Function.comp_def]

/-! ### Paths that are followed -/

/-- What every system sees to: entries lie in directories, the process is in a directory whose names
can be written, and the targets of links end where texts end. -/
structure Machine.Orderly (machine : Machine) : Prop where
  standing : machine.disk.Standing machine.host.here
  slashless : ∀ name ∈ machine.host.here, '/' ∉ name.toList
  usable : ∀ name ∈ machine.host.here, '\x00' ∉ name.toList
  targets : ∀ link target, machine.disk.get? link = some (.link target) → '\x00' ∉ target.toList

namespace Action

open Bindery.Disk

variable {machine : Machine} {path : Path} {place : Place}

/-- A path that can be handed over leads to a place when every link is followed. -/
def LeadsTo (machine : Machine) (path : Path) (place : Place) : Prop :=
  holdsNull path = false ∧
    ∃ depth, machine.disk.Resolves depth (startOf machine.host.here path) path.parts place

namespace LeadsTo

theorem unique {other : Place} (leads : LeadsTo machine path place)
    (again : LeadsTo machine path other) : place = other := by
  obtain ⟨-, depth, resolves⟩ := leads
  obtain ⟨-, otherDepth, resolvesAgain⟩ := again
  exact resolves.unique resolvesAgain

theorem plain (orderly : machine.Orderly) (leads : LeadsTo machine path place) :
    machine.disk.Plain place := by
  obtain ⟨-, depth, resolves⟩ := leads
  exact resolves.plain ((orderly.standing.startOf path).plain orderly.standing.isTree)

theorem named (orderly : machine.Orderly) (leads : LeadsTo machine path place) :
    ∀ name ∈ place, IsName name := by
  obtain ⟨-, depth, resolves⟩ := leads
  exact resolves.forall_mem (fun name member => orderly.standing.named name
    (startOf_subset _ path member)) (fun _ _ isName => isName) fun _ _ _ _ _ isName => isName

theorem usable (orderly : machine.Orderly) (leads : LeadsTo machine path place) :
    ∀ name ∈ place, '\x00' ∉ name.toList := by
  obtain ⟨usable, depth, resolves⟩ := leads
  exact resolves.forall_mem
    (fun name member => orderly.usable name (startOf_subset _ path member))
    (fun name member _ => holdsNull_eq_false_iff.mp usable name member)
    fun link target found name member _ inside =>
      orderly.targets link target found (mem_of_mem_cut member inside)

theorem slashless (orderly : machine.Orderly) (pathSlashless : path.Slashless)
    (leads : LeadsTo machine path place) : ∀ name ∈ place, '/' ∉ name.toList := by
  obtain ⟨-, depth, resolves⟩ := leads
  exact resolves.forall_mem
    (fun name member => orderly.slashless name (startOf_subset _ path member))
    (fun name member _ => pathSlashless name member)
    fun _ _ _ _ member _ => not_mem_of_mem_cut member

end LeadsTo

/-- A path that can be handed over is followed to its end: the links on it do not lead back to
themselves and are not hidden, it does not get too long on the way, and what it leads to is not
withheld. -/
def Clear (machine : Machine) (path : Path) : Prop :=
  holdsNull path = false →
    ∃ place, machine.disk.Traced machine.hides machine.host.here path place ∧
      ∀ code, ¬ Withheld machine (Path.ofPlace place) code

/-- A machine finds where a path leads, and what lies there. -/
structure Followed (machine : Machine) (path : Path) (place : Place) : Prop where
  leads : LeadsTo machine path place
  resolved : (resolve path).on machine = (.ok (Path.ofPlace place), machine)
  answered : answer machine (Path.ofPlace place) = .ok (machine.disk.get? place)
  shown : ∀ code, ¬ Withheld machine (Path.ofPlace place) code

/-- What a machine answers about a place without links is what lies there. -/
theorem answer_ofPlace (orderly : machine.Orderly) (leads : LeadsTo machine path place)
    (shown : ∀ code, ¬ Withheld machine (Path.ofPlace place) code) :
    answer machine (Path.ofPlace place) = .ok (machine.disk.get? place) := by
  obtain ⟨same, short⟩ := look_of_not_withheld shown
  have named := leads.named orderly
  have plain := leads.plain orderly
  have usable : holdsNull (Path.ofPlace place) = false :=
    holdsNull_eq_false_iff.mpr (leads.usable orderly)
  unfold answer
  rw [usable, if_neg Bool.false_ne_true, same]
  cases there : machine.disk.get? place with
  | some node =>
    rcases nodeAt_ofPlace orderly.standing named plain there with found | ⟨tooLong, -⟩
    · rw [found]
    · exact absurd tooLong short
  | none =>
    rcases nodeAt_ofPlace_eq_none orderly.standing named plain short there with
      refused | refused <;> rw [refused] <;> rfl

theorem Clear.exists_followed (orderly : machine.Orderly) (clear : Clear machine path)
    (usable : holdsNull path = false) : ∃ place, Followed machine path place := by
  obtain ⟨place, traced, shown⟩ := clear usable
  have leads : LeadsTo machine path place := ⟨usable, traced.resolves orderly.standing⟩
  refine ⟨place, leads, ?_, answer_ofPlace orderly leads shown, shown⟩
  have real : machine.realPath path = Path.ofPlace place := traced.realPath_eq orderly.standing
  rw [on_resolve, usable, if_neg Bool.false_ne_true, real, (look_of_not_withheld shown).1,
    if_neg (nodeAt_ofPlace_ne_linkLoop (leads.named orderly) (leads.plain orderly))]

theorem on_resolve_of_holdsNull (null : holdsNull path = true) :
    (resolve path).on machine = (.error (.value .embeddedNull), machine) := by
  rw [on_resolve, if_pos null]

/-- The place that a path leads to is followed to its end as well, if something lies there. -/
theorem Followed.clear (orderly : machine.Orderly) (followed : Followed machine path place)
    {node : Node} (there : machine.disk.get? place = some node) :
    Clear machine (Path.ofPlace place) := by
  have named := followed.leads.named orderly
  have plain := followed.leads.plain orderly
  rcases nodeAt_ofPlace orderly.standing named plain there with found | ⟨tooLong, -⟩
  · exact fun _ => ⟨place, traced_ofPlace orderly.standing named plain found, followed.shown⟩
  · exact absurd tooLong (look_of_not_withheld followed.shown).2

/-- A path without links and points leads to its own place. -/
theorem Followed.leadsTo_ofPlace (orderly : machine.Orderly)
    (followed : Followed machine path place) {node : Node}
    (there : machine.disk.get? place = some node) :
    LeadsTo machine (Path.ofPlace place) place := by
  have named := followed.leads.named orderly
  have plain := followed.leads.plain orderly
  have usable : holdsNull (Path.ofPlace place) = false :=
    holdsNull_eq_false_iff.mpr (followed.leads.usable orderly)
  rcases nodeAt_ofPlace orderly.standing named plain there with found | ⟨tooLong, -⟩
  · have traced : machine.disk.Traced machine.hides machine.host.here (Path.ofPlace place) place :=
      traced_ofPlace orderly.standing named plain found
    exact ⟨usable, traced.resolves orderly.standing⟩
  · exact absurd tooLong (look_of_not_withheld followed.shown).2

end Action

end Bindery
