/-
This file proves that the path without links and points leads where a path leads.

While a path is resolved, each name that is added is asked about. The answers make up a trace, which
goes the way that the names lead on the disk. The links that were met are kept in a memory, which is
of no consequence: a link whose target was resolved has led to the same path, and one whose target
is being resolved is not met again, since it is inside of no link that needs less depth than itself.
-/

import Bindery.Proofs.Disk.Reduced
import Mathlib.Data.Nat.Find

namespace Bindery.Disk

variable {disk : Disk} {hidden : Path → Bool} {here : Place} {depth : Nat} {path final : Path}
  {names : List String}

/-! ### Traces -/

/-- Names lead from one path to another by what is asked about the paths on the way. None of these
is too long, and the links on the way are not hidden and need less than the depth. -/
inductive Traces (disk : Disk) (hidden : Path → Bool) (here : Place) :
    Nat → Path → List String → Path → Prop
  /-- No names are left. -/
  | done {depth : Nat} {path : Path} : Traces disk hidden here depth path [] path
  /-- A point is skipped. -/
  | skip {depth : Nat} {path final : Path} {name : String} {rest : List String}
    (point : name = "" ∨ name = ".") (onward : Traces disk hidden here depth path rest final) :
    Traces disk hidden here depth path (name :: rest) final
  /-- Two points lead up. -/
  | up {depth : Nat} {path final : Path} {rest : List String}
    (onward : Traces disk hidden here depth (up path) rest final) :
    Traces disk hidden here depth path (".." :: rest) final
  /-- A name that does not turn out to be that of a link is added. -/
  | keep {depth : Nat} {path final : Path} {name : String} {rest : List String}
    (named : IsName name) (short : disk.nodeAt here false (path.down [name]) ≠
      .error Errno.nameTooLong)
    (notLink : ∀ target, disk.nodeAt here false (path.down [name]) ≠ .ok (.link target))
    (onward : Traces disk hidden here depth (path.down [name]) rest final) :
    Traces disk hidden here depth path (name :: rest) final
  /-- A link leads to where its target leads. -/
  | link {depth less : Nat} {path middle final : Path} {name target : String} {rest : List String}
    (named : IsName name)
    (found : disk.nodeAt here false (path.down [name]) = .ok (.link target))
    (shown : hidden (path.down [name]) = false) (deeper : less < depth)
    (inner : Traces disk hidden here less (targetStart path target) (Text.cut '/' target) middle)
    (onward : Traces disk hidden here depth middle rest final) :
    Traces disk hidden here depth path (name :: rest) final

namespace Traces

/-- A name under which something is found that is not a link is added. -/
theorem found {name : String} {rest : List String} {node : Node} (named : IsName name)
    (answered : disk.nodeAt here false (path.down [name]) = .ok node)
    (notLink : node.isLink = false)
    (onward : disk.Traces hidden here depth (path.down [name]) rest final) :
    disk.Traces hidden here depth path (name :: rest) final := by
  refine .keep named (fun tooLong => ?_) (fun target isLink => ?_) onward
  · cases answered.symm.trans tooLong
  · cases answered.symm.trans isLink
    cases notLink

/-- Names lead to one path at most, whatever the depth. -/
theorem unique {other : Nat} {again : Path}
    (traces : disk.Traces hidden here depth path names final)
    (tracesAgain : disk.Traces hidden here other path names again) : final = again := by
  induction traces generalizing other again with
  | done =>
    cases tracesAgain
    rfl
  | skip point _ inductionHypothesis =>
    cases tracesAgain with
    | skip _ onward => exact inductionHypothesis onward
    | up => exact absurd point (by decide)
    | keep named | link named => exact absurd point (not_or.mpr ⟨named.1, named.2.1⟩)
  | up _ inductionHypothesis =>
    cases tracesAgain with
    | skip point => exact absurd point (by decide)
    | up onward => exact inductionHypothesis onward
    | keep named | link named => exact absurd rfl named.2.2
  | keep named _ notLink _ inductionHypothesis =>
    cases tracesAgain with
    | skip point => exact absurd point (not_or.mpr ⟨named.1, named.2.1⟩)
    | up => exact absurd rfl named.2.2
    | keep _ _ _ onward => exact inductionHypothesis onward
    | link _ found => exact absurd found (notLink _)
  | link named found _ _ _ _ innerHypothesis inductionHypothesis =>
    cases tracesAgain with
    | skip point => exact absurd point (not_or.mpr ⟨named.1, named.2.1⟩)
    | up => exact absurd rfl named.2.2
    | keep _ _ notLink => exact absurd found (notLink _)
    | link _ foundAgain _ _ inner onward =>
      cases found.symm.trans foundAgain
      cases innerHypothesis inner
      exact inductionHypothesis onward

end Traces

/-- What is asked about a name that is added to a path is answered by the disk. -/
theorem get?_link_of_nodeAt {name target : String} (standing : Standing disk here)
    (reduced : Reduced path) (plain : disk.Plain (placeOf here path)) (named : IsName name)
    (found : disk.nodeAt here false (path.down [name]) = .ok (.link target)) :
    disk.get? (placeOf here path ++ [name]) = some (.link target) := by
  rw [← placeOf_down named]
  refine get?_of_nodeAt standing (reduced.down named) ?_ found
  rw [placeOf_down named]
  exact plain.straight_concat

theorem get?_notLink_of_nodeAt {name : String} (standing : Standing disk here)
    (reduced : Reduced path) (plain : disk.Plain (placeOf here path)) (named : IsName name)
    (short : disk.nodeAt here false (path.down [name]) ≠ .error Errno.nameTooLong)
    (notLink : ∀ target, disk.nodeAt here false (path.down [name]) ≠ .ok (.link target))
    (target : String) : disk.get? (placeOf here path ++ [name]) ≠ some (.link target) := by
  intro found
  have straight : disk.Straight false [] (placeOf here (path.down [name])) := by
    rw [placeOf_down named]
    exact plain.straight_concat
  rw [← placeOf_down named] at found
  rcases nodeAt_of_get? standing (reduced.down named) straight found with
    answered | ⟨tooLong, -⟩
  · exact notLink target answered
  · exact short tooLong

/-- A trace goes the way that the names lead. -/
theorem Traces.resolves (standing : Standing disk here)
    (traces : disk.Traces hidden here depth path names final) (reduced : Reduced path)
    (plain : disk.Plain (placeOf here path)) :
    Reduced final ∧ disk.Resolves depth (placeOf here path) names (placeOf here final) := by
  induction traces with
  | done => exact ⟨reduced, .done⟩
  | skip point _ inductionHypothesis =>
    obtain ⟨reducedFinal, resolves⟩ := inductionHypothesis reduced plain
    exact ⟨reducedFinal, .skip point resolves⟩
  | up _ inductionHypothesis =>
    have above := plain.of_prefix (List.dropLast_prefix _)
    rw [← placeOf_up] at above
    obtain ⟨reducedFinal, resolves⟩ := inductionHypothesis reduced.up above
    rw [placeOf_up] at resolves
    exact ⟨reducedFinal, .up resolves⟩
  | keep named short notLink _ inductionHypothesis =>
    have notThere := get?_notLink_of_nodeAt standing reduced plain named short notLink
    have below := plain.concat notThere
    rw [← placeOf_down named] at below
    obtain ⟨reducedFinal, resolves⟩ := inductionHypothesis (reduced.down named) below
    rw [placeOf_down named] at resolves
    exact ⟨reducedFinal, .keep named notThere resolves⟩
  | @link _ _ _ _ _ _ target _ named found _ deeper _ _ innerHypothesis inductionHypothesis =>
    have start := plain.linkWay target
    rw [← placeOf_targetStart] at start
    obtain ⟨reducedMiddle, inner⟩ := innerHypothesis (reduced.targetStart target) start
    obtain ⟨reducedFinal, resolves⟩ := inductionHypothesis reducedMiddle (inner.plain start)
    rw [placeOf_targetStart] at inner
    have there := get?_link_of_nodeAt standing reduced plain named found
    exact ⟨reducedFinal, .link named there deeper inner resolves⟩

/-- A trace needs no more depth than the names do. -/
theorem Traces.lift (standing : Standing disk here)
    (traces : disk.Traces hidden here depth path names final) (reduced : Reduced path)
    (plain : disk.Plain (placeOf here path)) {other : Nat} {place : Place}
    (resolves : disk.Resolves other (placeOf here path) names place) :
    disk.Traces hidden here other path names final := by
  induction traces generalizing other place with
  | done => exact .done
  | skip point _ inductionHypothesis =>
    exact .skip point (inductionHypothesis reduced plain (resolves.of_skip point))
  | up _ inductionHypothesis =>
    have above := plain.of_prefix (List.dropLast_prefix _)
    have onward := resolves.of_up
    rw [← placeOf_up] at above onward
    exact .up (inductionHypothesis reduced.up above onward)
  | keep named short notLink _ inductionHypothesis =>
    have notThere := get?_notLink_of_nodeAt standing reduced plain named short notLink
    have below := plain.concat notThere
    have onward := resolves.of_keep named notThere
    rw [← placeOf_down named] at below onward
    exact .keep named short notLink (inductionHypothesis (reduced.down named) below onward)
  | @link _ _ _ _ _ _ target _ named found shown _ inner _ innerHypothesis inductionHypothesis =>
    have there := get?_link_of_nodeAt standing reduced plain named found
    have start := plain.linkWay target
    obtain ⟨less, deeper, middle, innerAgain, onward⟩ := resolves.of_link named there
    rw [← placeOf_targetStart] at start innerAgain
    obtain ⟨reducedMiddle, traced⟩ := inner.resolves standing (reduced.targetStart target) start
    cases traced.unique innerAgain
    exact .link named found shown deeper
      (innerHypothesis (reduced.targetStart target) start innerAgain)
      (inductionHypothesis reducedMiddle (traced.plain start) onward)

/-! ### Steps of a resolution -/

/-- The targets of links are resolved to a smaller depth. -/
def followDeep (disk : Disk) (hidden : Path → Bool) (here : Place) :
    Nat → Met → Path → List String → Resolved
  | 0 => fun met path names => ⟨withRest path names, false, met⟩
  | limit + 1 => disk.resolveDeep hidden here limit

theorem resolveDeep_eq_resolveNames (disk : Disk) (hidden : Path → Bool) (here : Place)
    (limit : Nat) : disk.resolveDeep hidden here limit =
      disk.resolveNames hidden here (disk.followDeep hidden here limit) := by
  cases limit <;> rfl

section Steps

variable {limit : Nat} {met : Met} {name target : String} {rest : List String}

theorem resolveDeep_nil : disk.resolveDeep hidden here limit met path [] = ⟨path, true, met⟩ := by
  rw [resolveDeep_eq_resolveNames]
  rfl

theorem resolveDeep_skip (point : name = "" ∨ name = ".") :
    disk.resolveDeep hidden here limit met path (name :: rest) =
      disk.resolveDeep hidden here limit met path rest := by
  rw [resolveDeep_eq_resolveNames, resolveNames, if_pos point]

theorem resolveDeep_up : disk.resolveDeep hidden here limit met path (".." :: rest) =
    disk.resolveDeep hidden here limit met (up path) rest := by
  rw [resolveDeep_eq_resolveNames, resolveNames, if_neg (by decide), if_pos rfl]

/-- A name of an entry is asked about. -/
theorem resolveDeep_name (named : IsName name) :
    disk.resolveDeep hidden here limit met path (name :: rest) =
      match disk.seenLink? hidden here (path.down [name]) with
      | some target =>
        match met.lookup (path.down [name]) with
        | some (some resolved) => disk.resolveDeep hidden here limit met resolved rest
        | some none => ⟨withRest (path.down [name]) rest, false, met⟩
        | none =>
          let inner := disk.followDeep hidden here limit ((path.down [name], none) :: met)
            (targetStart path target) (Text.cut '/' target)
          if inner.complete then
            disk.resolveDeep hidden here limit ((path.down [name], some inner.path) :: inner.met)
              inner.path rest
          else ⟨withRest inner.path rest, false, inner.met⟩
      | none => disk.resolveDeep hidden here limit met (path.down [name]) rest := by
  obtain ⟨notEmpty, notPoint, notUp⟩ := named
  rw [resolveDeep_eq_resolveNames, resolveNames, if_neg (by simp [notEmpty, notPoint])]
  exact if_neg notUp

theorem resolveDeep_keep (named : IsName name)
    (notLink : ∀ target, disk.nodeAt here false (path.down [name]) ≠ .ok (.link target)) :
    disk.resolveDeep hidden here limit met path (name :: rest) =
      disk.resolveDeep hidden here limit met (path.down [name]) rest := by
  have unseen : disk.seenLink? hidden here (path.down [name]) = none := by
    unfold seenLink?
    split
    next target found => exact absurd found (notLink target)
    next => rfl
  rw [resolveDeep_name named, unseen]

theorem seenLink?_eq_some (found : disk.nodeAt here false path = .ok (.link target))
    (shown : hidden path = false) : disk.seenLink? hidden here path = some target := by
  simp [seenLink?, found, shown]

theorem resolveDeep_known (named : IsName name)
    (found : disk.nodeAt here false (path.down [name]) = .ok (.link target))
    (shown : hidden (path.down [name]) = false) {resolved : Path}
    (known : met.lookup (path.down [name]) = some (some resolved)) :
    disk.resolveDeep hidden here limit met path (name :: rest) =
      disk.resolveDeep hidden here limit met resolved rest := by
  rw [resolveDeep_name named, seenLink?_eq_some found shown]
  dsimp only
  rw [known]

theorem resolveDeep_new (named : IsName name)
    (found : disk.nodeAt here false (path.down [name]) = .ok (.link target))
    (shown : hidden (path.down [name]) = false)
    (new : met.lookup (path.down [name]) = none) {middle : Path} {inside : Met}
    (inner : disk.resolveDeep hidden here limit ((path.down [name], none) :: met)
      (targetStart path target) (Text.cut '/' target) = ⟨middle, true, inside⟩) :
    disk.resolveDeep hidden here (limit + 1) met path (name :: rest) =
      disk.resolveDeep hidden here (limit + 1) ((path.down [name], some middle) :: inside) middle
        rest := by
  rw [resolveDeep_name named, seenLink?_eq_some found shown]
  dsimp only [followDeep]
  rw [new, inner]
  rfl

end Steps

/-! ### The memory of links -/

/-- The target of a link leads to a path; the links in it need less than the depth. -/
def Jumps (disk : Disk) (hidden : Path → Bool) (here : Place) (depth : Nat) (link final : Path) :
    Prop :=
  ∃ target, disk.nodeAt here false link = .ok (.link target) ∧
    disk.Traces hidden here depth (targetStart link.parent target) (Text.cut '/' target) final

theorem jumps_down_iff {name target : String}
    (found : disk.nodeAt here false (path.down [name]) = .ok (.link target)) :
    disk.Jumps hidden here depth (path.down [name]) final ↔
      disk.Traces hidden here depth (targetStart path target) (Text.cut '/' target) final := by
  have parent : (path.down [name]).parent = path := by
    rw [Path.down, Path.parent, List.dropLast_concat]
  unfold Jumps
  rw [found, parent]
  constructor
  · rintro ⟨other, same, traces⟩
    cases same
    exact traces
  · exact fun traces => ⟨target, rfl, traces⟩

theorem Jumps.unique {other : Nat} {link again : Path}
    (jumps : disk.Jumps hidden here depth link final)
    (jumpsAgain : disk.Jumps hidden here other link again) : final = again := by
  obtain ⟨target, found, traces⟩ := jumps
  obtain ⟨same, foundAgain, tracesAgain⟩ := jumpsAgain
  cases found.symm.trans foundAgain
  exact traces.unique tracesAgain

/-- There is a smallest depth that a link needs. -/
theorem Jumps.exists_least {link : Path} (jumps : disk.Jumps hidden here depth link final) :
    ∃ least ≤ depth, disk.Jumps hidden here least link final ∧
      ∀ less < least, ∀ other, ¬ disk.Jumps hidden here less link other := by
  classical
  have some : ∃ depth other, disk.Jumps hidden here depth link other := ⟨depth, final, jumps⟩
  obtain ⟨other, shallow⟩ := Nat.find_spec some
  rw [← jumps.unique shallow] at shallow
  exact ⟨Nat.find some, Nat.find_min' some ⟨final, jumps⟩, shallow, fun less below other again =>
    Nat.find_min some below ⟨other, again⟩⟩

/-- What a memory says of links that were resolved is right. -/
def Knows (disk : Disk) (hidden : Path → Bool) (here : Place) (met : Met) : Prop :=
  ∀ link final, met.lookup link = some (some final) →
    ∃ depth, disk.Jumps hidden here depth link final

theorem knows_nil (disk : Disk) (hidden : Path → Bool) (here : Place) : disk.Knows hidden here [] :=
  fun _ _ impossible => by cases impossible

/-- A link is being resolved. -/
def Pending (met : Met) (link : Path) : Prop := met.lookup link = some none

theorem lookup_cons_of_ne {met : Met} {link other : Path} (different : other ≠ link)
    (entry : Option Path) : List.lookup other ((link, entry) :: met) = met.lookup other := by
  rw [List.lookup_cons, beq_eq_false_iff_ne.mpr different]

theorem Knows.pend {met : Met} (knows : disk.Knows hidden here met) (link : Path) :
    disk.Knows hidden here ((link, none) :: met) := by
  intro other final found
  by_cases same : other = link
  · rw [same, List.lookup_cons_self] at found
    cases found
  · rw [lookup_cons_of_ne same] at found
    exact knows other final found

theorem Knows.learn {met : Met} (knows : disk.Knows hidden here met) {link : Path}
    (jumps : disk.Jumps hidden here depth link final) :
    disk.Knows hidden here ((link, some final) :: met) := by
  intro other again found
  by_cases same : other = link
  · rw [same, List.lookup_cons_self] at found
    cases found
    rw [same]
    exact ⟨depth, jumps⟩
  · rw [lookup_cons_of_ne same] at found
    exact knows other again found

/-- The names of a trace are resolved, whatever is known, as long as no link that is being resolved
could be met. -/
theorem resolveDeep_of_traces (traces : disk.Traces hidden here depth path names final)
    {limit : Nat} (enough : depth ≤ limit) {met : Met} (knows : disk.Knows hidden here met)
    (pending : ∀ link, Pending met link → ∀ less < depth, ∀ other,
      ¬ disk.Jumps hidden here less link other) :
    ∃ after, disk.resolveDeep hidden here limit met path names = ⟨final, true, after⟩ ∧
      disk.Knows hidden here after ∧ ∀ link, Pending after link → Pending met link := by
  -- A link is followed to the smallest depth that it needs, which is less than the depth, whatever
  -- the trace makes of it; this is why the induction is not on the trace.
  induction depth using Nat.strong_induction_on generalizing path names final limit met with
  | _ depth deeperHypothesis =>
  induction names generalizing path met with
  | nil =>
    cases traces
    exact ⟨met, resolveDeep_nil, knows, fun _ same => same⟩
  | cons name rest inductionHypothesis =>
    cases traces with
    | skip point onward =>
      rw [resolveDeep_skip point]
      exact inductionHypothesis onward knows pending
    | up onward =>
      rw [resolveDeep_up]
      exact inductionHypothesis onward knows pending
    | keep named _ notLink onward =>
      rw [resolveDeep_keep named notLink]
      exact inductionHypothesis onward knows pending
    | @link _ less _ middle _ _ target _ named found shown deeper inner onward =>
      have jumps := (jumps_down_iff found).mpr inner
      cases known : met.lookup (path.down [name]) with
      | some entry =>
        cases entry with
        | none => exact absurd jumps (pending _ known less deeper middle)
        | some resolved =>
          obtain ⟨other, jumpsAgain⟩ := knows _ _ known
          rw [resolveDeep_known named found shown known, ← jumps.unique jumpsAgain]
          exact inductionHypothesis onward knows pending
      | none =>
        obtain ⟨least, shallow, jumpsLeast, noLess⟩ := jumps.exists_least
        have below : least < depth := shallow.trans_lt deeper
        obtain ⟨limit, rfl⟩ : ∃ fewer, limit = fewer + 1 :=
          Nat.exists_eq_succ_of_ne_zero (Nat.ne_zero_of_lt (below.trans_le enough))
        obtain ⟨inside, resolved, knowsInside, pendingInside⟩ := deeperHypothesis least below
          ((jumps_down_iff found).mp jumpsLeast) (Nat.lt_succ_iff.mp (below.trans_le enough))
          (knows.pend (path.down [name])) fun link pends lower lowest other => by
            by_cases same : link = path.down [name]
            · rw [same]
              exact noLess lower lowest other
            · rw [Pending, lookup_cons_of_ne same] at pends
              exact pending link pends lower (lowest.trans below) other
        have pendingAfter : ∀ link, Pending ((path.down [name], some middle) :: inside) link →
            Pending met link := by
          intro link pends
          by_cases same : link = path.down [name]
          · rw [same, Pending, List.lookup_cons_self] at pends
            cases pends
          · rw [Pending, lookup_cons_of_ne same] at pends
            have before := pendingInside link pends
            rwa [Pending, lookup_cons_of_ne same] at before
        rw [resolveDeep_new named found shown known resolved]
        obtain ⟨after, ended, knowsAfter, pends⟩ := inductionHypothesis onward
          (knowsInside.learn jumps) fun link pends => pending link (pendingAfter link pends)
        exact ⟨after, ended, knowsAfter, fun link still => pendingAfter link (pends link still)⟩

/-! ### The path without links and points -/

/-- Where the resolution of a path starts, in writing. -/
def startPath (path : Path) : Path := if path.isAbsolute then ⟨.root, []⟩ else ⟨.relative, []⟩

theorem reduced_startPath (path : Path) : Reduced (startPath path) := by
  unfold startPath
  split
  · exact reduced_nil (by decide)
  · exact reduced_nil (by decide)

theorem placeOf_startPath (standing : Standing disk here) (path : Path) :
    placeOf here (startPath path) = startOf here path := by
  unfold startPath startOf
  split
  · rfl
  · show collapse (here ++ []) = here
    rw [List.append_nil]
    exact collapse_append [] standing.named

/-- A path is followed to its end by what is asked about the paths on the way: the links on it do
not lead back to themselves and are not hidden, and nothing is too long. -/
def Traced (disk : Disk) (hidden : Path → Bool) (here : Place) (path : Path) (place : Place) :
    Prop :=
  ∃ depth final, disk.Traces hidden here depth (startPath path) path.parts final ∧
    placeOf here final = place

/-- Seen from the top, a path names its place. -/
theorem collapse_absolute (reduced : Reduced path) :
    (⟨(Path.absolute ⟨.root, here⟩ path).anchor,
      collapse (Path.absolute ⟨.root, here⟩ path).parts⟩ : Path) =
      Path.ofPlace (placeOf here path) := by
  obtain ⟨anchor, parts⟩ := path
  cases anchor with
  | relative | root => rfl
  | doubleRoot => exact absurd rfl reduced.anchored

namespace Traced

variable {place : Place}

theorem plain_start (standing : Standing disk here) (path : Path) :
    disk.Plain (placeOf here (startPath path)) := by
  rw [placeOf_startPath standing]
  exact (standing.startOf path).plain standing.isTree

/-- A path that is followed to its end leads where its names lead. -/
theorem resolves (standing : Standing disk here) (traced : disk.Traced hidden here path place) :
    ∃ depth, disk.Resolves depth (startOf here path) path.parts place := by
  obtain ⟨depth, final, traces, rfl⟩ := traced
  have resolves := (traces.resolves standing (reduced_startPath path) (plain_start standing path)).2
  rw [placeOf_startPath standing] at resolves
  exact ⟨depth, resolves⟩

theorem plain (standing : Standing disk here) (traced : disk.Traced hidden here path place) :
    disk.Plain place := by
  obtain ⟨depth, resolves⟩ := traced.resolves standing
  exact resolves.plain ((standing.startOf path).plain standing.isTree)

/-- The path without links and points leads to the place that a path leads to. -/
theorem realPath_eq (standing : Standing disk here) (traced : disk.Traced hidden here path place) :
    disk.realPath hidden here path = Path.ofPlace place := by
  obtain ⟨depth, final, traces, rfl⟩ := traced
  have start := plain_start standing path
  obtain ⟨reduced, resolves⟩ := traces.resolves standing (reduced_startPath path) start
  have inBound : disk.size + 1 ≤ disk.depthBound here :=
    Nat.le_mul_of_pos_right _ (Nat.succ_pos _)
  obtain ⟨after, ended, -⟩ := resolveDeep_of_traces
    (traces.lift standing (reduced_startPath path) start resolves.within_size) inBound
    (knows_nil disk hidden here) fun _ impossible => by cases impossible
  have found : (disk.resolveDeep hidden here (disk.depthBound here) [] (startPath path)
      path.parts).path = final := by rw [ended]
  rw [← collapse_absolute reduced, ← found]
  rfl

end Traced

/-- A path from the top that leads to something is followed to its end, at its own place. -/
theorem traced_ofPlace {place : Place} {node : Node} (standing : Standing disk here)
    (named : ∀ name ∈ place, IsName name) (plain : disk.Plain place) {last : Bool}
    (found : disk.nodeAt here last (Path.ofPlace place) = .ok node) :
    disk.Traced hidden here (Path.ofPlace place) place := by
  have steps : ∀ rest front, front ++ rest = place →
      disk.Traces hidden here 0 (Path.ofPlace front) rest (Path.ofPlace place) := by
    intro rest
    induction rest with
    | nil =>
      intro front whole
      rw [List.append_nil] at whole
      rw [whole]
      exact .done
    | cons name rest inductionHypothesis =>
      intro front whole
      rw [List.append_cons] at whole
      have prefixed : front ++ [name] <+: place := ⟨rest, whole⟩
      obtain ⟨entry, answered, notLink⟩ := nodeAt_prefix standing named plain found prefixed
      exact .found (named name (prefixed.subset (by simp))) answered notLink
        (inductionHypothesis _ whole)
  exact ⟨0, Path.ofPlace place, steps place [] rfl, placeOf_ofPlace here named⟩

end Bindery.Disk
