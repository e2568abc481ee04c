/-
This file proves that imports are made relative as by two regular expressions.

The first expression matches the lines that import a module without a package, the second one those
that import it from a package. Each match is replaced by the relative import if the module is a
generated one, in the whole source at a time, and the second expression goes through what the first
one left. Either takes whole lines only, and a line in one way at most, which is the reading of the
line as an import. So both together do with a source what is done with each of its lines.
-/

import Bindery.Proofs.Package.Imports
import Bindery.Proofs.Text.Expression

namespace Bindery

open Text

/-! ### The last point of a name -/

/-- What stands before the last separator of a text and what stands behind it; everything stands
behind one that is not there. -/
def Text.partLast (separator : Char) (text : List Char) : List Char × List Char :=
  match text.reverse.dropWhile (· != separator) with
  | [] => ([], text)
  | _ :: front => (front.reverse, (text.reverse.takeWhile (· != separator)).reverse)

theorem Text.partLast_append {separator : Char} {back : List Char} (absent : separator ∉ back)
    (front : List Char) : partLast separator (front ++ separator :: back) = (front, back) := by
  have all : ∀ c ∈ back.reverse, (c != separator) = true := by
    intro c member
    simpa using fun same : c = separator => absent (same ▸ List.mem_reverse.mp member)
  obtain ⟨taken, left⟩ := span_append all (show (separator != separator) = false by simp)
    front.reverse
  have reversed : (front ++ separator :: back).reverse =
      back.reverse ++ separator :: front.reverse := by simp
  rw [partLast, reversed, left, taken]
  simp

theorem Text.partLast_of_not_mem {separator : Char} {text : List Char}
    (absent : separator ∉ text) : partLast separator text = ([], text) := by
  have nothing : text.reverse.dropWhile (· != separator) = [] := by
    rw [List.dropWhile_eq_nil_iff]
    intro c member
    simpa using fun same : c = separator => absent (same ▸ List.mem_reverse.mp member)
  rw [partLast, nothing]

namespace Package

/-! ### The expressions -/

/-- The expression `(?P<module>\w+_pb2) as (?P<alias>\w+)`. -/
def namesExpression : Expression :=
  .sequence (.group "module" (.sequence (.many isWord) (.exactly moduleEnding))) <|
    .sequence (.exactly " as ".toList) (.group "alias" (.many isWord))

/-- The expression `import (?P<module>\w+_pb2) as (?P<alias>\w+)`. -/
def plainExpression : Expression := .sequence (.exactly "import ".toList) namesExpression

/-- The expression `from (?P<package>[\w.]+) import (?P<module>\w+_pb2) as (?P<alias>\w+)`. -/
def fromExpression : Expression :=
  .sequence (.exactly "from ".toList) <|
    .sequence (.group "package" (.many ImportLine.inPackage)) <|
      .sequence (.exactly " import ".toList) namesExpression

/-- The module that a match without a package imports. -/
def plainTarget (way : Way) : List Char := way.group "module"

/-- The module that a match with a package imports. -/
def fromTarget (way : Way) : List Char := way.group "package" ++ '.' :: way.group "module"

/-- What takes the place of a match: the import of the same module, under the same name, from its
place relative to the root, or the match itself if the module is no generated one. -/
def replacement (target : Way → List Char) (dots : List Char) (generated : List String)
    (way : Way) : List Char :=
  if generated.contains (String.ofList (target way)) then
    "from ".toList ++ dots ++ (partLast '.' (target way)).1 ++ " import ".toList ++
      (partLast '.' (target way)).2 ++ " as ".toList ++ way.group "alias"
  else way.taken

/-- A source with the matches of one expression on whole lines replaced. -/
def replaceImports (expression : Expression) (target : Way → List Char) (depth : Int)
    (generated : List String) (source : List Char) : List Char :=
  expression.wholeLine.substitute (replacement target (dotsFor depth) generated) none source

/-- A source with the matches of the first expression replaced, and then in the result those of the
second one. -/
def rewriteByExpressions (depth : Int) (generated : List String) (source : List Char) :
    List Char :=
  replaceImports fromExpression fromTarget depth generated
    (replaceImports plainExpression plainTarget depth generated source)

/-! ### What they take -/

/-- What the named groups take of an import line. -/
def ImportLine.groups (line : ImportLine) : List (String × List Char) :=
  (line.package.map fun package => ("package", package)).toList ++
    [("module", line.name), ("alias", line.given)]

open Expression

theorem isModule_iff {name : List Char} : ImportLine.isModule name = true ↔
    ∃ stem, (stem ≠ [] ∧ ∀ c ∈ stem, isWord c = true) ∧ name = stem ++ moduleEnding := by
  unfold ImportLine.isModule
  cases shape : beforeBack? moduleEnding name with
  | none =>
    simp only [Bool.false_eq_true, false_iff]
    rintro ⟨stem, -, same⟩
    rw [(beforeBack?_eq_some_iff _ _ _).mpr same] at shape
    cases shape
  | some stem =>
    have same := (beforeBack?_eq_some_iff _ _ _).mp shape
    constructor
    · exact fun named => ⟨stem, (ImportLine.isName_iff stem).mp named, same⟩
    · rintro ⟨other, named, sameOther⟩
      rw [sameOther] at same
      rw [← List.append_cancel_right same]
      exact (ImportLine.isName_iff other).mpr named

/-- Word characters are taken as often as possible at first, and then less often, so that the ending
of the module is found too. -/
theorem takes_namesExpression : namesExpression.Takes fun taken groups =>
    ∃ name given, ImportLine.isModule name = true ∧ ImportLine.isName given = true ∧
      taken = name ++ " as ".toList ++ given ∧ groups = [("module", name), ("alias", given)] := by
  refine (((takes_many isWord).sequence (takes_exactly moduleEnding)).group "module").sequence
    ((takes_exactly " as ".toList).sequence ((takes_many isWord).group "alias")) |>.congr ?_
  intro taken groups
  simp only [isModule_iff, ImportLine.isName_iff]
  constructor
  · rintro ⟨_, _, _, _, ⟨_, ⟨stem, _, _, _, ⟨named, rfl⟩, ⟨rfl, rfl⟩, rfl, rfl⟩, rfl⟩,
      ⟨_, _, given, _, ⟨rfl, rfl⟩, ⟨_, ⟨isGiven, rfl⟩, rfl⟩, rfl, rfl⟩, rfl, rfl⟩
    exact ⟨_, given, ⟨stem, named, rfl⟩, isGiven, (List.append_assoc _ _ _).symm, rfl⟩
  · rintro ⟨_, given, ⟨stem, named, rfl⟩, isGiven, rfl, rfl⟩
    exact ⟨_, _, _, _, ⟨_, ⟨stem, _, _, _, ⟨named, rfl⟩, ⟨rfl, rfl⟩, rfl, rfl⟩, rfl⟩,
      ⟨_, _, given, _, ⟨rfl, rfl⟩, ⟨_, ⟨isGiven, rfl⟩, rfl⟩, rfl, rfl⟩,
      List.append_assoc _ _ _, rfl⟩

/-- What an expression takes is what is read as an import line. -/
def Reads (expression : Expression) (read? : List Char → Option ImportLine) : Prop :=
  expression.Takes fun taken groups => ∃ found, read? taken = some found ∧ groups = found.groups

theorem reads_plainExpression : Reads plainExpression ImportLine.readPlain? := by
  refine (takes_exactly "import ".toList).sequence takes_namesExpression |>.congr ?_
  intro taken groups
  simp only [ImportLine.readPlain?_eq_some_iff]
  constructor
  · rintro ⟨_, _, _, _, ⟨rfl, rfl⟩, ⟨name, given, named, isGiven, rfl, rfl⟩, rfl, rfl⟩
    refine ⟨⟨none, name, given⟩, ⟨rfl, ⟨named, isGiven, fun _ impossible => by cases impossible⟩,
      ?_⟩, rfl⟩
    simp [ImportLine.text]
  · rintro ⟨⟨_, name, given⟩, ⟨rfl, ⟨named, isGiven, -⟩, rfl⟩, rfl⟩
    refine ⟨_, _, _, _, ⟨rfl, rfl⟩, ⟨name, given, named, isGiven, rfl, rfl⟩, ?_, rfl⟩
    simp [ImportLine.text]

theorem reads_fromExpression : Reads fromExpression ImportLine.readFrom? := by
  refine (takes_exactly "from ".toList).sequence
    (((takes_many ImportLine.inPackage).group "package").sequence
      ((takes_exactly " import ".toList).sequence takes_namesExpression)) |>.congr ?_
  intro taken groups
  simp only [ImportLine.readFrom?_eq_some_iff]
  constructor
  · rintro ⟨_, _, _, _, ⟨rfl, rfl⟩, ⟨package, _, _, _, ⟨_, ⟨inPackage, rfl⟩, rfl⟩,
      ⟨_, _, _, _, ⟨rfl, rfl⟩, ⟨name, given, named, isGiven, rfl, rfl⟩, rfl, rfl⟩, rfl, rfl⟩,
      rfl, rfl⟩
    refine ⟨⟨some package, name, given⟩, ⟨Option.some_ne_none _, ⟨named, isGiven, ?_⟩, ?_⟩, rfl⟩
    · rintro _ ⟨⟩
      exact inPackage
    · simp [ImportLine.text]
  · rintro ⟨⟨package, name, given⟩, ⟨isSome, ⟨named, isGiven, inPackages⟩, rfl⟩, rfl⟩
    obtain ⟨package, rfl⟩ := Option.ne_none_iff_exists'.mp isSome
    refine ⟨_, _, _, _, ⟨rfl, rfl⟩, ⟨package, _, _, _, ⟨_, ⟨inPackages package rfl, rfl⟩, rfl⟩,
      ⟨_, _, _, _, ⟨rfl, rfl⟩, ⟨name, given, named, isGiven, rfl, rfl⟩, rfl, rfl⟩, rfl, rfl⟩,
      ?_, rfl⟩
    simp [ImportLine.text]

/-! ### What they put in place -/

variable {expression : Expression} {read? : List Char → Option ImportLine}
  {target : Way → List Char} {found : ImportLine}

/-- The target of an import is cut at its last point into its package and its name. -/
theorem partLast_target (written : found.IsWritten) :
    partLast '.' found.target = (found.package.getD [], found.name) := by
  have noPoint : '.' ∉ found.name := fun member =>
    absurd (ImportLine.isWord_of_isModule written.name '.' member) (by decide)
  obtain ⟨package, name, given⟩ := found
  cases package with
  | none => exact partLast_of_not_mem noPoint
  | some package => exact partLast_append noPoint package

/-- An import is written in one line. -/
theorem lineFeed_not_mem_text (written : found.IsWritten) : '\n' ∉ found.text := by
  have notIn : ∀ {passes : Char → Bool} {text : List Char}, passes '\n' = false →
      (∀ c ∈ text, passes c = true) → '\n' ∉ text := by
    intro passes text stops all member
    rw [all '\n' member] at stops
    cases stops
  have inName := notIn (show isWord '\n' = false by decide)
    (ImportLine.isWord_of_isModule written.name)
  have inGiven := notIn (show isWord '\n' = false by decide)
    ((ImportLine.isName_iff _).mp written.given).2
  obtain ⟨package, name, given⟩ := found
  cases package with
  | none => simpa [ImportLine.text] using ⟨inName, inGiven⟩
  | some package =>
    have inPackages := notIn (show ImportLine.inPackage '\n' = false by decide)
      (written.package package rfl).2
    simpa [ImportLine.text] using ⟨inPackages, inName, inGiven⟩

theorem replacement_eq {depth : Int} {generated : List String} {line left : List Char}
    (written : found.IsWritten) (isRead : read? line = some found)
    (isTarget : target ⟨line, left, found.groups⟩ = found.target) :
    replacement target (dotsFor depth) generated ⟨line, left, found.groups⟩ =
      rewriteLine read? depth generated line := by
  have given : Way.group ⟨line, left, found.groups⟩ "alias" = found.given := by
    obtain ⟨package, name, given⟩ := found
    cases package <;> rfl
  unfold replacement rewriteLine
  rw [isRead, isTarget, partLast_target written, given]
  dsimp only
  rw [ImportLine.text_relative]
  simp only [List.append_assoc]

/-- Replacing what an expression takes rewrites each line as it is read. -/
theorem replaceImports_eq (target : Way → List Char) (reads : Reads expression read?)
    (written : ∀ line found, read? line = some found → found.IsWritten ∧ found.text = line ∧
      ∀ left, target ⟨line, left, found.groups⟩ = found.target)
    (depth : Int) (generated : List String) (source : List Char) :
    replaceImports expression target depth generated source =
      joinFields '\n' ((fields '\n' source).map (rewriteLine read? depth generated)) := by
  refine ActsOnLines.substitute_eq (Takes.actsOnLines reads ?_ ?_ ?_) source
  · rintro line groups ⟨found, isRead, -⟩
    obtain ⟨isWritten, rfl, -⟩ := written line found isRead
    refine ⟨?_, lineFeed_not_mem_text isWritten⟩
    obtain ⟨_ | package, name, given⟩ := found <;> simp [ImportLine.text]
  · rintro line left groups ⟨found, isRead, rfl⟩
    obtain ⟨isWritten, -, isTarget⟩ := written line found isRead
    exact replacement_eq isWritten isRead (isTarget left)
  · intro line unread
    refine rewriteLine_of_none (Option.eq_none_iff_forall_ne_some.mpr fun found isRead => ?_)
    exact unread _ ⟨found, isRead, rfl⟩

/-- The two expressions, one after the other, rewrite each line of a source by itself. The second
one goes through the lines that the first one left, as no line feed comes into a line. -/
theorem rewriteByExpressions_eq (depth : Int) (generated : List String) (source : List Char) :
    rewriteByExpressions depth generated source = rewriteImports depth generated source := by
  have plain := replaceImports_eq plainTarget reads_plainExpression
    (fun line found isRead => by
      obtain ⟨isPlain, written, text⟩ := (ImportLine.readPlain?_eq_some_iff _ _).mp isRead
      refine ⟨written, text, fun left => ?_⟩
      obtain ⟨_, name, given⟩ := found
      cases isPlain
      rfl) depth generated source
  have dotted := replaceImports_eq fromTarget reads_fromExpression
    (fun line found isRead => by
      obtain ⟨isSome, written, text⟩ := (ImportLine.readFrom?_eq_some_iff _ _).mp isRead
      refine ⟨written, text, fun left => ?_⟩
      obtain ⟨package, name, given⟩ := found
      obtain ⟨package, rfl⟩ := Option.ne_none_iff_exists'.mp isSome
      rfl) depth generated
  rw [rewriteByExpressions, dotted, plain, fields_joinFields_map]
  · rw [List.map_map]
    rfl
  · exact fun line absent => not_mem_rewriteLine (by decide)
      (fun _ _ isRead => ((ImportLine.readPlain?_eq_some_iff _ _).mp isRead).2.2) absent

end Package

end Bindery
