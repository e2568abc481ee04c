/-
This file keeps the loggers of a process by name. A logger is set up on first use: it gets its
handler, then the level that the environment names, and stops passing records on. A name of no
level leaves it with the handler alone, and later calls find it set up already.

Loggers form a tree. A name that stands above a logger and belongs to no logger yet is noted
with the loggers below it, and takes its place among them once it is asked for. A logger without
a level of its own goes by the nearest one above it. All of them stand below the one at the top,
which has a level from the beginning; it is asked for by its own name or by the empty one.
-/

import Bindery.Environment
import Bindery.Log.Level

namespace Bindery.Log

/-- The state of one logger. -/
structure Logger where
  handlers : Nat := 0
  level : Level := Level.notSet
  propagates : Bool := true
  /-- The logger above; none for the one at the top and right below it. -/
  parent : Option String := none
  /-- The answers given to whether records of a level are taken. -/
  known : List (Level × Bool) := []
deriving DecidableEq, Repr

/-- What a name stands for: a logger, or a place above the loggers that are listed. -/
inductive Holder where
  | logger (logger : Logger)
  | place (below : List String)
deriving DecidableEq, Repr

/-- The names that are in use. -/
abbrev Registry := List (String × Holder)

/-- The name of the logger at the top. -/
def topName : String := "root"

/-- The name that a logger is kept under: its own, but none for the one at the top, so that what is
noted under its name does not meet it. -/
def keptName (name : String) : String := if name = topName then "" else name

/-- The logger of a kept name before anything was done to it. -/
def Logger.unset (kept : String) : Logger :=
  { level := if kept = "" then Level.atTop else Level.notSet }

/-- The parts of a name that stand above it, the longest first: what is in front of a point. A
point right in front of another one that was used is passed over, and so is one that nothing
stands in front of. -/
def above (name : String) : List String := (go name.toList.reverse).map String.ofList
where
  /-- Reads a name from its end. -/
  go : List Char → List (List Char)
    | [] => []
    | '.' :: rest => (if rest = [] then [] else [rest.reverse]) ++ go (rest.drop 1)
    | _ :: rest => go rest
  termination_by text => text.length
  decreasing_by
    · simp only [List.length_drop, List.length_cons]; omega
    · simp

namespace Registry

/-- What a name stands for. -/
def get? (registry : Registry) (name : String) : Option Holder := registry.lookup name

/-- The logger of a kept name. -/
def logger? (registry : Registry) (name : String) : Option Logger :=
  match registry.get? name with
  | some (.logger logger) => some logger
  | _ => none

/-- The registry with something else for one name. -/
def set (registry : Registry) (name : String) (holder : Holder) : Registry :=
  (name, holder) :: registry.filter fun entry => entry.1 ≠ name

/-- Looks for the nearest logger among the names above `name`, and notes `name` in the places
that come before it. -/
def findParent (registry : Registry) (name : String) : List String → Option String × Registry
  | [] => (none, registry)
  | upper :: rest =>
    match registry.get? upper with
    | some (.logger _) => (some upper, registry)
    | some (.place below) =>
      let below := if below.contains name then below else below ++ [name]
      (registry.set upper (.place below)).findParent name rest
    | none => (registry.set upper (.place [name])).findParent name rest

/-- Puts a new logger above those that were noted below its name, unless they have a logger in
between. -/
def adopt (registry : Registry) (name : String) (below : List String) : Registry :=
  below.foldl (fun registry child =>
    match registry.logger? child with
    | none => registry
    | some logger =>
      let between := (logger.parent.getD topName).startsWith name
      if between then registry
      else registry.set child (.logger { logger with parent := some name })) registry

/-- The logger of a kept name, which is made if there is none. -/
def ask (registry : Registry) (name : String) : Logger × Registry :=
  match registry.logger? name with
  | some logger => (logger, registry)
  | none =>
    let adopted :=
      match registry.get? name with
      | some (.place below) => registry.adopt name below
      | _ => registry
    let (parent, placed) := adopted.findParent name (above name)
    let logger := { Logger.unset name with parent := parent }
    (logger, placed.set name (.logger logger))

/-- The registry without the answers that were given. -/
def forget (registry : Registry) : Registry :=
  registry.map fun (name, holder) =>
    match holder with
    | .logger logger => (name, .logger { logger with known := [] })
    | place => (name, place)

/-- Sets a logger up. The error is the name that belongs to no level. -/
def setUp (registry : Registry) (environment : Environment) (name : String) :
    Except String Logger × Registry :=
  let name := keptName name
  let (logger, registry) := registry.ask name
  if logger.handlers ≠ 0 then (.ok logger, registry)
  else
    let attached := { logger with handlers := logger.handlers + 1 }
    match Level.ofName? environment.loggingLevel with
    | none => (.error environment.loggingLevel, registry.set name (.logger attached))
    | some level =>
      let ready := { attached with level := level, propagates := false, known := [] }
      (.ok ready, registry.forget.set name (.logger ready))

/-- The level of the logger at the top. -/
def topLevel (registry : Registry) : Level :=
  ((registry.logger? "").getD (Logger.unset "")).level

/-- The level that decides for a logger: its own or, if that is not set, the nearest one above.
No chain of loggers is longer than their number, which `fuel` stands for. -/
def decidingLevel (registry : Registry) : (fuel : Nat) → Logger → Level
  | 0, _ => registry.topLevel
  | fuel + 1, logger =>
    if logger.level ≠ Level.notSet then logger.level
    else
      match logger.parent.bind registry.logger? with
      | some parent => registry.decidingLevel fuel parent
      | none => registry.topLevel

/-- Whether a logger takes records of a level. An answer that was given holds until a level is
set somewhere. -/
def enabled (registry : Registry) (name : String) (level : Level) : Bool × Registry :=
  let name := keptName name
  match registry.logger? name with
  | none => (registry.topLevel ≤ level, registry)
  | some logger =>
    match logger.known.lookup level with
    | some answer => (answer, registry)
    | none =>
      let answer : Bool := registry.decidingLevel (registry.length + 1) logger ≤ level
      (answer, registry.set name (.logger { logger with known := (level, answer) :: logger.known }))

end Registry

end Bindery.Log
