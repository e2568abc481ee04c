/-
This file measures calls. A measured call logs how long it took whether or not it succeeded,
and its outcome passes through.
-/

import Bindery.Decimal.Fixed
import Bindery.Log.Level

namespace Bindery.Log

/-- What is measured and how it is logged. -/
structure Timing where
  module : String := "mod"
  function : String := "fn"
  /-- What the record calls the call; by default its module and name. -/
  title : String := ""
  level : Level := Level.debug

/-- What the record calls the call. An empty title counts as none. -/
def Timing.shownTitle (timing : Timing) : String :=
  if timing.title = "" then timing.module ++ "." ++ timing.function else timing.title

/-- The message about a call that took `seconds`. -/
def tookMessage (title : String) (seconds : Float) : String :=
  title ++ " took " ++ Decimal.fixed 3 seconds ++ " secs"

/-- The record about a call between two readings of the clock, if the logger takes it. -/
def Timing.record? (timing : Timing) (least : Level) (start finish : Float) :
    Option (Level × String) :=
  if least.deciding ≤ timing.level then
    some (timing.level, tookMessage timing.shownTitle (finish - start))
  else none

end Bindery.Log
