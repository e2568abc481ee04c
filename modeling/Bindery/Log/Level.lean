/-
This file holds the levels of log records: numbers, some of which have names.
-/

import Bindery.Text.Quoted

namespace Bindery.Log

/-- How urgent a record is. -/
abbrev Level := Int

namespace Level

def notSet : Level := 0
def debug : Level := 10
def info : Level := 20
def warning : Level := 30
def error : Level := 40
def critical : Level := 50

/-- The names that a level can be given by. -/
def names : List (String × Level) := [
  ("CRITICAL", critical), ("FATAL", critical), ("ERROR", error), ("WARN", warning),
  ("WARNING", warning), ("INFO", info), ("DEBUG", debug), ("NOTSET", notSet)]

/-- The level of a name in capitals. -/
def ofName? (name : String) : Option Level := names.lookup name

/-- The names that levels are shown by. -/
def shownNames : List (Level × String) := [
  (critical, "CRITICAL"), (error, "ERROR"), (warning, "WARNING"), (info, "INFO"),
  (debug, "DEBUG"), (notSet, "NOTSET")]

/-- How a level is shown; one without a name by its number. -/
def text (level : Level) : String :=
  (shownNames.lookup level).getD ("Level " ++ toString level)

/-- The level that decides at the top, where no other level is set. -/
def atTop : Level := warning

/-- The level that decides for a logger with nothing but the top above it. -/
def deciding (level : Level) : Level := if level = notSet then atTop else level

/-- The words for a name that belongs to no level. -/
def unknownMessage (name : String) : String := "Unknown level: " ++ Text.quoted name

end Level

end Bindery.Log
