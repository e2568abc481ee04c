/-
This file holds the names and numbers of the signals that processes send each other.
-/

import Bindery.Shell.Arithmetic

namespace Bindery.Shell

/-- The number that no signal reaches. -/
def signalLimit : Nat := 65

/-- The names of the signals from the first one on. -/
def namedSignals : List String := [
  "HUP", "INT", "QUIT", "ILL", "TRAP", "ABRT", "BUS", "FPE", "KILL", "USR1", "SEGV", "USR2",
  "PIPE", "ALRM", "TERM", "16", "CHLD", "CONT", "STOP", "TSTP", "TTIN", "TTOU", "URG", "XCPU",
  "XFSZ", "VTALRM", "PROF", "WINCH", "IO", "PWR", "SYS", "32", "33", "RTMIN"]

/-- The name of a signal; zero stands for the end of a shell. The signals without a name of
their own are counted from the first or back from the last of them. -/
def signalName (signal : Nat) : String :=
  if signal = 0 then "EXIT"
  else
    match namedSignals[signal - 1]? with
    | some name => name
    | none =>
      if signal < 50 then "RTMIN+" ++ toString (signal - 34)
      else if signal = 64 then "RTMAX"
      else "RTMAX-" ++ toString (64 - signal)

/-- What is said of a process that a signal ended. -/
def signalDescriptions : List (Nat × String) := [
  (1, "Hangup"), (3, "Quit"), (4, "Illegal instruction"), (5, "Trace/breakpoint trap"),
  (6, "Aborted"), (7, "Bus error"), (8, "Floating point exception"), (9, "Killed"),
  (10, "User defined signal 1"), (11, "Segmentation fault"), (12, "User defined signal 2"),
  (14, "Alarm clock"), (15, "Terminated"), (16, "Stack fault"),
  (24, "CPU time limit exceeded"), (25, "File size limit exceeded"),
  (26, "Virtual timer expired"), (27, "Profiling timer expired"), (29, "I/O possible"),
  (30, "Power failure"), (31, "Bad system call")]

/-- The signals that do nothing unless a process asks for them. -/
def isHarmless (signal : Nat) : Bool := [0, 17, 18, 23, 28].contains signal

/-- The number that a text of digits stands for. -/
def digitsNumber? (text : List Char) : Option Nat :=
  if text ≠ [] && text.all Char.isDigit then some (readDigits 10 0 text).1 else none

/-- The signal from a number on that a text names, by its number or its name. -/
def signalOf? (least : Nat) (text : List Char) : Option Nat :=
  match digitsNumber? text with
  | some number => if number < signalLimit then some number else none
  | none =>
    ((List.range signalLimit).drop least).find? fun signal =>
      (signalName signal).toList = text.map Char.toUpper

end Bindery.Shell
