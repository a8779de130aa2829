import LineShell.History

/-!
# Settings of a shell

What can be chosen about a shell, each with a default.
-/

namespace LineShell

/-- The settings of the history. -/
structure HistoryConfig where
  /-- How many lines are kept. -/
  maxEntries : Nat := History.defaultCapacity
  /-- The path of the file that the lines are kept in; without one they are kept in memory. -/
  file : Option String := none
  deriving DecidableEq, Repr

/-- The settings of a shell. -/
structure Config where
  /-- What is written when the shell is ready for a line. -/
  prompt : String := "> "
  /-- Whether the terminal is put into raw mode while keys are read. -/
  rawMode : Bool := true
  /-- Whether letters and digits of all scripts count as word characters. -/
  unicodeWords : Bool := false
  history : HistoryConfig := {}
  /-- The path of the file for diagnostic messages. -/
  logFile : Option String := none
  deriving DecidableEq, Repr

end LineShell
