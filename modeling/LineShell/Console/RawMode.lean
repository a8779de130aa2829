import LineShell.Failure
import LineShell.Text.Blank

/-!
# Raw mode

While keys are read one by one the terminal must neither wait for a whole line nor echo what is
typed. The program `stty` sees to this: it is asked for the settings of the terminal, told to change
them, and given the old ones back at the end. If one of the first two calls fails the terminal stays
as it is, and nothing is given back.
-/

namespace LineShell

/-- The program that keeps the settings of the terminal. -/
structure ModeProgram where
  /-- What it answers when asked for the settings. -/
  settings : String := ""
  /-- Which of the calls to come fail. -/
  refusals : Refusals := []
  /-- The arguments of all calls, the latest first. -/
  record : List (List String) := []
  deriving DecidableEq, Repr

namespace ModeProgram

/-- The terminal that the process is run from. -/
def terminal : String := "/dev/tty"

/-- The arguments that ask for the settings. -/
def query : List String := ["-g"]

/-- The arguments that switch echo and line buffering off. -/
def enter : List String := ["-echo", "-icanon", "min", "1"]

/-- Calls the program; the answer is without blanks around it, and there is none if the call
fails. No program can be called with a NUL in an argument. -/
def call (p : ModeProgram) (args : List String) : Option String × ModeProgram :=
  if args.any (·.toList.contains '\x00') then (none, p)
  else
    let p := { p with record := (["-F", terminal] ++ args) :: p.record }
    match p.refusals.next with
    | (true, rest) => (none, { p with refusals := rest })
    | (false, rest) =>
      (some (if args = query then Text.trim p.settings else ""), { p with refusals := rest })

/-- Switches to raw mode. The result holds the settings to give back, if that went well. -/
def acquire (p : ModeProgram) : Option String × ModeProgram :=
  match p.call query with
  | (none, p) => (none, p)
  | (some saved, p) =>
    match p.call enter with
    | (none, p) => (none, p)
    | (some _, p) => (some saved, p)

/-- Gives the settings back that were there before raw mode. -/
def restore (p : ModeProgram) (saved : Option String) : ModeProgram :=
  match saved with
  | none => p
  | some saved => (p.call [saved]).2

/-- The calls made, the earliest first. -/
def calls (p : ModeProgram) : List (List String) :=
  p.record.reverse

end ModeProgram

end LineShell
