import LineShell.Grammar.Problem
import LineShell.Shell.Program

/-!
# Commands and applications

A command says whether a line is meant for it, runs it, completes it, and tells about itself. An
application says what its commands and key handlers do, and what happens when the shell is ready for
a line.
-/

namespace LineShell

/-- Whether a line is for a command. -/
inductive Answer
  /-- The line is for another command. -/
  | notMine
  /-- The line is for the command but cannot be run. The command has said why. -/
  | invalid
  /-- The command will run the line. -/
  | valid
  deriving DecidableEq, Repr

/-- A command. -/
structure Command (S : Signature) where
  /-- The name for lists of commands. -/
  name : String
  /-- The grammar of the lines for the command, if there is one. -/
  grammar : Option Grammar
  /-- Says whether a line is for the command. -/
  canHandle : Line → Program S Answer
  /-- Runs a line under a token. -/
  execute : Line → Token → Program S Unit
  /-- What could stand at the caret of a line. -/
  suggest : Shell S → Line → List String
  /-- One line about the command. -/
  summary : Shell S → Option String
  /-- All about the command, for a line that is for it. -/
  details : Shell S → Line → Option String

/-- What the parts of an application do. -/
structure Application (S : Signature) where
  command : S.Command → Command S
  /-- What a handler does for a key, under a token. -/
  handle : S.Handler → Key → Token → Program S Unit
  /-- What happens when the shell is ready for a line. -/
  announce : Program S Unit := .writePrompt

namespace Shell

variable {S : Signature}

/-- The problems of the grammar of a command, by itself and among the registered ones. -/
def problemsOf (app : Application S) (shell : Shell S) (command : S.Command) : List Problem :=
  match (app.command command).grammar with
  | none => []
  | some g =>
    g.problems ++ Grammar.ambiguities (shell.commands.filterMap (app.command · |>.grammar)) g

/-- The names of the commands and whether readiness was signalled, for diagnostic messages. -/
def description (app : Application S) (shell : Shell S) : String :=
  let names := shell.commands.map fun c => Text.quoted (app.command c).name
  "Dispatcher \x7b commands: [" ++ ", ".intercalate names ++ "], ready: " ++
    toString shell.ready ++ ", .. \x7d"

/-- Registers a command after all others, whatever its problems. -/
def register (shell : Shell S) (command : S.Command) : Shell S :=
  { shell with commands := shell.commands ++ [command] }

end Shell

end LineShell
