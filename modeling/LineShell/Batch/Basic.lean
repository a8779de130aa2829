import LineShell.Batch.Directory
import LineShell.Batch.Invocation
import LineShell.Builtin.Commands
import LineShell.Config.Stored

/-!
# Batch runs

A batch run takes its lines from the standard input as if they were typed into a shell with the
built-in commands, and prints what is on the screen in the end, without the blanks at its end.
Before that the settings are put together and the file for diagnostic messages is opened. What goes
wrong on the way is said on the error stream, after the errors of the shell itself.
-/

namespace LineShell

/-- How a run of the program ends. -/
structure Outcome where
  /-- The exit code: 0 for success, 1 for a failure, 2 for an invocation that is not understood. -/
  code : Nat
  /-- The standard output. -/
  out : String := ""
  /-- The error stream. -/
  err : String := ""
  deriving DecidableEq, Repr

namespace Batch

/-- The name and version of the program. -/
def version : String :=
  "command-shell 0.1.0"

/-- What is said about an invocation that is not understood. -/
def usage : String :=
  "usage: command-shell [--config PATH] [--prompt PROMPT] [--history-file PATH] " ++
    "[--log-file PATH] [--no-raw-mode] [--version]"

/-- The invocation of a shell, or how a run without one ends. -/
def invocation : Request → Except Outcome Invocation
  | .shell i => .ok i
  | .version => .error { code := 0, out := version ++ "\n" }
  | .unknown => .error { code := 2, err := usage ++ "\n" }

/-- The outcome of a run that fails for a reason before there is a shell. -/
def failed (reason : String) : Outcome :=
  { code := 1, err := "error: " ++ reason ++ "\n" }

/-- What is said when the configuration file cannot be used. -/
def configFailure (path : String) (f : Failure) : String :=
  "Failed to load config '" ++ path ++ "': " ++ f.message

/-- What is said when the path of the file for diagnostic messages has no name of a file. -/
def logFailure (path : String) : String :=
  "Invalid log file path '" ++ path ++ "'"

/-- What is said when the file for diagnostic messages cannot be opened. -/
def openFailure (path : String) (e : SystemError) : String :=
  "Failed to open log file '" ++ path ++ "': " ++ e.message

/-- What is said when the standard input is no text. -/
def inputFailure : String :=
  "Failed to read stdin: " ++ SystemError.message .notText

/-- What is said when there can be no shell with the settings. -/
def shellFailure (f : Failure) : String :=
  "Failed to create shell: " ++ f.message

/-- The settings of a run. The terminal is none, so its mode is left alone. -/
def config (i : Invocation) (find : String → FileState) : Except String Config := do
  let base ← match i.config with
    | none => pure {}
    | some path => match Config.load { state := find path } with
      | .ok c => pure c
      | .error f => throw (configFailure path f)
  let c := i.override base
  match c.logFile with
  | none => return { c with rawMode := false }
  | some path =>
    if (Path.fileName? path).isNone then throw (logFailure path)
    return { c with rawMode := false }

/-- The shell after the lines were typed and run, and the reason if the run failed. -/
def finish (shell : Shell Builtin.signature) (lines : List String) :
    Shell Builtin.signature × Option String :=
  let typed := shell.withConsole (shell.console.enqueue (lines.flatMap Console.typingLine))
  match Run.all Builtin.application typed with
  | .ok () shell => (shell, none)
  | .error (.failure f) shell => (shell, some f.message)
  | .error _ shell => (shell, none)

/-- What a shell leaves behind. -/
def outcome (shell : Shell Builtin.signature) (failure : Option String) : Outcome where
  code := if failure.isNone then 0 else 1
  out := Text.trimEnd shell.console.transcript ++ "\n"
  err := Text.unlines (shell.console.errors ++ (failure.map ("error: " ++ ·)).toList)

/-- Runs a shell with some settings on the standard input, which is none if it is no text. The
outcome, and what becomes of the history file. -/
def runShell (c : Config) (find : String → FileState) (input : Option String) :
    Outcome × Option FileState :=
  match input with
  | none => (failed inputFailure, none)
  | some input =>
    match Builtin.shell c fun path => { state := find path } with
    | .error f => (failed (shellFailure f), none)
    | .ok shell =>
      let (shell, failure) := finish shell (Text.lines input)
      (outcome shell failure, shell.history.file.map (·.state))

/-- The directory after the file for diagnostic messages was opened, if there is to be one. -/
def openLog (c : Config) (d : Directory) : Except String Directory :=
  match c.logFile with
  | none => .ok d
  | some path => (d.openForAppend path).mapError (openFailure path)

/-- The directory with the standard input in its place. -/
def withInput (d : Directory) (input : Option String) : Directory :=
  d.put .input (match input with
    | some text => .text text
    | none => .binary)

/-- What is left of the standard input after the configuration was read, perhaps from it. -/
def inputAfter (i : Invocation) (input : Option String) (d : Directory) : Option String :=
  match i.config.map d.place with
  | some (.ok p) => if p = .input then some "" else input
  | _ => input

/-- Runs the program in a directory. -/
def run (words : List String) (input : Option String) (d : Directory) : Outcome × Directory :=
  match invocation (Request.ofWords words) with
  | .error outcome => (outcome, d)
  | .ok i =>
    match config i (withInput d input).find with
    | .error reason => (failed reason, d)
    | .ok c =>
      let input := inputAfter i input d
      match openLog c (d.put .input .sink) with
      | .error reason => (failed reason, d)
      | .ok d =>
        let (outcome, history) := runShell c d.find input
        match c.history.file, history with
        | some path, some s => (outcome, d.update path s)
        | _, _ => (outcome, d)

end Batch

end LineShell
