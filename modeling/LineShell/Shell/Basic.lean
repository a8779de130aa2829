import LineShell.Binding.Basic
import LineShell.Cancellation.BreakScope
import LineShell.Config.Basic
import LineShell.Console.KeyTable
import LineShell.Console.RawMode
import LineShell.Editor.Terminal

/-!
# The shell

A shell ties together a console with the line being edited, a history, the commands of an
application in the order of their registration, the key table, and the break scope. An application
brings types of its own for its commands, its key handlers and its state; what they do is said by
`Application`, apart from the shell that holds them.
-/

namespace LineShell

/-- The types that an application brings. -/
structure Signature where
  /-- The commands of the application. -/
  Command : Type
  /-- The handlers that keys can be bound to. -/
  Handler : Type
  /-- The state that commands and handlers work on. -/
  State : Type

/-- A completion in progress: a ring of candidates for one place in the line. -/
structure Completion where
  /-- The candidates, at least one. -/
  candidates : List String
  /-- The index of the candidate that is in the line. -/
  index : Nat
  /-- The characters of the line before the candidate. -/
  before : List Char
  /-- The characters of the line after the candidate. -/
  after : List Char
  deriving DecidableEq, Repr

/-- The state of a shell. -/
structure Shell (S : Signature) where
  /-- The state of the application. -/
  state : S.State
  terminal : Terminal := {}
  history : History
  /-- The commands, the earliest registered first. -/
  commands : List S.Command := []
  /-- Whether readiness was signalled since a line was last submitted. -/
  ready : Bool := false
  /-- The completion that was applied last, unless a line was submitted since. -/
  completion : Option Completion := none
  keys : KeyTable S.Handler := .standard
  breaks : BreakScope := {}
  config : Config := {}
  /-- Whether the shell was asked to stop. -/
  exitRequested : Bool := false
  /-- Whether an interrupt of the process was raised and not yet seen. -/
  interrupted : Bool := false
  modeProgram : ModeProgram := {}

namespace Shell

variable {S : Signature}

/-- A shell with some settings. A history that is handed over takes the place of the one in the
settings; a history file that exists has to be readable. -/
def create (state : S.State) (config : Config) (files : String → File)
    (prepared : Option History) : Except Failure (Shell S) := do
  let history ← match prepared, config.history.file with
    | some history, _ => pure history
    | none, some path => History.withFile (files path) config.history.maxEntries
    | none, none => pure (.inMemory config.history.maxEntries)
  return {
    state, history, config
    terminal := { editor := { unicodeWords := config.unicodeWords } } }

/-- The console of the shell. -/
def console (shell : Shell S) : Console :=
  shell.terminal.console

/-- The line being edited. -/
def editor (shell : Shell S) : Editor :=
  shell.terminal.editor

/-- The shell with another state of its console. -/
def withConsole (shell : Shell S) (c : Console) : Shell S :=
  { shell with terminal := { shell.terminal with console := c } }

/-- Whether a token is cancelled. -/
def isCancelled (shell : Shell S) (t : Token) : Bool :=
  shell.breaks.tokens.isCancelled t

/-- The shell after its break key was pressed, and whether a scope was open. -/
def pressBreak (shell : Shell S) : Bool × Shell S :=
  let (hit, breaks) := shell.breaks.trigger
  (hit, { shell with breaks })

end Shell

end LineShell
