import LineShell.Shell.Completion

/-!
# Running programs

The effects of programs are carried out one after the other. A program gives way only where it
pauses or waits. Then an interrupt that was raised presses the break key, and work whose token is
cancelled comes to its end: `race` runs a program against a token, and of nested races the
outermost one that is lost ends all within it.

Submitting a line is one of the effects, so a command may submit lines in its turn, and the program
that announces readiness may as well. `submit` and `signalReady` are therefore given by an engine
with one level less; a program that uses up all levels never comes to an end.
-/

namespace LineShell

/-- Why a run ends without a result. -/
inductive Halt
  /-- An operation failed. -/
  | failure (f : Failure)
  /-- The race against the token is lost. -/
  | aborted (token : Token)
  /-- The run waits for something that never comes. -/
  | stuck
  deriving DecidableEq, Repr

/-- A run of a shell. It keeps what it changed when it halts. -/
abbrev Run (S : Signature) (α : Type) := EStateM Halt (Shell S) α

/-- What programs can ask for that makes other programs run. -/
structure Engine (S : Signature) where
  /-- Submits the line being edited under a token, within some races. -/
  submit : List Token → Token → Run S Unit
  /-- Signals readiness, within some races. -/
  signalReady : List Token → Run S Unit

namespace Run

variable {S : Signature} {α : Type}

/-- Ends with a failure. -/
def fail (f : Failure) : Run S α :=
  throw (.failure f)

/-- An operation of the terminal. -/
def onTerminal (a : Attempt Terminal α) : Run S α := fun shell =>
  match a shell.terminal with
  | .ok value t => .ok value { shell with terminal := t }
  | .error f t => .error (.failure f) { shell with terminal := t }

/-- Puts something out on the console. -/
def output (o : Output) : Run S Unit :=
  onTerminal (Terminal.output o)

/-- Writes text and ends the line. -/
def writeLine (text : String) : Run S Unit := do
  output (.text text)
  output (.text "\n")

/-- Replaces the line being edited. -/
def setInput (text : String) : Run S Unit :=
  onTerminal (Terminal.setInput text)

/-! ### Giving way -/

/-- Lets an interrupt that was raised press the break key. -/
def noticeInterrupt : Run S Unit :=
  modify fun shell =>
    if shell.interrupted then { shell.pressBreak.2 with interrupted := false } else shell

/-- Gives way, within some races, the outermost first. -/
def giveWay (races : List Token) : Run S Unit := do
  noticeInterrupt
  let shell ← get
  match races.find? shell.isCancelled with
  | some t => throw (.aborted t)
  | none => return

/-- Waits until a token is cancelled. -/
def await (races : List Token) (t : Token) : Run S Unit := do
  if (← get).isCancelled t then return
  giveWay races
  if !(← get).isCancelled t then throw .stuck

/-! ### Programs -/

/-- Carries an effect out. -/
def effect (engine : Engine S) (races : List Token) : Effect S → Run S Unit
  | .output o => output o
  | .setInput text => setInput text
  | .record line => modify fun shell => { shell with history := shell.history.add line }
  | .forgetHistory => modify fun shell => { shell with history := shell.history.clear }
  | .signalReady => engine.signalReady races
  | .requestExit => modify fun shell => { shell with exitRequested := true }
  | .submit t => engine.submit races t
  | .pressBreak => modify fun shell => shell.pressBreak.2
  | .interrupt => do
    giveWay races
    modify fun shell => { shell with interrupted := true }
  | .pause => giveWay races
  | .await t => await races t
  | .hang => do
    giveWay races
    throw .stuck
  | .register c => modify fun shell => shell.register c
  | .setState s => modify fun shell => { shell with state := s }

/-- Runs a program. -/
def program (engine : Engine S) (races : List Token) : Program S α → Run S α
  | .done a => return a
  | .fail f => fail f
  | .look next => do program engine races (next (← get))
  | .act e next => do
    effect engine races e
    program engine races next

/-- Runs something against a token. The race is lost if the token is cancelled to begin with, or
when the run gives way. -/
def race (races : List Token) (t : Token) (body : List Token → Run S Unit) :
    Run S (Except Failure Unit) := fun shell =>
  if shell.isCancelled t then .ok (.error .cancelled) shell
  else match body (races ++ [t]) shell with
    | .ok () shell => .ok (.ok ()) shell
    | .error (.failure f) shell => .ok (.error f) shell
    | .error (.aborted u) shell =>
      if u = t then .ok (.error .cancelled) shell else .error (.aborted u) shell
    | .error .stuck shell => .error .stuck shell

/-! ### Readiness -/

/-- Signals that the shell is ready for a line, unless that was done since the last line. -/
def signalReady (app : Application S) (engine : Engine S) (races : List Token) : Run S Unit := do
  if (← get).ready then return
  modify fun shell => { shell with ready := true }
  program engine races app.announce

/-! ### Submitting a line -/

/-- What is said when no command takes a line. -/
def noMatchingCommand : String :=
  "No matching command found."

/-- What is said when the break key ends a command. -/
def commandCancelled : String :=
  "Command cancelled."

/-- What is said when a command fails. -/
def errorReport (f : Failure) : String :=
  "Error: " ++ f.message

/-- Says how a command ended, unless it ended well. -/
def report : Except Failure Unit → Run S Unit
  | .ok () => return
  | .error .cancelled => output (.errorLine commandCancelled)
  | .error f => output (.errorLine (errorReport f))

/-- Runs a command on a line under a token derived from the given one. -/
def executeCommand (engine : Engine S) (races : List Token) (t : Token) (command : Command S)
    (line : Line) : Run S Unit := do
  let (child, tokens) := (← get).breaks.tokens.derive t
  modify fun shell => { shell with breaks := { shell.breaks with tokens } }
  let outcome ← race races child fun races => program engine races (command.execute line child)
  modify fun shell =>
    { shell with breaks := { shell.breaks with tokens := shell.breaks.tokens.release child } }
  report outcome

/-- Offers a line to commands, one after the other, until one of them takes it. -/
def dispatch (app : Application S) (engine : Engine S) (races : List Token) (t : Token)
    (line : Line) : List S.Command → Run S Unit
  | [] => output (.errorLine noMatchingCommand)
  | c :: commands => do
    let command := app.command c
    match ← program engine races (command.canHandle line) with
    | .notMine => dispatch app engine races t line commands
    | .invalid => return
    | .valid => executeCommand engine races t command line

/-- Submits the line being edited: records it, has it dispatched unless it is blank, signals
readiness, and forgets the line. -/
def submit (app : Application S) (engine : Engine S) (races : List Token) (t : Token) :
    Run S Unit := do
  modify fun shell => { shell with ready := false, completion := none }
  writeLine ""
  let text := (← get).editor.text
  if !Text.allBlank text then
    modify fun shell => { shell with history := shell.history.add text }
    dispatch app engine races t (Line.parse text text.length) (← get).commands
  if !(← get).ready then
    writeLine ""
    signalReady app engine races
  onTerminal Terminal.resetInput

end Run

namespace Engine

variable {S : Signature}

/-- The engine with so many levels. -/
def ofLevels (app : Application S) : Nat → Engine S
  | 0 => {
      submit := fun _ _ => throw .stuck
      signalReady := fun _ => do if !(← get).ready then throw .stuck }
  | n + 1 => {
      submit := fun races t => Run.submit app (ofLevels app n) races t
      signalReady := fun races => Run.signalReady app (ofLevels app n) races }

/-- How many levels the engine of a shell has. -/
def levels : Nat := 10000

/-- The engine of a shell. -/
def standard (app : Application S) : Engine S :=
  ofLevels app levels

end Engine

end LineShell
