import LineShell.Shell.Loop
import LineShell.Shell.Structured

/-!
# Scripted applications

An application whose commands and key handlers are written down as lists of actions. It has a
counter for its state, which one of the actions increases. A script serves to try out a shell, or a
change to its settings, without writing commands for it.
-/

namespace LineShell.Script

/-- One thing that a scripted command or handler does. `Command` are the commands that it may
register. -/
inductive Action (Command : Type)
  /-- Writes text. -/
  | write (text : String)
  /-- Writes a line. -/
  | line (text : String)
  /-- Writes a line to the error stream. -/
  | errorLine (text : String)
  /-- Writes a line with the values of the arguments. -/
  | arguments
  /-- Writes a line with the count and the values of an option. -/
  | option (id : String)
  /-- Increases the counter and writes a line with it. -/
  | count
  /-- Writes a line about the state of the shell. -/
  | status
  /-- Fails. -/
  | fail (f : Failure)
  /-- Presses the break key. -/
  | pressBreak
  /-- Gives way once. -/
  | pause
  /-- Waits until the token is cancelled. -/
  | await
  /-- Waits for something that never comes. -/
  | hang
  /-- Raises an interrupt. -/
  | interrupt
  /-- Signals readiness. -/
  | ready
  /-- Asks the shell to stop. -/
  | exit
  /-- Replaces the line being edited. -/
  | setInput (text : String)
  /-- Clears the screen. -/
  | clear
  /-- Forgets the history. -/
  | forgetHistory
  /-- Records a line in the history. -/
  | record (line : String)
  /-- Replaces the line being edited and submits it. -/
  | submit (text : String)
  /-- Registers a command. -/
  | register (command : Command)

/-- When a scripted command takes a line without issues. -/
inductive Acceptance
  /-- Always, or never. -/
  | constant (accepted : Bool)
  /-- If the first argument has the value. -/
  | firstArgument (value : String)

/-- What a scripted command offers: the values that begin with what was typed, and what was typed
after a label, if there is one. -/
structure Offer where
  values : List String
  label : Option String

/-- What a scripted command says about itself and offers for completion. -/
structure Manner where
  summary : Option String := none
  acceptance : Acceptance := .constant true
  /-- What is offered for arguments. -/
  argument : Option Offer := none
  /-- What is offered for the values of options, by their ids. -/
  values : List (String × Offer) := []
  /-- The text about the command, or no text, if it is not to be the usual one. -/
  details : Option (Option String) := none

/-- A scripted command. -/
inductive Command
  /-- A command with a grammar. -/
  | structured (grammar : Grammar) (manner : Manner) (body : List (Action Command))
  /-- A command that answers each line alike, after it has written a line or failed. -/
  | fixed (name : String) (answer : Answer) (fails writes : Option String) (offers : List String)
    (body : List (Action Command))

/-- A shell with scripted commands and handlers. -/
abbrev signature : Signature where
  Command := Command
  Handler := List (Action Command)
  State := Nat

/-! ### Actions -/

/-- What the status action says about a shell, for work under a token. -/
def statusLine (shell : Shell signature) (t : Token) : String :=
  s!"ready={shell.ready} exit={shell.exitRequested} active={shell.breaks.isActive} " ++
    s!"cancelled={shell.isCancelled t} input=[" ++ shell.editor.text ++
    s!"] history={shell.history.entries.length}"

/-- The values that were given to an option, after their number. -/
def optionLine (input : Option Input) (id : String) : String :=
  let values := input.elim [] (·.optionValues id)
  s!"{input.elim 0 (·.optionCount id)}:" ++ "|".intercalate values

/-- What an action does, on a bound line if there is one, under a token. -/
def Action.program (input : Option Input) (t : Token) :
    Action Command → Program signature Unit
  | .write text => .write text
  | .line text => .writeLine text
  | .errorLine text => .writeErrorLine text
  | .arguments => .writeLine ("|".intercalate (input.elim [] (·.argumentValues)))
  | .option id => .writeLine (optionLine input id)
  | .count => .look fun shell =>
    .act (.setState (shell.state + 1)) (.writeLine s!"count {shell.state + 1}")
  | .status => .look fun shell => .writeLine (statusLine shell t)
  | .fail f => .fail f
  | .pressBreak => .perform .pressBreak
  | .pause => .perform .pause
  | .await => .perform (.await t)
  | .hang => .perform .hang
  | .interrupt => .perform .interrupt
  | .ready => .perform .signalReady
  | .exit => .perform .requestExit
  | .setInput text => .perform (.setInput text)
  | .clear => .perform (.output .clear)
  | .forgetHistory => .perform .forgetHistory
  | .record text => .perform (.record text)
  | .submit text => .act (.setInput text) (.perform (.submit t))
  | .register command => .perform (.register command)

/-- Actions one after the other. -/
def program (input : Option Input) (t : Token) : List (Action Command) → Program signature Unit
  | [] => return
  | a :: actions => do
    a.program input t
    program input t actions

/-! ### Commands -/

/-- Whether a line is taken. -/
def Acceptance.accepts : Acceptance → Input → Bool
  | .constant accepted, _ => accepted
  | .firstArgument value, input => input.argument? 0 == some value

/-- What is offered for a fragment. -/
def Offer.suggestions (o : Offer) (fragment : String) : List String :=
  o.values.filter (fun value => fragment.toList.isPrefixOf value.toList) ++
    (o.label.map (· ++ "<" ++ fragment ++ ">")).toList

/-- A scripted command with a grammar. -/
def structured (grammar : Grammar) (manner : Manner) (body : List (Action Command)) :
    Structured signature where
  grammar
  execute input t := program (some input) t body
  summary _ := manner.summary
  ownDetails := manner.details.map fun text => fun _ _ => text
  accepts _ input := manner.acceptance.accepts input
  suggestArgument _ _ fragment := manner.argument.elim [] (·.suggestions fragment)
  suggestValue _ _ id fragment := (manner.values.lookup id).elim [] (·.suggestions fragment)

/-- What a command that answers each line alike does before its answer. -/
def fixedAnswer (answer : Answer) (fails writes : Option String) (line : Line) :
    Program signature Answer :=
  match fails, writes with
  | some reason, _ => .fail (.command reason)
  | none, some text => do
    .writeLine (text ++ s!" {line.words.length}")
    return answer
  | none, none => return answer

/-- What a scripted command does. -/
def Command.toCommand : Command → LineShell.Command signature
  | .structured grammar manner body => (Script.structured grammar manner body).toCommand
  | .fixed name answer fails writes offers body => {
      name
      grammar := none
      canHandle := fixedAnswer answer fails writes
      execute := fun _ t => program none t body
      suggest := fun _ _ => offers
      summary := fun _ => none
      details := fun _ _ => none }

/-- What is done when the shell is ready. -/
inductive Announcement
  /-- The prompt of the shell is written. -/
  | prompt
  /-- A label is written, with the counter after it. -/
  | label (text : String)
  /-- The announcement fails. -/
  | fails (reason : String)

/-- What an announcement does. -/
def Announcement.program : Announcement → Program signature Unit
  | .prompt => .writePrompt
  | .label text => .look fun shell => .write (text ++ s!"{shell.state}> ")
  | .fails reason => .fail (.command reason)

/-- An application with scripted commands and handlers. -/
def application (announcement : Announcement) : Application signature where
  command c := c.toCommand
  handle actions _ t := program none t actions
  announce := announcement.program

end LineShell.Script
