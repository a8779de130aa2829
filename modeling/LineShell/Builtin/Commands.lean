import LineShell.Builtin.Variables
import LineShell.Shell.Loop
import LineShell.Shell.Structured

/-!
# The built-in commands

A small shell of its own: it prints, keeps variables, clears the screen, shows the history, helps,
and leaves. All commands have a grammar. Control and L draws the line anew on an empty screen.
-/

namespace LineShell

/-- The built-in commands. -/
inductive Builtin
  /-- Prints its arguments. -/
  | echo
  /-- Lists, shows, assigns or deletes variables. -/
  | set
  /-- Clears the screen. -/
  | clear
  /-- Lists or forgets the history. -/
  | history
  /-- Lists the commands or describes one. -/
  | help
  /-- Leaves the shell. -/
  | exit
  deriving DecidableEq, Repr

namespace Builtin

/-- What a key can be bound to apart from edit actions. -/
inductive Handler
  /-- Draws the line anew on an empty screen. -/
  | redraw
  deriving DecidableEq, Repr

/-- A shell with the built-in commands, working on variables. -/
abbrev signature : Signature where
  Command := Builtin
  Handler := Handler
  State := Variables

/-! ### What the commands say of themselves -/

/-- The grammar of a command. -/
def grammar : Builtin → Grammar
  | .echo => (Grammar.named ["echo"]).anyNumber.finish
  | .set =>
    let delete : OptionGrammar := { id := "delete", forms := ["-d", "--delete"] }
    (((Grammar.named ["set"]).withOption delete).atMost 2).finish
  | .clear => ((Grammar.named ["clear"]).orNamed ["cls"]).finish
  | .history =>
    let clear : OptionGrammar := { id := "clear", forms := ["-c", "--clear"] }
    ((Grammar.named ["history"]).withOption clear).finish
  | .help => ((Grammar.named ["help"]).orNamed ["?"]).anyNumber.finish
  | .exit => ((Grammar.named ["exit"]).orNamed ["quit"]).finish

/-- One line about a command. -/
def summary : Builtin → String
  | .echo => "Prints its arguments, expanding $variables."
  | .set => "Lists, shows, assigns or deletes session variables."
  | .clear => "Clears the screen."
  | .history => "Lists or clears command history."
  | .help => "Lists commands, or describes one."
  | .exit => "Leaves the shell."

/-- All about a command, for a line that is for it. -/
def details (c : Builtin) (line : Line) : Option String :=
  match c.grammar.bind line with
  | .mismatch _ => none
  | .bound .. => some (c.grammar.usualDetails (some c.summary))

/-! ### What the commands do -/

/-- Prints the arguments with the variables in them expanded. -/
def runEcho (input : Input) : Program signature Unit :=
  .look fun shell =>
    .writeLine (" ".intercalate (input.argumentValues.map shell.state.expand))

/-- Ends because a variable is not there. -/
def unknownVariable (name : String) : Program signature Unit :=
  .fail (.command ("Unknown variable '" ++ name ++ "'"))

/-- Deletes a variable. -/
def runDelete (vars : Variables) : Option String → Option String → Program signature Unit
  | none, _ => .fail (.command "Missing variable name")
  | some _, some _ => .fail (.command "--delete takes only a variable name")
  | some name, none =>
    if (vars.get? name).isSome then .perform (.setState (vars.erase name))
    else unknownVariable name

/-- Lists all variables, shows one, or assigns one. -/
def runAssign (vars : Variables) : Option String → Option String → Program signature Unit
  | none, _ => .writeLines (vars.entries.map fun (name, value) => name ++ "=" ++ value)
  | some name, none =>
    match vars.get? name with
    | some value => .writeLine value
    | none => unknownVariable name
  | some name, some value => .perform (.setState (vars.insert name (vars.expand value)))

/-- Lists, shows, assigns or deletes variables. -/
def runSet (input : Input) : Program signature Unit :=
  .look fun shell =>
    if input.hasOption "delete" then
      runDelete shell.state (input.argument? 0) (input.argument? 1)
    else
      runAssign shell.state (input.argument? 0) (input.argument? 1)

/-- The text with blanks before it, so that it is at least so wide. -/
def padLeft (width : Nat) (text : String) : String :=
  .ofList (List.replicate (width - text.length) ' ') ++ text

/-- The text with blanks after it, so that it is at least so wide. -/
def padRight (width : Nat) (text : String) : String :=
  text ++ .ofList (List.replicate (width - text.length) ' ')

/-- The lines of the history, with their numbers. -/
def historyLines (entries : List String) : List String :=
  entries.mapIdx fun i entry => padLeft 4 (toString (i + 1)) ++ "  " ++ entry

/-- Lists or forgets the history. -/
def runHistory (input : Input) : Program signature Unit :=
  if input.hasOption "clear" then .perform .forgetHistory
  else .look fun shell => .writeLines (historyLines shell.history.entries)

/-- The names of some commands with their summaries, in columns. -/
def listing (commands : List Builtin) : List String :=
  let width := (commands.map (·.grammar.displayName.length)).foldl max 0
  commands.map fun c =>
    Text.trimEnd (padRight width c.grammar.displayName ++ "  " ++ c.summary)

/-- Lists the commands, or describes the one that the arguments, taken as a line, are for. -/
def runHelp (input : Input) : Program signature Unit :=
  .look fun shell =>
    if input.argumentValues.isEmpty then .writeLines (listing shell.commands)
    else
      let topic := " ".intercalate input.argumentValues
      let line := Line.parse topic topic.length
      match shell.commands.findSome? (·.details line) with
      | some text => .writeLine text
      | none => .fail (.command ("No help available for '" ++ topic ++ "'"))

/-! ### What the commands offer -/

/-- Whether the caret is on the first argument. -/
def isFirstArgument (input : Input) : Bool :=
  match input.selected with
  | some selected => selected.isArgument && input.arguments.all (selected.index ≤ ·.index)
  | none => false

/-- The texts that begin with a fragment. -/
def beginning (fragment : String) (texts : List String) : List String :=
  texts.filter fun text => fragment.toList.isPrefixOf text.toList

/-- What a command offers for an argument: names of variables or commands. -/
def suggestArgument (c : Builtin) (shell : Shell signature) (input : Input) (fragment : String) :
    List String :=
  if !isFirstArgument input then []
  else match c with
    | .set => beginning fragment shell.state.names
    | .help =>
      beginning fragment ((shell.commands.flatMap (·.grammar.names)).filterMap (·.head?))
    | _ => []

/-! ### The shell -/

/-- A command with its grammar. -/
def structured (c : Builtin) : Structured signature where
  grammar := c.grammar
  execute input _ :=
    match c with
    | .echo => runEcho input
    | .set => runSet input
    | .clear => .perform (.output .clear)
    | .history => runHistory input
    | .help => runHelp input
    | .exit => .perform .requestExit
  summary _ := some c.summary
  suggestArgument := c.suggestArgument

/-- Clears the screen and writes the prompt and the line again. -/
def redraw : Program signature Unit :=
  .look fun shell =>
    let e := shell.editor
    .act (.output .clear) <|
    .act (.output (.text shell.config.prompt)) <|
    .act (.output (.text e.text)) <|
    .perform (.output (.move (-(e.buffer.length - e.caret))))

/-- What the built-in commands and handlers do. -/
def application : Application signature where
  command c := c.structured.toCommand
  handle
    | .redraw, _, _ => redraw

/-- The commands in the order of their registration. -/
def all : List Builtin :=
  [.echo, .set, .clear, .history, .help, .exit]

/-- A shell with the built-in commands and no variables. -/
def shell (config : Config) (files : String → File) : Except Failure (Shell signature) := do
  let shell ← @Shell.create signature {} config files none
  return { shell with
    commands := all
    keys := shell.keys.bind (.ctrl (.char 'l')) (.handler .redraw) }

end Builtin

end LineShell
