import LineShell.Config.Basic

/-!
# Invocations

What the words after the name of the program ask for. An option takes its value from the word after
it, unless that word looks like an option itself, or from behind an equals sign. An option may be
given once. The words are looked at one by one, and the first one that is wrong or asks for the
version decides.
-/

namespace LineShell

/-- The choices made when the program is called. -/
structure Invocation where
  /-- The path of the configuration file. -/
  config : Option String := none
  prompt : Option String := none
  historyFile : Option String := none
  logFile : Option String := none
  /-- Whether the terminal is left in its mode. -/
  keepsMode : Bool := false
  deriving DecidableEq, Repr

/-- What the program is asked to do. -/
inductive Request
  /-- To run a shell. -/
  | shell (i : Invocation)
  /-- To say its version. -/
  | version
  /-- Something that it does not know how to do. -/
  | unknown
  deriving DecidableEq, Repr

/-- The options that take a value. -/
inductive Choice
  | config
  | prompt
  | historyFile
  | logFile
  deriving DecidableEq, Repr

/-- The option of a name. -/
def Choice.named? (name : String) : Option Choice :=
  [("--config", config), ("--prompt", prompt), ("--history-file", historyFile),
    ("--log-file", logFile)].lookup name

namespace Invocation

/-- The value that an option has so far. -/
def value? (i : Invocation) : Choice → Option String
  | .config => i.config
  | .prompt => i.prompt
  | .historyFile => i.historyFile
  | .logFile => i.logFile

/-- The invocation with a value for an option. A path may not be empty. -/
def choose? (i : Invocation) (choice : Choice) (value : String) : Option Invocation :=
  if (i.value? choice).isSome || (choice != .prompt && value.isEmpty) then none
  else match choice with
    | .config => some { i with config := some value }
    | .prompt => some { i with prompt := some value }
    | .historyFile => some { i with historyFile := some value }
    | .logFile => some { i with logFile := some value }

/-- Whether a word looks like an option. -/
def isOption (word : String) : Bool :=
  match word.toList with
  | '-' :: _ :: _ => true
  | _ => false

/-- The parts of a word before and behind its first equals sign. -/
def splitValue (word : String) : String × Option String :=
  match word.toList.span (· != '=') with
  | (name, _ :: value) => (.ofList name, some (.ofList value))
  | (_, []) => (word, none)

/-- What the words ask for, given what was chosen by the ones before them. -/
def request (i : Invocation) : List String → Request
  | [] => .shell i
  | word :: words =>
    if word == "--version" || "-V".toList.isPrefixOf word.toList then .version
    else if word == "--no-raw-mode" then
      if i.keepsMode then .unknown else request { i with keepsMode := true } words
    else if word == "--" && words.isEmpty then .shell i
    else
      let (name, value) := splitValue word
      match Choice.named? name, value, words with
      | some choice, some value, words =>
        match i.choose? choice value with
        | some i => request i words
        | none => .unknown
      | some choice, none, value :: words =>
        match i.choose? choice value with
        | some i => if isOption value then .unknown else request i words
        | none => .unknown
      | _, _, _ => .unknown

/-- The settings, with what was chosen put in their place. -/
def override (i : Invocation) (c : Config) : Config :=
  { c with
    prompt := i.prompt.getD c.prompt
    rawMode := c.rawMode && !i.keepsMode
    history := { c.history with file := i.historyFile <|> c.history.file }
    logFile := i.logFile <|> c.logFile }

end Invocation

/-- What the words after the name of the program ask for. -/
def Request.ofWords (words : List String) : Request :=
  Invocation.request {} words

end LineShell
