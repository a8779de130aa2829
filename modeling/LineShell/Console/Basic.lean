import LineShell.Console.Key
import LineShell.Console.Screen
import LineShell.Failure

/-!
# The console

A console shows what is written to it on a screen, keeps the lines of the error stream, and hands
out key presses from a queue. It records every output, and it may be told to refuse some: a refused
output leaves screen, errors and record as they were.
-/

namespace LineShell

/-- What a console is asked to put out. -/
inductive Output
  /-- Characters to write at the caret. -/
  | text (text : String)
  /-- A line for the error stream. -/
  | errorLine (text : String)
  /-- A number of columns to move the caret to the right, or to the left if negative. -/
  | move (n : Int)
  /-- Whether the caret is to be seen. -/
  | caretShown (shown : Bool)
  /-- An order to empty the screen. -/
  | clear
  deriving DecidableEq, Repr

/-- What comes in at a console. -/
inductive Event
  /-- A key is pressed. -/
  | key (key : Key)
  /-- The break key is pressed while the shell waits for a key. -/
  | breakKey
  /-- The device fails for a reason. -/
  | fault (reason : String)
  deriving DecidableEq, Repr

/-- The state of a console. -/
structure Console where
  screen : Screen := {}
  /-- Whether the caret is to be seen. -/
  caretShown : Bool := true
  /-- The lines of the error stream. -/
  errors : List String := []
  /-- Everything put out, the latest first. -/
  record : List Output := []
  /-- What has come in and was not read yet. -/
  queue : List Event := []
  /-- Which of the outputs to come are refused. -/
  refusals : Refusals := []
  deriving DecidableEq, Repr

namespace Console

/-! ### Output -/

/-- What an output does to the console. -/
def apply (c : Console) : Output → Console
  | .text text => { c with screen := c.screen.write text.toList }
  | .errorLine text => { c with errors := c.errors ++ [text] }
  | .move n => { c with screen := c.screen.move n }
  | .caretShown shown => { c with caretShown := shown }
  | .clear => { c with screen := {} }

/-- Puts something out, unless the console refuses. -/
def output (o : Output) : Attempt Console Unit := fun c =>
  match c.refusals.next with
  | (true, rest) => .error (.system (.device "console failed")) { c with refusals := rest }
  | (false, rest) => .ok () { c.apply o with record := o :: c.record, refusals := rest }

/-- Writes text at the caret. -/
def write (text : String) : Attempt Console Unit :=
  output (.text text)

/-- Writes text and ends the line. -/
def writeLine (text : String) : Attempt Console Unit := do
  write text
  write "\n"

/-- Writes a line to the error stream. -/
def writeErrorLine (text : String) : Attempt Console Unit :=
  output (.errorLine text)

/-- Moves the caret to the right, or to the left by a negative number. -/
def moveCaret (n : Int) : Attempt Console Unit :=
  output (.move n)

/-- Shows or hides the caret. -/
def showCaret (shown : Bool) : Attempt Console Unit :=
  output (.caretShown shown)

/-- Empties the screen. -/
def clear : Attempt Console Unit :=
  output .clear

/-! ### Input -/

/-- The console with some more events to come. -/
def enqueue (c : Console) (events : List Event) : Console :=
  { c with queue := c.queue ++ events }

/-- The key presses that type a text. -/
def typing (text : String) : List Event :=
  text.toList.map fun c => .key (.ofChar c)

/-- The key presses that type a text and enter it. -/
def typingLine (text : String) : List Event :=
  typing text ++ [.key { code := .enter }]

/-- The next key press and the console after it was read. Nothing is read once the wait for it is
cancelled, or when the queue is used up or does not go on with a key press. -/
def readKey (c : Console) (cancelled : Bool) : Option Key × Console :=
  match cancelled, c.queue with
  | false, .key key :: rest => (some key, { c with queue := rest })
  | _, _ => (none, c)

/-- Whether something has come in. -/
def isKeyAvailable (c : Console) : Bool :=
  !c.queue.isEmpty

/-! ### What is on the screen -/

/-- The rows of the screen as texts. -/
def lines (c : Console) : List String :=
  c.screen.rows.map .ofList

/-- The screen as one text. -/
def transcript (c : Console) : String :=
  "\n".intercalate c.lines

/-- The row of the caret. -/
def currentLine (c : Console) : String :=
  .ofList c.screen.row.toList

/-- Everything put out, the earliest first. -/
def outputs (c : Console) : List Output :=
  c.record.reverse

end Console

end LineShell
