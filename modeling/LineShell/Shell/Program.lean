import LineShell.Shell.Basic

/-!
# Programs

What a command or a key handler does is a program: it looks at the shell, has effects one after the
other, and ends with a result or a failure. The effects are all that a program can do, so whatever
holds for each of them holds for every command there may be.
-/

namespace LineShell

/-- What a program can do to the shell. -/
inductive Effect (S : Signature)
  /-- Puts something out on the console. -/
  | output (o : Output)
  /-- Replaces the line being edited. -/
  | setInput (text : String)
  /-- Records a line in the history. -/
  | record (line : String)
  /-- Forgets the history. -/
  | forgetHistory
  /-- Signals that the shell is ready for a line. -/
  | signalReady
  /-- Asks the shell to stop. -/
  | requestExit
  /-- Submits the line being edited, under a token. -/
  | submit (token : Token)
  /-- Presses the break key. -/
  | pressBreak
  /-- Raises an interrupt of the process, once the one who listens for interrupts is there. -/
  | interrupt
  /-- Gives way once. -/
  | pause
  /-- Waits until a token is cancelled. -/
  | await (token : Token)
  /-- Waits for something that never comes. -/
  | hang
  /-- Registers a command. -/
  | register (command : S.Command)
  /-- Puts a new state of the application in the place of the old one. -/
  | setState (state : S.State)

/-- A program with a result. -/
inductive Program (S : Signature) (α : Type)
  /-- Ends with a result. -/
  | done (a : α)
  /-- Ends with a failure. -/
  | fail (f : Failure)
  /-- Looks at the shell and goes on accordingly. -/
  | look (next : Shell S → Program S α)
  /-- Has an effect and goes on. -/
  | act (effect : Effect S) (next : Program S α)

namespace Program

variable {S : Signature} {α β : Type}

/-- A program that goes on with another one once it has a result. -/
protected def bind : Program S α → (α → Program S β) → Program S β
  | done a, f => f a
  | fail e, _ => fail e
  | look next, f => look fun shell => (next shell).bind f
  | act effect next, f => act effect (next.bind f)

instance : Monad (Program S) where
  pure := done
  bind := Program.bind

@[simp] theorem done_bind (a : α) (f : α → Program S β) : (done a).bind f = f a := rfl

@[simp] theorem look_bind (next : Shell S → Program S α) (f : α → Program S β) :
    (look next).bind f = look fun shell => (next shell).bind f := rfl

@[simp] theorem act_bind (effect : Effect S) (next : Program S α) (f : α → Program S β) :
    (act effect next).bind f = act effect (next.bind f) := rfl

/-! ### Single steps -/

/-- A single effect. -/
def perform (effect : Effect S) : Program S Unit :=
  act effect (done ())

/-- The shell as it is. -/
def shell : Program S (Shell S) :=
  look done

/-- Writes text at the caret. -/
def write (text : String) : Program S Unit :=
  perform (.output (.text text))

/-- Writes text and ends the line. -/
def writeLine (text : String) : Program S Unit :=
  act (.output (.text text)) (write "\n")

/-- Writes lines one after the other. -/
def writeLines : List String → Program S Unit
  | [] => done ()
  | line :: lines => do
    writeLine line
    writeLines lines

/-- Writes a line to the error stream. -/
def writeErrorLine (text : String) : Program S Unit :=
  perform (.output (.errorLine text))

/-- Writes lines to the error stream one after the other. -/
def writeErrorLines : List String → Program S Unit
  | [] => done ()
  | line :: lines => act (.output (.errorLine line)) (writeErrorLines lines)

/-- Writes the prompt of the shell. -/
def writePrompt : Program S Unit :=
  look fun shell => write shell.config.prompt

end Program

end LineShell
