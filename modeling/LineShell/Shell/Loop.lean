import LineShell.Shell.Run

/-!
# The key loop

Keys are read one at a time, each in a break scope of its own. A bound key runs its binding in a
fresh scope. Characters of unbound keys are put by and typed into the line all at once, as soon as
no key is waiting or something else has to be done first: then a pasted text is drawn once.

The loop ends when the shell was asked to stop or nothing more comes in. `run` also signals
readiness before it and sees to the mode of the terminal around it.
-/

namespace LineShell.Run

variable {S : Signature}

/-! ### Break scopes -/

/-- Opens a break scope. -/
def openScope : Run S Token := fun shell =>
  let (t, breaks) := shell.breaks.start
  .ok t { shell with breaks }

/-- Closes the break scope of a token. -/
def closeScope (t : Token) : Run S Unit :=
  modify fun shell => { shell with breaks := shell.breaks.close t }

/-- What is said when a key fails to do its work; a cancelled one says nothing. -/
def reportKey : Except Failure Unit → Run S Unit
  | .error .cancelled => return
  | .error f => output (.errorLine (errorReport f))
  | .ok () => return

/-- Does something in a break scope of its own and reports a failure. -/
def inScope (body : Token → Run S Unit) : Run S Unit := do
  let t ← openScope
  let outcome : Except Failure Unit ← fun shell =>
    match body t shell with
    | .ok () shell => .ok (.ok ()) shell
    | .error (.failure f) shell => .ok (.error f) shell
    | .error halt shell => .error halt shell
  closeScope t
  reportKey outcome

/-! ### Reading keys -/

/-- What reading a key leads to. -/
inductive KeyRead
  /-- A key was pressed. -/
  | key (key : Key)
  /-- The break key was pressed. -/
  | broken
  /-- Nothing more comes in. -/
  | exhausted

/-- Takes the next event out of the queue. -/
def nextEvent : Run S (Option Event) := fun shell =>
  match shell.console.queue with
  | [] => .ok none shell
  | e :: rest => .ok (some e) (shell.withConsole { shell.console with queue := rest })

/-- Reads a key in a break scope of its own. -/
def readKey : Run S KeyRead := do
  let t ← openScope
  match ← nextEvent with
  | none => do
    closeScope t
    return .exhausted
  | some (.key key) => do
    closeScope t
    return .key key
  | some .breakKey => do
    modify fun shell => shell.pressBreak.2
    let broken := (← get).isCancelled t
    closeScope t
    return if broken then .broken else .exhausted
  | some (.fault reason) => do
    closeScope t
    fail (.system (.device reason))

/-! ### Actions -/

/-- Walks around the ring of candidates for completion. -/
def complete (app : Application S) (d : Direction) : Run S Unit := do
  let c := (← get).nextCompletion app d
  modify fun shell => { shell with completion := c }
  match c with
  | none => return
  | some c => do
    setInput (.ofList c.line)
    onTerminal (Terminal.setCaret c.caret)

/-- Does an edit action under a token. -/
def action (app : Application S) (engine : Engine S) (t : Token) : EditAction → Run S Unit
  | .moveLeft => onTerminal Terminal.moveLeft
  | .moveRight => onTerminal Terminal.moveRight
  | .moveToStart => onTerminal Terminal.moveToStart
  | .moveToEnd => onTerminal Terminal.moveToEnd
  | .moveWordBack => onTerminal Terminal.moveWordBack
  | .moveWordForward => onTerminal Terminal.moveWordForward
  | .previousHistory => do
    let (entry, history) := (← get).history.previous
    modify fun shell => { shell with history }
    match entry with
    | some text => setInput text
    | none => return
  | .nextHistory => do
    let (entry, history) := (← get).history.next
    modify fun shell => { shell with history }
    setInput (entry.getD "")
  | .nextSuggestion => complete app .forward
  | .previousSuggestion => complete app .backward
  | .clearLine => setInput ""
  | .removePrevious => onTerminal Terminal.removePrevious
  | .removeCurrent => onTerminal Terminal.removeCurrent
  | .toggleOverwrite => onTerminal Terminal.toggleOverwrite
  | .execute => engine.submit [] t
  | .breakLine => setInput ""

/-- Does what a key is bound to under a token. -/
def binding (app : Application S) (engine : Engine S) (key : Key) (t : Token) :
    KeyBinding S.Handler → Run S Unit
  | .action a => action app engine t a
  | .handler h => program engine [] (app.handle h key t)

/-- What a key is bound to. In raw mode the chords of raw mode come after the key table. -/
def bindingOf (shell : Shell S) (rawMode : Bool) (key : Key) : Option (KeyBinding S.Handler) :=
  match shell.keys.find? key with
  | some b => some b
  | none => if rawMode then (rawModeChord? key).map .action else none

/-! ### The loop -/

/-- Types the characters that were put by, the latest first. -/
def flush (typed : List Char) : Run S Unit :=
  onTerminal (Terminal.insert typed.reverse)

/-- Reads and handles keys, at most so many, with some characters put by, the latest first. -/
def loop (app : Application S) (engine : Engine S) (rawMode : Bool) : Nat → List Char → Run S Unit
  | 0, typed => flush typed
  | n + 1, typed => do
    if (← get).exitRequested then
      flush typed
    else match ← readKey with
      | .exhausted => flush typed
      | .broken => do
        flush typed
        setInput ""
        loop app engine rawMode n []
      | .key key => do
        match bindingOf (← get) rawMode key with
        | some b => do
          flush typed
          inScope fun t => binding app engine key t b
          loop app engine rawMode n []
        | none => do
          let typed := key.character?.toList ++ typed
          if (← get).console.isKeyAvailable then
            loop app engine rawMode n typed
          else do
            flush typed
            loop app engine rawMode n []

/-- Reads and handles the keys that have come in. Every round but the last one takes an event out
of the queue. -/
def keys (app : Application S) (rawMode : Bool) : Run S Unit := do
  loop app (.standard app) rawMode ((← get).console.queue.length + 1) []

/-! ### Without the loop -/

/-- A token that nothing but its holders cancels. -/
def freshToken (cancelled : Bool) : Run S Token := do
  let (t, tokens) := (← get).breaks.tokens.create none
  let tokens := if cancelled then tokens.cancel t else tokens
  modify fun shell => { shell with breaks := { shell.breaks with tokens } }
  return t

/-- Replaces the line being edited and submits it under a fresh token, without a key press and
without a break scope. -/
def enter (app : Application S) (text : String) (cancelled : Bool) : Run S Unit := do
  let t ← freshToken cancelled
  setInput text
  submit app (.standard app) [] t

/-! ### The whole run -/

/-- Calls the program that keeps the mode of the terminal. -/
def onModeProgram {α : Type} (f : ModeProgram → α × ModeProgram) : Run S α := fun shell =>
  let (a, modeProgram) := f shell.modeProgram
  .ok a { shell with modeProgram }

/-- Signals readiness, then reads and handles keys until the shell is asked to stop or nothing more
comes in. -/
def all (app : Application S) : Run S Unit := do
  signalReady app (.standard app) []
  let saved ← if (← get).config.rawMode then onModeProgram (·.acquire) else pure none
  let restore : Run S Unit := onModeProgram fun p => ((), p.restore saved)
  fun shell =>
    match keys app saved.isSome shell with
    | .ok () shell => restore shell
    | .error halt shell =>
      match restore shell with
      | .ok () shell => .error halt shell
      | .error _ shell => .error halt shell

end LineShell.Run
