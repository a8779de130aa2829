import LineShell.Proofs.Shell.Submission

/-!
# Submitting lines with a log

While a line is submitted, a log is kept of what the shell does on its part: it records the line,
asks commands, runs one of them, reports on its end and announces readiness (`Entry`). The logged
run does what the run does, entry for entry (`Logged.erases_submit`).
-/

namespace LineShell

variable {S : Signature} {α β : Type}

/-- What the shell does while a line is submitted. -/
inductive Entry (S : Signature)
  /-- The line goes on record. -/
  | recorded (line : String)
  /-- A command was asked whether the line is for it. Given are its answer, and whether the token
  was cancelled by then. -/
  | asked (c : S.Command) (answer : Answer) (cancelled : Bool)
  /-- A command is run. -/
  | executed (c : S.Command)
  /-- The command that took the line has ended, or was not run at all. -/
  | ended (outcome : Except Failure Unit)
  /-- A line for the error stream. -/
  | reported (text : String)
  /-- What is done when the shell is ready. -/
  | announced

/-- A run with a log. -/
abbrev Logged (S : Signature) (α : Type) :=
  EStateM Halt (Shell S × List (Entry S)) α

namespace Logged

/-- A run that nothing is logged of. -/
def lift (r : Run S α) : Logged S α := fun (shell, log) =>
  match r shell with
  | .ok a shell => .ok a (shell, log)
  | .error halt shell => .error halt (shell, log)

/-- Makes an entry. -/
def note (entry : Entry S) : Logged S Unit :=
  modify fun (shell, log) => (shell, log ++ [entry])

/-- The shell as it is. -/
def shell : Logged S (Shell S) :=
  lift get

/-! ### Programs -/

/-- Carries an effect out, where `signal` signals readiness. -/
def effect (signal : List Token → Logged S Unit) (engine : Engine S) (races : List Token) :
    Effect S → Logged S Unit
  | .signalReady => signal races
  | e => lift (Run.effect engine races e)

/-- Runs a program. -/
def program (signal : List Token → Logged S Unit) (engine : Engine S) (races : List Token) :
    Program S α → Logged S α
  | .done a => return a
  | .fail f => lift (Run.fail f)
  | .look next => do program signal engine races (next (← shell))
  | .act e next => do
    effect signal engine races e
    program signal engine races next

/-- Runs something against a token. -/
def race (races : List Token) (t : Token) (body : List Token → Logged S Unit) :
    Logged S (Except Failure Unit) := fun (shell, log) =>
  if shell.isCancelled t then .ok (.error .cancelled) (shell, log)
  else match body (races ++ [t]) (shell, log) with
    | .ok () state => .ok (.ok ()) state
    | .error (.failure f) state => .ok (.error f) state
    | .error (.aborted u) state =>
      if u = t then .ok (.error .cancelled) state else .error (.aborted u) state
    | .error .stuck state => .error .stuck state

/-- Signals readiness, where `signal` does so for programs. -/
def signalReady (app : Application S) (signal : List Token → Logged S Unit) (engine : Engine S)
    (races : List Token) : Logged S Unit := do
  if (← shell).ready then return
  lift (modify fun shell => { shell with ready := true })
  note .announced
  program signal engine races app.announce

/-- Signals readiness with an engine of so many levels. -/
def signalAt (app : Application S) : Nat → List Token → Logged S Unit
  | 0, races => lift ((Engine.ofLevels app 0).signalReady races)
  | n + 1, races => signalReady app (signalAt app n) (.ofLevels app n) races

/-! ### Submitting a line -/

/-- Adds a line to the error stream. -/
def errorLine (text : String) : Logged S Unit := do
  note (.reported text)
  lift (Run.output (.errorLine text))

/-- Says how a command ended, unless it ended well. -/
def report : Except Failure Unit → Logged S Unit
  | .ok () => return
  | .error .cancelled => errorLine Run.commandCancelled
  | .error f => errorLine (Run.errorReport f)

/-- Runs a command on a line against its token. -/
def runCommand (app : Application S) (signal : List Token → Logged S Unit) (engine : Engine S)
    (races : List Token) (c : S.Command) (line : Line) (child : Token) :
    Logged S (Except Failure Unit) :=
  race races child fun races => do
    note (.executed c)
    program signal engine races ((app.command c).execute line child)

/-- Drops the token of a command and says how the command ended. -/
def endCommand (child : Token) (outcome : Except Failure Unit) : Logged S Unit := do
  note (.ended outcome)
  lift (modify fun shell =>
    { shell with breaks := { shell.breaks with tokens := shell.breaks.tokens.release child } })
  report outcome

/-- Runs a command on a line under a token derived from the given one. -/
def executeCommand (app : Application S) (signal : List Token → Logged S Unit) (engine : Engine S)
    (races : List Token) (t : Token) (c : S.Command) (line : Line) : Logged S Unit := do
  let (child, tokens) := (← shell).breaks.tokens.derive t
  lift (modify fun shell => { shell with breaks := { shell.breaks with tokens } })
  endCommand child (← runCommand app signal engine races c line child)

/-- Offers a line to commands, one after the other, until one of them takes it. -/
def dispatch (app : Application S) (signal : List Token → Logged S Unit) (engine : Engine S)
    (races : List Token) (t : Token) (line : Line) : List S.Command → Logged S Unit
  | [] => errorLine Run.noMatchingCommand
  | c :: commands => do
    let answer ← program signal engine races ((app.command c).canHandle line)
    note (.asked c answer ((← shell).isCancelled t))
    match answer with
    | .notMine => dispatch app signal engine races t line commands
    | .invalid => return
    | .valid => executeCommand app signal engine races t c line

/-- Puts the line on record and offers it to the commands, unless it is blank. -/
def takeLine (app : Application S) (signal : List Token → Logged S Unit) (engine : Engine S)
    (races : List Token) (t : Token) : Logged S Unit := do
  let text := (← shell).editor.text
  if Text.allBlank text then return
  lift (modify fun shell => { shell with history := shell.history.add text })
  note (.recorded text)
  dispatch app signal engine races t (Line.parse text text.length) (← shell).commands

/-- Ends a line and signals readiness, unless that was done. -/
def concludeLine (app : Application S) (signal : List Token → Logged S Unit) (engine : Engine S)
    (races : List Token) : Logged S Unit := do
  if (← shell).ready then return
  lift (Run.writeLine "")
  signalReady app signal engine races

/-- Has a line taken and concluded, and forgets it. -/
def cycle (app : Application S) (signal : List Token → Logged S Unit) (engine : Engine S)
    (races : List Token) (t : Token) : Logged S Unit := do
  takeLine app signal engine races t
  concludeLine app signal engine races
  lift (Run.onTerminal Terminal.resetInput)

/-- Submits the line being edited, with an engine of so many levels. -/
def submit (app : Application S) (n : Nat) (races : List Token) (t : Token) : Logged S Unit := do
  lift (modify fun shell => { shell with ready := false, completion := none })
  lift (Run.writeLine "")
  cycle app (signalAt app n) (.ofLevels app n) races t

/-! ### Without the log -/

/-- A result without the log. -/
def forget : EStateM.Result Halt (Shell S × List (Entry S)) α → EStateM.Result Halt (Shell S) α
  | .ok a (shell, _) => .ok a shell
  | .error halt (shell, _) => .error halt shell

/-- Without its log, the one run is the other one. -/
def Erases (l : Logged S α) (r : Run S α) : Prop :=
  ∀ shell log, forget (l (shell, log)) = r shell

lemma erases_lift (r : Run S α) : Erases (lift r) r := by
  intro shell log
  rw [lift]
  cases r shell <;> rfl

lemma erases_pure (a : α) : Erases (pure a : Logged S α) (pure a) :=
  fun _ _ => rfl

lemma Erases.bind {l : Logged S α} {r : Run S α} {k : α → Logged S β} {f : α → Run S β}
    (h : Erases l r) (hk : ∀ a, Erases (k a) (f a)) : Erases (l >>= k) (r >>= f) := by
  intro shell log
  have hfirst := h shell log
  show forget (EStateM.bind l k (shell, log)) = EStateM.bind r f shell
  rw [EStateM.bind, EStateM.bind, ← hfirst]
  cases l (shell, log) with
  | ok a state => exact hk a state.1 state.2
  | error halt state => rfl

/-- An entry before a run. -/
lemma Erases.note_bind {l : Logged S α} {r : Run S α} (h : Erases l r) (entry : Entry S) :
    Erases (note entry >>= fun _ => l) r :=
  fun shell log => h shell (log ++ [entry])

lemma erases_shell_bind {k : Shell S → Logged S α} {f : Shell S → Run S α}
    (h : ∀ shell, Erases (k shell) (f shell)) : Erases (shell >>= k) (get >>= f) :=
  (erases_lift get).bind h

lemma Erases.ite {c : Prop} [Decidable c] {l l' : Logged S α} {r r' : Run S α} (h : Erases l r)
    (h' : Erases l' r') : Erases (if c then l else l') (if c then r else r') := by
  split_ifs
  · exact h
  · exact h'

lemma effect_of_ne {e : Effect S} (h : e ≠ .signalReady) (signal : List Token → Logged S Unit)
    (engine : Engine S) (races : List Token) :
    effect signal engine races e = lift (Run.effect engine races e) := by
  cases e <;> first | exact absurd rfl h | rfl

lemma erases_effect {signal : List Token → Logged S Unit} {engine : Engine S}
    (hsignal : ∀ races, Erases (signal races) (engine.signalReady races)) (races : List Token)
    (e : Effect S) : Erases (effect signal engine races e) (Run.effect engine races e) := by
  by_cases he : e = .signalReady
  · rw [he]
    exact hsignal races
  · rw [effect_of_ne he]
    exact erases_lift _

lemma erases_program {signal : List Token → Logged S Unit} {engine : Engine S}
    (hsignal : ∀ races, Erases (signal races) (engine.signalReady races)) (races : List Token)
    (p : Program S α) : Erases (program signal engine races p) (Run.program engine races p) := by
  induction p with
  | done a => exact erases_pure a
  | fail f => exact erases_lift _
  | look next ih => exact erases_shell_bind ih
  | act e next ih => exact (erases_effect hsignal races e).bind fun _ => ih

lemma erases_signalReady (app : Application S) {signal : List Token → Logged S Unit}
    {engine : Engine S} (hsignal : ∀ races, Erases (signal races) (engine.signalReady races))
    (races : List Token) :
    Erases (signalReady app signal engine races) (Run.signalReady app engine races) := by
  refine erases_shell_bind fun shell => Erases.ite (erases_pure ()) ?_
  exact (erases_lift _).bind fun _ => (erases_program hsignal races app.announce).note_bind _

lemma erases_signalAt (app : Application S) (n : Nat) (races : List Token) :
    Erases (signalAt app n races) ((Engine.ofLevels app n).signalReady races) := by
  induction n generalizing races with
  | zero => exact erases_lift _
  | succ n ih => exact erases_signalReady app ih races

lemma erases_race {body : List Token → Logged S Unit} {body' : List Token → Run S Unit}
    (h : ∀ races, Erases (body races) (body' races)) (races : List Token) (t : Token) :
    Erases (race races t body) (Run.race races t body') := by
  intro shell log
  rw [race, Run.race, ← h (races ++ [t]) shell log]
  split_ifs
  · rfl
  · cases body (races ++ [t]) (shell, log) with
    | ok a state => rfl
    | error halt state =>
      cases halt with
      | failure f => rfl
      | aborted u =>
        simp only [forget]
        split_ifs <;> rfl
      | stuck => rfl

lemma erases_errorLine (text : String) :
    Erases (errorLine text : Logged S Unit) (Run.output (.errorLine text)) :=
  (erases_lift _).note_bind _

lemma erases_report (outcome : Except Failure Unit) :
    Erases (report outcome : Logged S Unit) (Run.report outcome) := by
  match outcome with
  | .ok () => exact erases_pure ()
  | .error .cancelled => exact erases_errorLine _
  | .error (.system _) | .error (.malformed _) | .error (.command _) | .error (.other _) =>
    exact erases_errorLine _

section

variable (app : Application S) {signal : List Token → Logged S Unit} {engine : Engine S}
  (hsignal : ∀ races, Erases (signal races) (engine.signalReady races)) (races : List Token)
  (t : Token)

include hsignal

lemma erases_executeCommand (c : S.Command) (line : Line) :
    Erases (executeCommand app signal engine races t c line)
      (Run.executeCommand engine races t (app.command c) line) := by
  refine erases_shell_bind fun shell => (erases_lift _).bind fun _ => ?_
  refine (erases_race (fun races => ?_) _ _).bind fun outcome => ?_
  · exact (erases_program hsignal races _).note_bind _
  · exact ((erases_lift _).bind fun _ => erases_report outcome).note_bind _

lemma erases_dispatch (line : Line) (commands : List S.Command) :
    Erases (dispatch app signal engine races t line commands)
      (Run.dispatch app engine races t line commands) := by
  induction commands with
  | nil => exact erases_errorLine _
  | cons c commands ih =>
    refine (erases_program hsignal races _).bind fun answer => ?_
    cases answer with
    | notMine => exact fun shell log => ih shell _
    | invalid => exact fun shell log => rfl
    | valid => exact fun shell log => erases_executeCommand app hsignal races t c line shell _

lemma erases_takeLine :
    Erases (takeLine app signal engine races t) (Run.takeLine app engine races t) := by
  refine erases_shell_bind fun shell => Erases.ite (erases_pure ()) ?_
  refine (erases_lift _).bind fun _ => Erases.note_bind ?_ _
  exact erases_shell_bind fun shell => erases_dispatch app hsignal races t _ _

lemma erases_concludeLine :
    Erases (concludeLine app signal engine races) (Run.concludeLine app engine races) := by
  refine erases_shell_bind fun shell => Erases.ite (erases_pure ()) ?_
  exact (erases_lift _).bind fun _ => erases_signalReady app hsignal races

end

/-- Without the log it is what submitting the line comes to. -/
theorem erases_submit (app : Application S) (n : Nat) (races : List Token) (t : Token) :
    Erases (submit app n races t) (Run.submit app (.ofLevels app n) races t) := by
  have hsignal := erases_signalAt app n
  rw [Run.submit_eq]
  exact (erases_lift _).bind fun _ => (erases_lift _).bind fun _ =>
    (erases_takeLine app hsignal races t).bind fun _ =>
      (erases_concludeLine app hsignal races).bind fun _ => erases_lift _

end Logged

end LineShell
