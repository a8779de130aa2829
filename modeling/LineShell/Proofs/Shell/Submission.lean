import LineShell.Proofs.Shell.Calm
import LineShell.Proofs.Shell.Reception

/-!
# Submitting lines on calm shells

Where the commands of an application have a grammar and what they run is plain, submitting a line
does to the view of a shell what is told by the view alone (`Shell.submitted`).
-/

namespace LineShell

variable {S : Signature}

/-! ### Plain applications -/

/-- What an application does is told by the view of the shell. Its commands have a grammar, and only
what a command or a handler runs may fail. -/
structure Application.IsPlain (app : Application S) (structured : S.Command → Structured S) :
    Prop where
  command_eq : ∀ c, app.command c = (structured c).toCommand
  accepts_view : ∀ c shell input,
    (structured c).accepts (Shell.view shell) input = (structured c).accepts shell input
  details_view : ∀ c shell input,
    (structured c).details (Shell.view shell) input = (structured c).details shell input
  suggest_view : ∀ c shell line,
    (structured c).suggest (Shell.view shell) line = (structured c).suggest shell line
  execute : ∀ c input t, ((structured c).execute input t).IsPlain
  execute_eq : ∀ c input t t', (structured c).execute input t = (structured c).execute input t'
  handle : ∀ h key t, (app.handle h key t).IsPlain
  handle_eq : ∀ h key t t', app.handle h key t = app.handle h key t'
  announce : app.announce.IsPlain
  announce_succeeds : app.announce.Succeeds

/-- A computation that hands its failure over as a value. -/
def Attempt.caught {σ : Type} (m : Attempt σ Unit) : Attempt σ (Except Failure Unit) := fun s =>
  match m s with
  | .ok () s => .ok (.ok ()) s
  | .error f s => .ok (.error f) s

/-! ### Submitting a line -/

namespace Shell

/-- The shell after a report on how a command ended. -/
def reported (shell : Shell S) : Except Failure Unit → Shell S
  | .ok () => shell
  | .error .cancelled => shell.display [.errorLine Run.commandCancelled]
  | .error f => shell.display [.errorLine (Run.errorReport f)]

/-- The shell after a program, with a report on how it ended. -/
def executed (shell : Shell S) (p : Program S Unit)
    (report : Shell S → Except Failure Unit → Shell S) : Shell S :=
  match p.outcome shell with
  | .ok () shell => report shell (.ok ())
  | .error f shell => report shell (.error f)

lemma exists_executed_eq (shell : Shell S) (p : Program S Unit)
    (report : Shell S → Except Failure Unit → Shell S) :
    ∃ outcome, shell.executed p report = report (p.final shell) outcome := by
  rw [executed, Program.final]
  cases p.outcome shell with
  | ok a shell => exact ⟨.ok (), rfl⟩
  | error f shell => exact ⟨.error f, rfl⟩

/-- What a program and the report on it keep. -/
lemma executed_of {I : Shell S → Prop} {p : Program S Unit}
    {report : Shell S → Except Failure Unit → Shell S} (hp : p.Keeps I)
    (hreport : ∀ shell outcome, I shell → I (report shell outcome)) {shell : Shell S}
    (h : I shell) : I (shell.executed p report) := by
  obtain ⟨outcome, heq⟩ := exists_executed_eq shell p report
  rw [heq]
  exact hreport _ outcome (hp.final h)

/-- The line is bound without issues if a command is run on it. -/
lemma bind_of_reception_eq_accepted {structured : S.Command → Structured S} {shell : Shell S}
    {line : Line} {c : S.Command} {input : Input}
    (h : shell.reception structured line = .accepted c input) :
    (structured c).grammar.bind line = .bound input [] := by
  rw [reception] at h
  split at h
  · cases h
  · rename_i c' input' hclaimant
    split_ifs at h
    obtain ⟨rfl, rfl⟩ := Reception.accepted.inj h
    obtain ⟨c'', -, hbind⟩ := List.exists_of_findSome?_eq_some hclaimant
    split at hbind
    · cases hbind
    · rename_i hbound
      obtain ⟨rfl, rfl, rfl⟩ := hbind
      exact hbound
  · cases h

/-- The shell after a line was offered to the commands. -/
def answered (structured : S.Command → Structured S) (line : Line) (shell : Shell S) : Shell S :=
  match shell.reception structured line with
  | .unclaimed => shell.display [.errorLine Run.noMatchingCommand]
  | .rejected c input issues => ((structured c).explain input issues).final shell
  | .declined _ _ => shell
  | .accepted c input => shell.executed ((structured c).execute input 0) reported

/-- The shell after readiness was signalled. -/
def announced (app : Application S) (shell : Shell S) : Shell S :=
  if shell.ready then shell else app.announce.final { shell with ready := true }

/-- The shell with the line on record and offered to the commands, unless it is blank. -/
def taken (structured : S.Command → Structured S) (shell : Shell S) : Shell S :=
  let text := shell.editor.text
  if Text.allBlank text then shell
  else answered structured (.parse text text.length)
    { shell with history := shell.history.add text }

/-- The shell with an empty line. -/
def emptied (shell : Shell S) : Shell S :=
  { shell with terminal := { shell.terminal with
      editor := { shell.editor with buffer := [], caret := 0 } } }

/-- What is put out to end a line. -/
def lineEnd : List Output :=
  [.text "", .text "\n"]

/-- The shell after a line was ended and readiness was signalled, unless that was done. -/
def concluded (app : Application S) (shell : Shell S) : Shell S :=
  if shell.ready then shell else (shell.display lineEnd).announced app

/-- The shell after the line was submitted. -/
def submitted (app : Application S) (structured : S.Command → Structured S) (shell : Shell S) :
    Shell S :=
  let ended := { shell with ready := false, completion := none }.display lineEnd
  ((ended.taken structured).concluded app).emptied

/-! ### What a submission keeps -/

/-- A property that is kept by whatever happens while a line is submitted, until the line is
emptied. Commands are run on what is bound to the line. -/
structure IsSubmissionInvariant (app : Application S) (structured : S.Command → Structured S)
    (I : Shell S → Prop) : Prop where
  text : ∀ {shell} text, I shell → I (shell.display [.text text])
  errorLine : ∀ {shell} text, I shell → I (shell.display [.errorLine text])
  begun : ∀ {shell}, I shell → I { shell with ready := false, completion := none }
  ready : ∀ {shell}, I shell → I { shell with ready := true }
  recorded : ∀ {shell}, I shell → I { shell with history := shell.history.add shell.editor.text }
  announce : app.announce.Keeps I
  execute : ∀ {shell c input caret}, I shell →
    (structured c).grammar.bind (.parse shell.editor.text caret) = .bound input [] →
      ((structured c).execute input 0).Keeps I

namespace IsSubmissionInvariant

variable {app : Application S} {structured : S.Command → Structured S} {I J : Shell S → Prop}
  {shell : Shell S}

lemma keeps_writeErrorLines (hI : IsSubmissionInvariant app structured I) (lines : List String) :
    (Program.writeErrorLines lines : Program S Unit).Keeps I := by
  induction lines with
  | nil => trivial
  | cons line lines ih => exact ⟨fun _ h => hI.errorLine line h, ih⟩

lemma keeps_explain (hI : IsSubmissionInvariant app structured I) (c : S.Command) (input : Input)
    (issues : List Issue) : ((structured c).explain input issues).Keeps I := by
  refine (hI.keeps_writeErrorLines _).bind fun _ shell _ => ?_
  simp only [Program.done_bind]
  split
  · exact ⟨fun _ h => hI.errorLine _ h, trivial⟩
  · trivial

lemma reported (hI : IsSubmissionInvariant app structured I) (outcome : Except Failure Unit)
    (h : I shell) : I (shell.reported outcome) := by
  match outcome with
  | .ok () => exact h
  | .error .cancelled => exact hI.errorLine _ h
  | .error (.system _) | .error (.malformed _) | .error (.command _) | .error (.other _) =>
    exact hI.errorLine _ h

lemma answered (hI : IsSubmissionInvariant app structured I) (caret : Nat) (h : I shell) :
    I (shell.answered structured (.parse shell.editor.text caret)) := by
  rw [Shell.answered]
  cases hreception : shell.reception structured (.parse shell.editor.text caret) with
  | unclaimed => exact hI.errorLine _ h
  | rejected c input issues => exact (hI.keeps_explain c input issues).final h
  | declined c input => exact h
  | accepted c input =>
    have hbind := bind_of_reception_eq_accepted hreception
    exact executed_of (hI.execute h hbind) (fun _ outcome h => hI.reported outcome h) h

lemma taken (hI : IsSubmissionInvariant app structured I) (h : I shell) :
    I (shell.taken structured) := by
  rw [Shell.taken]
  split_ifs
  · exact h
  · exact hI.answered _ (hI.recorded h)

lemma announced (hI : IsSubmissionInvariant app structured I) (h : I shell) :
    I (shell.announced app) := by
  rw [Shell.announced]
  split_ifs
  · exact h
  · exact hI.announce.final (hI.ready h)

lemma ended (hI : IsSubmissionInvariant app structured I) (h : I shell) :
    I (shell.display lineEnd) :=
  hI.text "\n" (hI.text "" h)

lemma concluded (hI : IsSubmissionInvariant app structured I) (h : I shell) :
    I (shell.concluded app) := by
  rw [Shell.concluded]
  split_ifs
  · exact h
  · exact hI.announced (hI.ended h)

/-- What is kept until the line is emptied, and what it comes to then. -/
lemma submitted (hI : IsSubmissionInvariant app structured I)
    (hemptied : ∀ {shell}, I shell → J shell.emptied) (h : I shell) :
    J (shell.submitted app structured) :=
  hemptied (hI.concluded (hI.taken (hI.ended (hI.begun h))))

end IsSubmissionInvariant

end Shell

namespace Run

variable {app : Application S} {structured : S.Command → Structured S} {engine : Engine S}
  {races : List Token} {t : Token} {line : Line}

lemma does_report (outcome : Except Failure Unit) :
    Does (report outcome : Run S Unit) (modify (·.reported outcome)) := by
  match outcome with
  | .ok () => exact does_id
  | .error .cancelled => exact does_output _
  | .error (.system e) | .error (.malformed _) | .error (.command _) | .error (.other _) =>
    exact does_output _

lemma does_writeLine : Does (writeLine "" : Run S Unit) (modify (·.display Shell.lineEnd)) := by
  exact (does_output (.text "")).andThen (does_output (.text "\n"))

/-- A run that hands the failures of another one over as values. -/
lemma Does.caught {r : Run S Unit} {m : Attempt (Shell S) Unit} (h : Does r m)
    {r' : Run S (Except Failure Unit)}
    (hok : ∀ shell shell', shell.Calm → r shell = .ok () shell' → r' shell = .ok (.ok ()) shell')
    (herror : ∀ shell f shell', shell.Calm → r shell = .error (.failure f) shell' →
      r' shell = .ok (.error f) shell') : Does r' m.caught := by
  intro shell hcalm
  have hend := h shell hcalm
  rw [Attempt.caught]
  generalize m shell.view = x at hend ⊢
  generalize hresult : r shell = y at hend
  cases hend with
  | ok a hcalm' hqueue =>
    rw [hok shell _ hcalm hresult]
    exact EndsAs.ok (Except.ok a) hcalm' hqueue
  | error f hcalm' hqueue =>
    rw [herror shell f _ hcalm hresult]
    exact EndsAs.ok (Except.error f) hcalm' hqueue

/-- A race is won by what comes to its end. -/
lemma race_of_ok {body : List Token → Run S Unit} {shell shell' : Shell S}
    (hcancelled : shell.isCancelled t = false) (h : body (races ++ [t]) shell = .ok () shell') :
    race races t body shell = .ok (.ok ()) shell' := by
  rw [race, if_neg (Bool.eq_false_iff.mp hcancelled), h]

/-- A failure ends the race. -/
lemma race_of_failure {body : List Token → Run S Unit} {shell shell' : Shell S} {f : Failure}
    (hcancelled : shell.isCancelled t = false)
    (h : body (races ++ [t]) shell = .error (.failure f) shell') :
    race races t body shell = .ok (.error f) shell' := by
  rw [race, if_neg (Bool.eq_false_iff.mp hcancelled), h]

/-- A race against a token that nobody cancels. -/
lemma does_race {body : List Token → Run S Unit} {m : Attempt (Shell S) Unit}
    (h : ∀ races, Does (body races) m) (races : List Token) (t : Token) :
    Does (race races t body) m.caught :=
  (h (races ++ [t])).caught (fun _ _ hcalm => race_of_ok (hcalm.isCancelled t))
    fun _ _ _ hcalm => race_of_failure (hcalm.isCancelled t)

/-- What is done to the break scope does not show. -/
lemma does_setBreaks {f : BreakScope → BreakScope}
    (hf : ∀ b, b.tokens.Quiet → (f b).tokens.Quiet) :
    Does (modify fun shell : Shell S => { shell with breaks := f shell.breaks }) (modify id) := by
  apply does_modify
  · intro shell
    rfl
  · intro shell h
    exact ⟨h.refusals, hf _ h.quiet⟩
  · intro shell
    rfl

lemma caught_bind_report (p : Program S Unit)
    (report : Shell S → Except Failure Unit → Shell S) :
    (do
      let outcome ← p.outcome.caught
      modify (report · outcome) : Attempt (Shell S) Unit) = modify (·.executed p report) := by
  funext shell
  show EStateM.bind p.outcome.caught _ shell = .ok () (shell.executed p report)
  rw [EStateM.bind, Attempt.caught, Shell.executed]
  cases p.outcome shell with
  | ok a shell => rfl
  | error f shell => rfl

/-- A command is run under a token of its own, which does not show. -/
lemma does_executeCommand {command : Command S} {p : Program S Unit}
    (hp : ∀ t, command.execute line t = p) (hplain : p.IsPlain) (engine : Engine S)
    (races : List Token) (t : Token) :
    Does (executeCommand engine races t command line) (modify (·.executed p .reported)) := by
  intro shell hcalm
  let child := (shell.breaks.tokens.derive t).1
  have hbody : ∀ races, Does (program engine races (command.execute line child)) p.outcome := by
    intro races
    rw [hp]
    exact does_program engine races hplain
  -- the token is derived before and released after a race that it cannot win, as nobody cancels it
  have hrest : Does (do
      let outcome ← race races child fun races =>
        program engine races (command.execute line child)
      modify fun shell =>
        { shell with breaks := { shell.breaks with tokens := shell.breaks.tokens.release child } }
      report outcome) (modify (·.executed p .reported)) := by
    rw [← caught_bind_report]
    exact (does_race hbody races child).bind fun outcome =>
      (does_setBreaks (f := fun b => { b with tokens := b.tokens.release child })
        fun b h => h.release child).bind fun _ => does_report outcome
  exact ((does_setBreaks (f := fun b => { b with tokens := (b.tokens.derive t).2 })
    fun b h => h.derive t).andThen hrest) shell hcalm

lemma isPlain_explain (happ : app.IsPlain structured) (c : S.Command) (input : Input)
    (issues : List Issue) : ((structured c).explain input issues).IsPlain := by
  refine (Program.isPlain_writeErrorLines _).bind fun _ => ⟨fun shell => ?_, fun shell => ?_⟩
  · simp only [Program.done_bind, happ.details_view]
  · simp only [Program.done_bind]
    split
    · exact Program.isPlain_perform rfl
    · trivial

lemma succeeds_explain (c : Structured S) (input : Input) (issues : List Issue) :
    (c.explain input issues).Succeeds := by
  refine (Program.succeeds_writeErrorLines _).bind fun _ shell => ?_
  simp only [Program.done_bind]
  split <;> trivial

lemma reception_view (happ : app.IsPlain structured) (shell : Shell S) (line : Line) :
    shell.view.reception structured line = shell.reception structured line := by
  rw [Shell.reception, Shell.reception, show shell.view.commands = shell.commands from rfl]
  split
  · rfl
  · rw [happ.accepts_view]
  · rfl

/-- Offering a line to the commands. -/
lemma does_dispatch (happ : app.IsPlain structured) (engine : Engine S) (races : List Token)
    (t : Token) (line : Line) :
    Does (do dispatch app engine races t line (← get).commands)
      (modify (Shell.answered structured line)) := by
  intro shell hcalm
  show EndsAs shell.console.queue (.ok () (shell.view.answered structured line))
    (dispatch app engine races t line shell.commands shell)
  rw [dispatch_eq_run_reception (fun c _ => happ.command_eq c) shell rfl, Shell.answered,
    reception_view happ]
  cases shell.reception structured line with
  | unclaimed => exact does_output _ shell hcalm
  | rejected c input issues =>
    exact does_program_of_succeeds engine races (isPlain_explain happ c input issues)
      (succeeds_explain (structured c) input issues) shell hcalm
  | declined c input => exact does_id shell hcalm
  | accepted c input =>
    exact does_executeCommand (fun t => happ.execute_eq c input t 0) (happ.execute c input 0) engine
      races t shell hcalm

/-! ### The line -/

/-- Puts the line on record and offers it to the commands, unless it is blank. -/
def takeLine (app : Application S) (engine : Engine S) (races : List Token) (t : Token) :
    Run S Unit := do
  let text := (← get).editor.text
  if Text.allBlank text then return
  modify fun shell => { shell with history := shell.history.add text }
  dispatch app engine races t (Line.parse text text.length) (← get).commands

/-- Ends a line and signals readiness, unless that was done. -/
def concludeLine (app : Application S) (engine : Engine S) (races : List Token) : Run S Unit := do
  if (← get).ready then return
  writeLine ""
  signalReady app engine races

/-- Submitting a line, part by part. -/
lemma submit_eq (app : Application S) (engine : Engine S) (races : List Token) (t : Token) :
    submit app engine races t = (do
      modify fun shell => { shell with ready := false, completion := none }
      writeLine ""
      takeLine app engine races t
      concludeLine app engine races
      onTerminal Terminal.resetInput) := by
  have hconclude : (do
      concludeLine app engine races
      onTerminal Terminal.resetInput) = (do
      if !(← get).ready then
        writeLine ""
        signalReady app engine races
      onTerminal Terminal.resetInput : Run S Unit) := by
    simp only [concludeLine, bind_assoc]
    congr 1
    funext shell
    cases shell.ready <;> simp
  have htake : ∀ r : Run S Unit, (do
      takeLine app engine races t
      r) = (do
      let text := (← get).editor.text
      if !Text.allBlank text then
        modify fun shell => { shell with history := shell.history.add text }
        dispatch app engine races t (Line.parse text text.length) (← get).commands
      r) := by
    intro r
    simp only [takeLine, bind_assoc]
    congr 1
    funext shell
    cases Text.allBlank shell.editor.text <;> simp
  rw [hconclude, htake]
  rfl

lemma does_takeLine (happ : app.IsPlain structured) (engine : Engine S) (races : List Token)
    (t : Token) : Does (takeLine app engine races t) (modify (Shell.taken structured)) := by
  intro shell hcalm
  have hrun : takeLine app engine races t shell = (if Text.allBlank shell.editor.text then pure ()
      else do
        modify fun shell' => { shell' with history := shell'.history.add shell.editor.text }
        dispatch app engine races t (Line.parse shell.editor.text shell.editor.text.length)
          (← get).commands : Run S Unit) shell := rfl
  rw [hrun]
  by_cases hblank : Text.allBlank shell.editor.text
  · have htaken : shell.view.taken structured = shell.view := if_pos hblank
    show EndsAs _ (.ok () (shell.view.taken structured)) _
    rw [if_pos hblank, htaken]
    exact .ok () hcalm rfl
  · have htaken : shell.view.taken structured = Shell.answered structured
        (Line.parse shell.editor.text shell.editor.text.length)
        { shell.view with history := shell.history.add shell.editor.text } := if_neg hblank
    show EndsAs _ (.ok () (shell.view.taken structured)) _
    rw [if_neg hblank, htaken]
    have hrecord := does_modify_of_terminal_eq
      (fun shell' : Shell S => { shell' with history := shell'.history.add shell.editor.text })
      (fun _ => rfl) (fun _ => rfl) fun _ => rfl
    exact hrecord.andThen (does_dispatch happ engine races t _) shell hcalm

/-- What is done unless readiness was signalled. -/
lemma does_unless_ready {r : Run S Unit} {f : Shell S → Shell S} (h : Does r (modify f)) :
    Does (do
      if (← get).ready then return
      r) (modify fun shell => if shell.ready then shell else f shell) := by
  intro shell hcalm
  show EndsAs _ (.ok () (if shell.ready then shell.view else f shell.view))
    ((if shell.ready then pure () else r : Run S Unit) shell)
  cases shell.ready with
  | true => exact .ok () hcalm rfl
  | false => exact h shell hcalm

lemma does_signalReady (happ : app.IsPlain structured) (engine : Engine S) (races : List Token) :
    Does (signalReady app engine races) (modify (Shell.announced app)) := by
  have hready := does_modify_of_terminal_eq (fun shell : Shell S => { shell with ready := true })
    (fun _ => rfl) (fun _ => rfl) fun _ => rfl
  exact does_unless_ready (hready.andThen
    (does_program_of_succeeds engine races happ.announce happ.announce_succeeds))

lemma does_concludeLine (happ : app.IsPlain structured) (engine : Engine S)
    (races : List Token) :
    Does (concludeLine app engine races) (modify (Shell.concluded app)) :=
  does_unless_ready (does_writeLine.andThen (does_signalReady happ engine races))

lemma does_resetInput :
    Does (onTerminal Terminal.resetInput : Run S Unit) (modify Shell.emptied) := by
  have hmodify : (onTerminal Terminal.resetInput : Run S Unit) = modify Shell.emptied := rfl
  rw [hmodify]
  apply does_modify
  · intro shell
    rfl
  · intro shell hcalm
    exact ⟨hcalm.refusals, hcalm.quiet⟩
  · intro shell
    rfl

/-- Submitting a line. -/
theorem does_submit (happ : app.IsPlain structured) (engine : Engine S) (races : List Token)
    (t : Token) :
    Does (submit app engine races t) (modify (Shell.submitted app structured)) := by
  have hforget := does_modify_of_terminal_eq
    (fun shell : Shell S => { shell with ready := false, completion := none })
    (fun _ => rfl) (fun _ => rfl) fun _ => rfl
  rw [submit_eq]
  exact hforget.andThen (does_writeLine.andThen ((does_takeLine happ engine races t).andThen
    ((does_concludeLine happ engine races).andThen does_resetInput)))

end Run

end LineShell
