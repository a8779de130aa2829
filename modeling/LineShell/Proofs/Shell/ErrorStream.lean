import LineShell.Proofs.Shell.Cycle

/-!
# State and error stream

What a line does to the state of an application, and what is written to the error stream about it,
can be told on any console and with any tokens: a run ends in some shell or fails in another one
(`Finishes`), and it fails only where a program does or the console refuses something. Programs that
neither set the state nor write to the error stream leave both as they are (`finishes_program`), and
to run a command adds at most one line, if the command fails or is cancelled
(`finishes_executeCommand`).
-/

namespace LineShell

variable {S : Signature} {α β : Type}

/-! ### How runs finish -/

/-- A run comes to its end, or it fails. The shell has one property then or another one. -/
inductive Finishes (I J : Shell S → Prop) : EStateM.Result Halt (Shell S) α → Prop
  | ok (a : α) {shell : Shell S} (h : I shell) : Finishes I J (.ok a shell)
  | failure (f : Failure) {shell : Shell S} (h : J shell) :
    Finishes I J (.error (.failure f) shell)

section Finishes

variable {I I' J J' : Shell S → Prop} {shell : Shell S}

lemma Finishes.imp {x : EStateM.Result Halt (Shell S) α} (h : Finishes I J x)
    (hI : ∀ shell, I shell → I' shell) (hJ : ∀ shell, J shell → J' shell) : Finishes I' J' x := by
  cases h with
  | ok a h => exact .ok a (hI _ h)
  | failure f h => exact .failure f (hJ _ h)

lemma Finishes.bind {r : Run S α} {k : α → Run S β} (h : Finishes I J (r shell))
    (hk : ∀ a shell, I shell → Finishes I' J (k a shell)) : Finishes I' J ((r >>= k) shell) := by
  show Finishes I' J (EStateM.bind r k shell)
  rw [EStateM.bind]
  generalize r shell = x at h
  cases h with
  | ok a h => exact hk a _ h
  | failure f h => exact .failure f h

end Finishes

/-! ### What is told about a shell -/

/-- The state and the error stream are as given, and the console refuses nothing if it works. -/
structure Shell.Stands (state : S.State) (errors : List String) (works : Prop) (shell : Shell S) :
    Prop where
  state_eq : shell.state = state
  errors_eq : shell.console.errors = errors
  refusals : works → shell.console.refusals = []

/-- State and error stream are as they may be. -/
def Shell.Told (I : S.State → List String → Prop) (works : Prop) (shell : Shell S) : Prop :=
  ∃ state errors, I state errors ∧ shell.Stands state errors works

/-- State and error stream are as given, but the console does not work. -/
def Shell.Refused (state : S.State) (errors : List String) (works : Prop) (shell : Shell S) :
    Prop :=
  shell.Stands state errors works ∧ ¬ works

/-- The console does not work, and before that was seen lines may have been written to the error
stream. -/
def Shell.BrokeOff (state : S.State) (errors : List String) (works : Prop) (shell : Shell S) :
    Prop :=
  ∃ written, shell.Refused state (errors ++ written) works

/-- The shell with other tokens. -/
def Shell.withTokens (shell : Shell S) (tokens : Tokens) : Shell S :=
  { shell with breaks := { shell.breaks with tokens } }

namespace Shell.Stands

variable {state : S.State} {errors written : List String} {works : Prop} {shell : Shell S}

lemma withTokens (h : shell.Stands state errors works) (tokens : Tokens) :
    (shell.withTokens tokens).Stands state errors works :=
  ⟨h.state_eq, h.errors_eq, h.refusals⟩

end Shell.Stands

section BrokeOff

variable {state : S.State} {errors written : List String} {works : Prop} {shell : Shell S}

lemma Shell.Refused.brokeOff (h : shell.Refused state errors works) :
    shell.BrokeOff state errors works :=
  ⟨[], by rwa [List.append_nil]⟩

lemma Shell.BrokeOff.of_append (h : shell.BrokeOff state (errors ++ written) works) :
    shell.BrokeOff state errors works := by
  obtain ⟨more, h⟩ := h
  rw [List.append_assoc] at h
  exact ⟨_, h⟩

end BrokeOff

/-- What an output adds to the error stream. -/
def Output.errorLines : Output → List String
  | .errorLine line => [line]
  | _ => []

lemma Console.errors_apply (c : Console) (o : Output) :
    (c.apply o).errors = c.errors ++ o.errorLines := by
  cases o with
  | errorLine text => rfl
  | _ => exact (List.append_nil _).symm

/-- The effect changes neither the state nor the error stream, and makes nothing else run. -/
def Effect.IsSilent : Effect S → Prop
  | .output (.errorLine _) => False
  | .output _ | .record _ | .forgetHistory | .requestExit | .register _ => True
  | _ => False

namespace Run

variable {state : S.State} {errors : List String} {works : Prop} {shell : Shell S}
  {engine : Engine S} {races : List Token} {t : Token} {line : Line}

/-- An output goes through, or it is refused and changes nothing. -/
lemma finishes_output (h : shell.Stands state errors works) (o : Output) :
    Finishes (fun shell' => shell'.Stands state (errors ++ o.errorLines) works ∧
        ∃ console, shell' = shell.withConsole console)
      (Shell.Refused state errors works) (output o shell) := by
  cases hnext : shell.console.refusals.next with
  | mk refused rest =>
    have hnext' : shell.terminal.console.refusals.next = (refused, rest) := hnext
    have hrest : works → refused = false ∧ rest = [] := by
      intro hworks
      rw [h.refusals hworks, Refusals.next_nil] at hnext
      obtain ⟨rfl, rfl⟩ := Prod.mk.inj hnext
      exact ⟨rfl, rfl⟩
    rw [output, onTerminal, Terminal.output, Terminal.onConsole, Attempt.within, Console.output,
      hnext']
    cases refused with
    | true =>
      have hstands : (shell.withConsole { shell.console with refusals := rest }).Stands state errors
          works := ⟨h.state_eq, h.errors_eq, fun hworks => (hrest hworks).2⟩
      exact .failure _ ⟨hstands, fun hworks => Bool.noConfusion (hrest hworks).1⟩
    | false =>
      refine .ok () ⟨⟨h.state_eq, ?_, fun hworks => (hrest hworks).2⟩, _, rfl⟩
      rw [← h.errors_eq]
      exact Console.errors_apply shell.console o

/-- Only error lines show on the error stream. -/
lemma finishes_shown (h : shell.Stands state errors works) {o : Output} (ho : o.errorLines = []) :
    Finishes (fun shell' => shell'.Stands state errors works ∧
        ∃ console, shell' = shell.withConsole console)
      (Shell.Refused state errors works) (output o shell) := by
  have hfinishes := finishes_output h o
  rwa [ho, List.append_nil] at hfinishes

lemma finishes_writeLine (h : shell.Stands state errors works) (text : String) :
    Finishes (fun shell' => shell'.Stands state errors works ∧
        ∃ console, shell' = shell.withConsole console)
      (Shell.Refused state errors works) (writeLine text shell) := by
  refine (finishes_shown (o := .text text) h rfl).bind fun _ _ hwritten => ?_
  obtain ⟨h, console, rfl⟩ := hwritten
  exact (finishes_shown (o := .text "\n") h rfl).imp
    (fun _ ⟨h, console, heq⟩ => ⟨h, console, heq⟩) fun _ h => h

/-! ### Programs -/

/-- The step lemma: what is silent leaves state and error stream alone. -/
lemma finishes_effect {e : Effect S} (he : e.IsSilent) (h : shell.Stands state errors works)
    (engine : Engine S) (races : List Token) :
    Finishes (Shell.Stands state errors works) (Shell.Refused state errors works)
      (effect engine races e shell) := by
  cases e with
  | output o =>
    have hnone : o.errorLines = [] := by
      cases o with
      | errorLine text => exact he.elim
      | _ => rfl
    exact (finishes_shown h hnone).imp (fun _ h => h.1) fun _ h => h
  | record | forgetHistory | requestExit | register =>
    exact .ok () ⟨h.state_eq, h.errors_eq, h.refusals⟩
  | _ => exact he.elim

/-- The run lemma: silent programs leave state and error stream alone, and fail by themselves or
because the console refuses something. -/
theorem finishes_program {p : Program S α} (hp : p.Only Effect.IsSilent)
    (h : shell.Stands state errors works) (engine : Engine S) (races : List Token) :
    Finishes (Shell.Stands state errors works)
      (fun shell => shell.Refused state errors works ∨
        shell.Stands state errors works ∧ ¬ p.Succeeds)
      (program engine races p shell) := by
  induction p generalizing shell with
  | done a => exact .ok a h
  | fail f => exact .failure f (.inr ⟨h, id⟩)
  | look next ih =>
    refine (ih shell (hp shell) h).imp (fun _ h => h) fun _ hend => ?_
    exact hend.imp_right fun ⟨h, hfails⟩ => ⟨h, fun hall => hfails (hall _)⟩
  | act e next ih =>
    exact ((finishes_effect hp.1 h engine races).imp (fun _ h => h) fun _ h => .inl h).bind
      fun _ shell h => ih hp.2 h

/-- Error lines one after the other. -/
lemma finishes_writeErrorLines (h : shell.Stands state errors works) (engine : Engine S)
    (races : List Token) (lines : List String) :
    Finishes (Shell.Stands state (errors ++ lines) works) (Shell.BrokeOff state errors works)
      (program engine races (.writeErrorLines lines) shell) := by
  induction lines generalizing errors shell with
  | nil =>
    rw [List.append_nil]
    exact .ok () h
  | cons line lines ih =>
    have hfirst := (finishes_output h (.errorLine line)).imp (fun _ h => h)
      fun _ (h : Shell.Refused state errors works _) => h.brokeOff
    refine hfirst.bind fun _ _ hwritten => ?_
    have hrest := ih hwritten.1
    rw [List.append_assoc] at hrest
    exact hrest.imp (fun _ h => h) fun _ h => h.of_append

lemma program_look_apply (next : Shell S → Program S α) :
    program engine races (.look next) shell = program engine races (next shell) shell := rfl

lemma program_explain (engine : Engine S) (races : List Token) (c : Structured S) (input : Input)
    (issues : List Issue) :
    program engine races (c.explain input issues) =
      program engine races (.writeErrorLines (issues.map (·.message))) >>= fun _ =>
        program engine races (.look fun shell => match c.details shell input with
          | some text => .writeErrorLine text
          | none => .done ()) :=
  program_bind engine races _ _

/-- What is said about a line begins with its issues. -/
lemma finishes_explain (h : shell.Stands state errors works) (engine : Engine S)
    (races : List Token) (c : Structured S) (input : Input) (issues : List Issue) :
    Finishes (fun shell => ∃ more,
        shell.Stands state (errors ++ (issues.map (·.message) ++ more)) works)
      (Shell.BrokeOff state errors works)
      (program engine races (c.explain input issues) shell) := by
  rw [program_explain]
  refine (finishes_writeErrorLines h engine races _).bind fun _ shell h => ?_
  rw [program_look_apply]
  cases c.details shell input with
  | none => exact .ok () ⟨[], by rwa [List.append_nil]⟩
  | some text =>
    refine (finishes_writeErrorLines h engine races [text]).imp (fun _ h => ⟨[text], ?_⟩)
      fun _ h => h.of_append
    rwa [← List.append_assoc]

/-! ### Commands -/

/-- A race is lost, or what was run against the token ended or failed. -/
lemma exists_race_eq {I J : Shell S → Prop} (body : List Token → Run S Unit)
    (hbody : Finishes I J (body (races ++ [t]) shell)) :
    ∃ outcome shell', race races t body shell = .ok outcome shell' ∧
      (outcome = .ok () ∧ I shell' ∨ (∃ f, outcome = .error f) ∧ (shell' = shell ∨ J shell')) := by
  rw [race]
  by_cases hcancelled : shell.isCancelled t
  · rw [if_pos hcancelled]
    exact ⟨_, _, rfl, .inr ⟨⟨_, rfl⟩, .inl rfl⟩⟩
  · rw [if_neg hcancelled]
    generalize body (races ++ [t]) shell = x at hbody
    cases hbody with
    | ok a h => exact ⟨_, _, rfl, .inl ⟨rfl, h⟩⟩
    | failure f h => exact ⟨_, _, rfl, .inr ⟨⟨f, rfl⟩, .inr h⟩⟩

/-- What went wrong is reported in one line. -/
lemma finishes_report (h : shell.Stands state errors works) (f : Failure) :
    Finishes (fun shell => ∃ line, shell.Stands state (errors ++ [line]) works)
      (Shell.Refused state errors works) (report (.error f) shell) := by
  have hline : ∀ line, Finishes (fun shell => ∃ line, shell.Stands state (errors ++ [line]) works)
      (Shell.Refused state errors works) (output (.errorLine line) shell) := fun line =>
    (finishes_output h (.errorLine line)).imp (fun _ h => ⟨line, h.1⟩) fun _ h => h
  cases f with
  | _ => exact hline _

/-- A command is run against a token of its own, which is released when it ended. -/
lemma executeCommand_of_race {command : Command S} {child : Token} {tokens : Tokens}
    {outcome : Except Failure Unit} {ended : Shell S}
    (hderive : shell.breaks.tokens.derive t = (child, tokens))
    (hrace : race races child (fun races => program engine races (command.execute line child))
      (shell.withTokens tokens) = .ok outcome ended) :
    executeCommand engine races t command line shell =
      report outcome (ended.withTokens (ended.breaks.tokens.release child)) := by
  have hrun : executeCommand engine races t command line shell = (do
      let outcome ← race races (shell.breaks.tokens.derive t).1 fun races =>
        program engine races (command.execute line (shell.breaks.tokens.derive t).1)
      modify fun ended : Shell S =>
        ended.withTokens (ended.breaks.tokens.release (shell.breaks.tokens.derive t).1)
      report outcome) (shell.withTokens (shell.breaks.tokens.derive t).2) := rfl
  rw [hrun, hderive]
  dsimp only
  rw [bind_of_ok hrace]
  rfl

/-- A command ends as its program does, or an error line is written. -/
theorem finishes_executeCommand {I : Shell S → Prop}
    (hI : ∀ shell tokens, I shell → I (shell.withTokens tokens)) {command : Command S}
    (hbody : ∀ races child shell, shell.Stands state errors works →
      Finishes I (fun shell => ∃ written, shell.Stands state (errors ++ written) works)
        (program engine races (command.execute line child) shell))
    (h : shell.Stands state errors works) :
    Finishes (fun shell => I shell ∨
        ∃ written ≠ [], shell.Stands state (errors ++ written) works)
      (Shell.BrokeOff state errors works) (executeCommand engine races t command line shell) := by
  cases hderive : shell.breaks.tokens.derive t with
  | mk child tokens =>
    obtain ⟨outcome, ended, hrace, hended⟩ :=
      exists_race_eq (fun races => program engine races (command.execute line child))
        (hbody (races ++ [child]) child (shell.withTokens tokens) (h.withTokens tokens))
    rw [executeCommand_of_race hderive hrace]
    rcases hended with ⟨rfl, hended⟩ | ⟨⟨f, rfl⟩, hended⟩
    · exact .ok () (.inl (hI _ _ hended))
    · obtain ⟨written, hstands⟩ : ∃ written, ended.Stands state (errors ++ written) works := by
        rcases hended with rfl | hended
        · exact ⟨[], by rw [List.append_nil]; exact h.withTokens tokens⟩
        · exact hended
      refine (finishes_report (hstands.withTokens _) f).imp (fun _ h => .inr ?_)
        fun _ h => h.brokeOff.of_append
      obtain ⟨line, h⟩ := h
      rw [List.append_assoc] at h
      exact ⟨_, by simp, h⟩

/-! ### Lines -/

/-- To end a line and to signal readiness leaves state and error stream alone, if what is done then
does. -/
lemma finishes_concludeLine {app : Application S} (hsilent : app.announce.Only Effect.IsSilent)
    (hok : app.announce.Succeeds) (h : shell.Stands state errors works) (engine : Engine S)
    (races : List Token) :
    Finishes (Shell.Stands state errors works) (Shell.Refused state errors works)
      (concludeLine app engine races shell) := by
  have hannounce : ∀ shell : Shell S, shell.Stands state errors works →
      Finishes (Shell.Stands state errors works) (Shell.Refused state errors works)
        (program engine races app.announce shell) := fun shell h =>
    (finishes_program hsilent h engine races).imp (fun _ h => h) fun _ hend =>
      hend.resolve_right fun ⟨_, hfails⟩ => hfails hok
  have hready : ∀ shell : Shell S, shell.Stands state errors works →
      Finishes (Shell.Stands state errors works) (Shell.Refused state errors works)
        (signalReady app engine races shell) := by
    intro shell h
    show Finishes _ _ ((if shell.ready then pure () else _ : Run S Unit) shell)
    split_ifs
    · exact .ok () h
    · exact hannounce { shell with ready := true } ⟨h.state_eq, h.errors_eq, h.refusals⟩
  show Finishes _ _ ((if shell.ready then pure () else _ : Run S Unit) shell)
  split_ifs
  · exact .ok () h
  · exact (finishes_writeLine h "").bind fun _ shell h => hready shell h.1

/-- A line does to state and error stream what is done when it is offered to the commands, and
nothing if it is blank. -/
theorem finishes_submit {app : Application S} (hsilent : app.announce.Only Effect.IsSilent)
    (hok : app.announce.Succeeds) {I J : S.State → List String → Prop}
    (hIJ : ∀ {state errors}, I state errors → J state errors) (hJ : J state errors)
    (hblank : Text.allBlank shell.editor.text → I state errors)
    (hoffered : Text.allBlank shell.editor.text = false → ∀ offered : Shell S,
      offered.Stands state errors works → offered.commands = shell.commands →
      Finishes (Shell.Told I works) (fun shell => shell.Told J works ∧ ¬ works)
        (dispatch app engine races t (Line.parse shell.editor.text shell.editor.text.length)
          shell.commands offered))
    (h : shell.Stands state errors works) :
    Finishes (Shell.Told I works) (fun shell => shell.Told J works ∧ ¬ works)
      (submit app engine races t shell) := by
  let begun : Shell S := { shell with ready := false, completion := none }
  have hbegun : begun.Stands state errors works := ⟨h.state_eq, h.errors_eq, h.refusals⟩
  have hrest : ∀ shell : Shell S, shell.Told I works →
      Finishes (Shell.Told I works) (fun shell => shell.Told J works ∧ ¬ works)
        ((do
          concludeLine app engine races
          onTerminal Terminal.resetInput) shell) := by
    rintro shell ⟨state, errors, hI, h⟩
    have hconclude := (finishes_concludeLine hsilent hok h engine races).imp
      (fun _ h => h) fun _ h => (⟨⟨state, errors, hIJ hI, h.1⟩, h.2⟩ :
        Shell.Told J works _ ∧ ¬ works)
    refine hconclude.bind fun _ shell h => ?_
    exact .ok () ⟨state, errors, hI, h.state_eq, h.errors_eq, h.refusals⟩
  have hprelude := (finishes_writeLine hbegun "").imp (fun _ h => h)
    fun _ h => (⟨⟨state, errors, hJ, h.1⟩, h.2⟩ : Shell.Told J works _ ∧ ¬ works)
  rw [submit_eq]
  show Finishes _ _ ((writeLine "" >>= fun _ => _ : Run S Unit) begun)
  refine hprelude.bind fun _ ended hended => ?_
  obtain ⟨hended, console, rfl⟩ := hended
  refine Finishes.bind (I := Shell.Told I works) ?_ fun _ shell h => hrest shell h
  show Finishes _ _ ((if Text.allBlank shell.editor.text then pure () else _ : Run S Unit) _)
  cases htext : Text.allBlank shell.editor.text with
  | true => exact .ok () ⟨state, errors, hblank htext, hended⟩
  | false =>
    exact hoffered htext { begun.withConsole console with
      history := shell.history.add shell.editor.text }
      ⟨hended.state_eq, hended.errors_eq, hended.refusals⟩ rfl

end Run

end LineShell
