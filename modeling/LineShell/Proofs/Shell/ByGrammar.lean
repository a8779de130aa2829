import LineShell.Builtin.Commands
import LineShell.Proofs.Shell.ErrorStream

/-!
# Lines by the grammars of the commands

What becomes of a line that is submitted can be told from the grammars of the commands
(`ByGrammar`). The first command whose grammar binds the line is the only one that does anything: it
says what is wrong with the line, or keeps silent, or is run on just the input that it accepted. The
line is bound once when that command is asked and once when it is run, and both come to the same.
`dispatch_byGrammar` says so of every log of a submission.
-/

namespace LineShell

variable {S : Signature} {α β : Type}

/-! ### Error lines -/

namespace Shell

/-- The shell with some more lines on the error stream. -/
def complained (shell : Shell S) (lines : List String) : Shell S :=
  shell.withConsole (shell.console.puts (lines.map .errorLine))

variable {shell : Shell S} {lines : List String}

lemma complained_cons (shell : Shell S) (line : String) (lines : List String) :
    shell.complained (line :: lines) = (shell.complained [line]).complained lines := by
  rw [complained, List.map_cons, Console.puts_cons]
  rfl

@[simp] lemma refusals_complained (shell : Shell S) (lines : List String) :
    (shell.complained lines).console.refusals = shell.console.refusals :=
  Console.refusals_puts shell.console _

@[simp] lemma errors_complained (shell : Shell S) (lines : List String) :
    (shell.complained lines).console.errors = shell.console.errors ++ lines := by
  induction lines generalizing shell with
  | nil => exact (List.append_nil _).symm
  | cons line lines ih =>
    rw [complained_cons, ih, List.append_cons]
    rfl

/-- The shell when a line is offered to the commands: the line was ended and put on record. -/
def offered (shell : Shell S) : Shell S :=
  { shell.withConsole (shell.console.puts lineEnd) with
    ready := false
    completion := none
    history := shell.history.add shell.editor.text }

/-- The shell after the issues of a line were told one by one, and then the usual text about the
command that the line is for. -/
def explained (shell : Shell S) (c : Structured S) (issues : List Issue) : Shell S :=
  let noted := shell.complained (issues.map (·.message))
  noted.complained [c.grammar.usualDetails (c.summary noted)]

end Shell

namespace Run

variable {shell : Shell S} {engine : Engine S} {races : List Token}

lemma output_eq_puts (h : shell.console.refusals = []) (o : Output) :
    output o shell = .ok () (shell.withConsole (shell.console.puts [o])) := by
  have hout : Terminal.output o shell.terminal = _ := Terminal.output_eq h o
  simp only [output, onTerminal, hout]
  rfl

lemma writeLine_eq_puts (h : shell.console.refusals = []) (text : String) :
    writeLine text shell =
      .ok () (shell.withConsole (shell.console.puts [.text text, .text "\n"])) := by
  have hrest : (shell.withConsole (shell.console.puts [.text text])).console.refusals = [] :=
    (Console.refusals_puts _ _).trans h
  rw [writeLine, bind_of_ok (output_eq_puts h _), output_eq_puts hrest]
  rfl

lemma writeErrorLines_eq (h : shell.console.refusals = []) (lines : List String) :
    program engine races (.writeErrorLines lines) shell = .ok () (shell.complained lines) := by
  induction lines generalizing shell with
  | nil => rfl
  | cons line lines ih =>
    have hfirst : effect engine races (.output (.errorLine line)) shell =
        .ok () (shell.complained [line]) := output_eq_puts h _
    rw [Program.writeErrorLines, program_act, bind_of_ok hfirst, Shell.complained_cons]
    exact ih ((Shell.refusals_complained _ _).trans h)

lemma explain_eq {c : Structured S} (hdetails : c.ownDetails = none)
    (h : shell.console.refusals = []) (engine : Engine S) (races : List Token) (input : Input)
    (issues : List Issue) :
    program engine races (c.explain input issues) shell = .ok () (shell.explained c issues) := by
  let noted := shell.complained (issues.map (·.message))
  have hnoted : c.details noted input = some (c.grammar.usualDetails (c.summary noted)) := by
    rw [Structured.details, hdetails]
  rw [program_explain, bind_of_ok (writeErrorLines_eq h _), program_look_apply, hnoted]
  exact writeErrorLines_eq ((Shell.refusals_complained _ _).trans h) [_]

end Run

/-! ### Programs with a log -/

lemma Program.Only.bind {kind : Effect S → Prop} {p : Program S α} {k : α → Program S β}
    (h : p.Only kind) (hk : ∀ a, (k a).Only kind) : (p.bind k).Only kind := by
  induction p with
  | done a => exact hk a
  | fail f => trivial
  | look next ih => exact fun shell => ih shell (h shell)
  | act e next ih => exact ⟨h.1, ih h.2⟩

namespace Logged

variable {signal : List Token → Logged S Unit} {engine : Engine S} {races : List Token}

lemma lift_bind (r : Run S α) (k : α → Run S β) :
    lift (r >>= k) = lift r >>= fun a => lift (k a) := by
  funext state
  obtain ⟨shell, log⟩ := state
  show lift (r >>= k) (shell, log) = EStateM.bind (lift r) _ (shell, log)
  have hbind : (r >>= k) shell = EStateM.bind r k shell := rfl
  rw [EStateM.bind, lift, lift, hbind, EStateM.bind]
  cases r shell <;> rfl

/-- Nothing is logged of a program that does not signal readiness. -/
lemma program_eq_lift {p : Program S α} (hp : p.Only (· ≠ .signalReady)) :
    program signal engine races p = lift (Run.program engine races p) := by
  induction p with
  | done a => rfl
  | fail f => rfl
  | look next ih =>
    rw [Run.program_look, lift_bind]
    show (shell >>= fun s => program signal engine races (next s)) = _
    simp only [ih _ (hp _)]
    rfl
  | act e next ih =>
    rw [Run.program_act, lift_bind, program, effect_of_ne hp.1, ih hp.2]

end Logged

/-! ### Commands with a grammar -/

namespace Structured

variable {c : Structured S} {line : Line} {input : Input} {issues : List Issue}

lemma only_writeErrorLines (lines : List String) :
    (Program.writeErrorLines lines : Program S Unit).Only (· ≠ .signalReady) := by
  induction lines with
  | nil => trivial
  | cons line lines ih => exact ⟨nofun, ih⟩

lemma only_explain (c : Structured S) (input : Input) (issues : List Issue) :
    (c.explain input issues).Only (· ≠ .signalReady) := by
  refine (only_writeErrorLines _).bind fun _ shell => ?_
  simp only [Program.done_bind]
  split
  · exact ⟨nofun, trivial⟩
  · trivial

/-- What a command says about a line to which it has something to say. -/
lemma canHandle_eq_of_issues (hbind : c.grammar.bind line = .bound input issues)
    (hissues : issues ≠ []) :
    c.canHandle line = (c.explain input issues).bind fun _ => .done .invalid := by
  cases issues with
  | nil => exact absurd rfl hissues
  | cons issue issues => exact canHandle_of_bound_cons hbind

end Structured

namespace Logged

/-! ### What the grammars say -/

/-- The entry for a command that a line is not meant for. -/
def passed (c : S.Command) : Entry S :=
  .asked c .notMine false

/-- Runs a command on an input against a token of its own. -/
def executeInput (structured : S.Command → Structured S) (signal : List Token → Logged S Unit)
    (engine : Engine S) (races : List Token) (c : S.Command) (input : Input) (child : Token) :
    Logged S Unit := do
  let outcome ← race races child fun races => do
    note (.executed c)
    program signal engine races ((structured c).execute input child)
  endCommand child outcome

/-- What becomes of a line that is offered to commands, and the log of it, by the grammars of the
commands. -/
inductive ByGrammar (structured : S.Command → Structured S) (signal : List Token → Logged S Unit)
    (engine : Engine S) (races : List Token) (t : Token) (line : Line) (commands : List S.Command)
    (shell : Shell S) (log : List (Entry S)) :
    EStateM.Result Halt (Shell S × List (Entry S)) Unit → Prop
  /-- No grammar binds the line, and one error line is written about that. -/
  | unclaimed (hcommands : ∀ d ∈ commands, ((structured d).grammar.bind line).isMismatch) :
    ByGrammar structured signal engine races t line commands shell log
      (.ok () (shell.complained [Run.noMatchingCommand],
        log ++ (commands.map passed ++ [.reported Run.noMatchingCommand])))
  /-- The first grammar that binds the line finds issues. They are told, and all about the
  command. -/
  | rejected {before c after input issues} (hcommands : commands = before ++ c :: after)
    (hbefore : ∀ d ∈ before, ((structured d).grammar.bind line).isMismatch)
    (hbind : (structured c).grammar.bind line = .bound input issues) (hissues : issues ≠ []) :
    ByGrammar structured signal engine races t line commands shell log
      (.ok () (shell.explained (structured c) issues,
        log ++ (before.map passed ++ [.asked c .invalid false])))
  /-- The first grammar that binds the line finds no issues, but its command does not accept the
  input. -/
  | declined {before c after input} (hcommands : commands = before ++ c :: after)
    (hbefore : ∀ d ∈ before, ((structured d).grammar.bind line).isMismatch)
    (hbind : (structured c).grammar.bind line = .bound input [])
    (haccepts : (structured c).accepts shell input = false) :
    ByGrammar structured signal engine races t line commands shell log
      (.ok () (shell, log ++ (before.map passed ++ [.asked c .invalid false])))
  /-- The first grammar that binds the line finds no issues, its command accepts the input, and that
  command is run on this input, with a token that is not cancelled. -/
  | accepted {before c after input child tokens} (hcommands : commands = before ++ c :: after)
    (hbefore : ∀ d ∈ before, ((structured d).grammar.bind line).isMismatch)
    (hbind : (structured c).grammar.bind line = .bound input [])
    (haccepts : (structured c).accepts shell input = true)
    (hderive : shell.breaks.tokens.derive t = (child, tokens))
    (hchild : (shell.withTokens tokens).isCancelled child = false) :
    ByGrammar structured signal engine races t line commands shell log
      (executeInput structured signal engine races c input child
        (shell.withTokens tokens, log ++ (before.map passed ++ [.asked c .valid false])))

variable {app : Application S} {structured : S.Command → Structured S}
  {signal : List Token → Logged S Unit} {engine : Engine S} {races : List Token} {t : Token}
  {line : Line} {c : S.Command} {commands : List S.Command} {shell : Shell S}
  {log : List (Entry S)} {x : EStateM.Result Halt (Shell S × List (Entry S)) Unit}

/-- A command that the line is not meant for makes no difference but to the log. -/
lemma ByGrammar.passedOn (hc : ((structured c).grammar.bind line).isMismatch)
    (h : ByGrammar structured signal engine races t line commands shell (log ++ [passed c]) x) :
    ByGrammar structured signal engine races t line (c :: commands) shell log x := by
  cases h with
  | unclaimed hcommands =>
    rw [List.append_assoc]
    exact .unclaimed (List.forall_mem_cons.mpr ⟨hc, hcommands⟩)
  | @rejected before d after input issues hcommands hbefore hbind hissues =>
    have hcommands' : c :: commands = (c :: before) ++ d :: after := congrArg (c :: ·) hcommands
    rw [List.append_assoc]
    exact .rejected hcommands' (List.forall_mem_cons.mpr ⟨hc, hbefore⟩) hbind hissues
  | @declined before d after input hcommands hbefore hbind haccepts =>
    have hcommands' : c :: commands = (c :: before) ++ d :: after := congrArg (c :: ·) hcommands
    rw [List.append_assoc]
    exact .declined hcommands' (List.forall_mem_cons.mpr ⟨hc, hbefore⟩) hbind haccepts
  | @accepted before d after input child tokens hcommands hbefore hbind haccepts hderive hchild =>
    have hcommands' : c :: commands = (c :: before) ++ d :: after := congrArg (c :: ·) hcommands
    rw [List.append_assoc]
    exact .accepted hcommands' (List.forall_mem_cons.mpr ⟨hc, hbefore⟩) hbind haccepts hderive
      hchild

/-! ### Answers -/

lemma canHandle_eq (hc : app.command c = (structured c).toCommand) (line : Line) :
    (app.command c).canHandle line = (structured c).canHandle line := by
  rw [hc]
  rfl

lemma answer_of_mismatch {name : String} (hc : app.command c = (structured c).toCommand)
    (hbind : (structured c).grammar.bind line = .mismatch name) :
    program signal engine races ((app.command c).canHandle line) (shell, log) =
      .ok .notMine (shell, log) := by
  rw [canHandle_eq hc, Structured.canHandle_of_mismatch hbind]
  rfl

lemma answer_of_bound_nil {input : Input} (hc : app.command c = (structured c).toCommand)
    (hbind : (structured c).grammar.bind line = .bound input []) :
    program signal engine races ((app.command c).canHandle line) (shell, log) =
      .ok (if (structured c).accepts shell input then .valid else .invalid) (shell, log) := by
  rw [canHandle_eq hc, Structured.canHandle_of_bound_nil hbind]
  rfl

lemma answer_of_issues {input : Input} {issues : List Issue}
    (hc : app.command c = (structured c).toCommand) (hdetails : (structured c).ownDetails = none)
    (hrefusals : shell.console.refusals = [])
    (hbind : (structured c).grammar.bind line = .bound input issues) (hissues : issues ≠ []) :
    program signal engine races ((app.command c).canHandle line) (shell, log) =
      .ok .invalid (shell.explained (structured c) issues, log) := by
  have honly : ((structured c).canHandle line).Only (· ≠ .signalReady) := by
    rw [Structured.canHandle_eq_of_issues hbind hissues]
    exact (Structured.only_explain _ _ _).bind fun _ => trivial
  have hexplain := Run.explain_eq hdetails hrefusals engine races input issues
  rw [canHandle_eq hc, program_eq_lift honly, Structured.canHandle_eq_of_issues hbind hissues,
    Run.program_bind, lift, Run.bind_of_ok hexplain]
  rfl

/-! ### Dispatch -/

/-- What is done about the answer of a command, with some more commands left to ask. -/
def heed (app : Application S) (signal : List Token → Logged S Unit) (engine : Engine S)
    (races : List Token) (t : Token) (line : Line) (c : S.Command) (commands : List S.Command) :
    Answer → Logged S Unit
  | .notMine => dispatch app signal engine races t line commands
  | .invalid => return
  | .valid => executeCommand app signal engine races t c line

lemma dispatch_of_answer {answer : Answer} {asked : Shell S}
    (hanswer : program signal engine races ((app.command c).canHandle line) (shell, log) =
      .ok answer (asked, log)) (hcancelled : asked.isCancelled t = false) :
    dispatch app signal engine races t line (c :: commands) (shell, log) =
      heed app signal engine races t line c commands answer
        (asked, log ++ [.asked c answer false]) := by
  rw [dispatch, bind_of_ok hanswer, ← hcancelled]
  cases answer <;> rfl

lemma executeCommand_eq {input : Input} {issues : List Issue} {child : Token} {tokens : Tokens}
    (hc : app.command c = (structured c).toCommand)
    (hbind : (structured c).grammar.bind line = .bound input issues)
    (hderive : shell.breaks.tokens.derive t = (child, tokens)) :
    executeCommand app signal engine races t c line (shell, log) =
      executeInput structured signal engine races c input child (shell.withTokens tokens, log) := by
  have hexecute : (app.command c).execute line = (structured c).execute input := by
    rw [hc, Structured.execute_toCommand hbind]
    rfl
  have hrun : executeCommand app signal engine races t c line (shell, log) =
      (runCommand app signal engine races c line (shell.breaks.tokens.derive t).1 >>=
        endCommand (shell.breaks.tokens.derive t).1)
        (shell.withTokens (shell.breaks.tokens.derive t).2, log) := rfl
  rw [hrun, hderive, runCommand, hexecute]
  rfl

lemma dispatch_nil_eq (hrefusals : shell.console.refusals = []) :
    dispatch app signal engine races t line [] (shell, log) =
      .ok () (shell.complained [Run.noMatchingCommand],
        log ++ [.reported Run.noMatchingCommand]) := by
  have hline : Run.output (.errorLine Run.noMatchingCommand) shell =
      .ok () (shell.complained [Run.noMatchingCommand]) := Run.output_eq_puts hrefusals _
  show lift _ (shell, log ++ [.reported Run.noMatchingCommand]) = _
  rw [lift, hline]

/-- The grammars of the commands tell what becomes of a line. -/
theorem dispatch_byGrammar
    (hcommands : ∀ c ∈ commands, app.command c = (structured c).toCommand)
    (hdetails : ∀ c ∈ commands, (structured c).ownDetails = none)
    (hrefusals : shell.console.refusals = []) (hsound : shell.breaks.tokens.Sound)
    (hmade : t < shell.breaks.tokens.next) (hcancelled : shell.isCancelled t = false)
    (signal : List Token → Logged S Unit) (engine : Engine S) (races : List Token) (line : Line)
    (log : List (Entry S)) :
    ByGrammar structured signal engine races t line commands shell log
      (dispatch app signal engine races t line commands (shell, log)) := by
  induction commands generalizing log with
  | nil =>
    rw [dispatch_nil_eq hrefusals]
    exact .unclaimed (List.forall_mem_nil _)
  | cons c commands ih =>
    obtain ⟨hc, hcommands⟩ := List.forall_mem_cons.mp hcommands
    obtain ⟨hown, hdetails⟩ := List.forall_mem_cons.mp hdetails
    have hfirst : c :: commands = [] ++ c :: commands := rfl
    cases hbind : (structured c).grammar.bind line with
    | mismatch name =>
      rw [dispatch_of_answer (answer_of_mismatch hc hbind) hcancelled]
      refine .passedOn ?_ (ih hcommands hdetails _)
      rw [hbind]
      rfl
    | bound input issues =>
      by_cases hissues : issues = []
      · subst hissues
        rw [dispatch_of_answer (answer_of_bound_nil hc hbind) hcancelled]
        cases haccepts : (structured c).accepts shell input with
        | false => exact .declined hfirst (List.forall_mem_nil _) hbind haccepts
        | true =>
          have hchild : (shell.withTokens (shell.breaks.tokens.derive t).2).isCancelled
              (shell.breaks.tokens.derive t).1 = false :=
            (Tokens.isCancelled_derive hsound hmade).trans hcancelled
          rw [if_pos rfl, heed, executeCommand_eq hc hbind rfl]
          exact .accepted hfirst (List.forall_mem_nil _) hbind haccepts rfl hchild
      · rw [dispatch_of_answer (answer_of_issues hc hown hrefusals hbind hissues) hcancelled]
        exact .rejected hfirst (List.forall_mem_nil _) hbind hissues

/-! ### Lines -/

/-- The line is ended before it is taken. -/
lemma submit_eq_cycle (hrefusals : shell.console.refusals = []) (app : Application S) (n : Nat)
    (races : List Token) (t : Token) :
    submit app n races t (shell, []) =
      cycle app (signalAt app n) (.ofLevels app n) races t
        ({ shell.withConsole (shell.console.puts Shell.lineEnd) with
          ready := false, completion := none }, []) := by
  let begun : Shell S := { shell with ready := false, completion := none }
  have hbegun : begun.console.refusals = [] := hrefusals
  have hend : lift (Run.writeLine "") (begun, []) =
      .ok () (begun.withConsole (begun.console.puts Shell.lineEnd), []) :=
    show lift _ (begun, []) = _ from lift_of_ok (Run.writeLine_eq_puts hbegun "")
  have hsubmit : submit app n races t (shell, []) =
      (lift (Run.writeLine "") >>= fun _ =>
        cycle app (signalAt app n) (.ofLevels app n) races t) (begun, []) := rfl
  rw [hsubmit, bind_of_ok hend]
  rfl

/-- What is done before the line is offered to the commands. -/
lemma submit_eq (hrefusals : shell.console.refusals = [])
    (hblank : Text.allBlank shell.editor.text = false) (app : Application S) (n : Nat)
    (races : List Token) (t : Token) :
    submit app n races t (shell, []) =
      (do
        dispatch app (signalAt app n) (.ofLevels app n) races t
          (Line.parse shell.editor.text shell.editor.text.length) shell.commands
        concludeLine app (signalAt app n) (.ofLevels app n) races
        lift (Run.onTerminal Terminal.resetInput))
      (shell.offered, [.recorded shell.editor.text]) := by
  let ended : Shell S := { shell.withConsole (shell.console.puts Shell.lineEnd) with
    ready := false, completion := none }
  have htake : takeLine app (signalAt app n) (.ofLevels app n) races t (ended, []) =
      dispatch app (signalAt app n) (.ofLevels app n) races t
        (Line.parse shell.editor.text shell.editor.text.length) shell.commands
        (shell.offered, [.recorded shell.editor.text]) := by
    show (if Text.allBlank shell.editor.text then pure () else _ : Logged S Unit) (ended, []) = _
    rw [if_neg (Bool.eq_false_iff.mp hblank)]
    rfl
  rw [submit_eq_cycle hrefusals, cycle]
  show EStateM.bind _ _ _ = EStateM.bind _ _ _
  rw [EStateM.bind, EStateM.bind, htake]

/-- After a line was offered to the commands nothing more is written to the error stream, unless the
announcement of readiness does that. -/
lemma forget_conclude_eq (hsilent : app.announce.Only Effect.IsSilent) (hok : app.announce.Succeeds)
    (hrefusals : shell.console.refusals = []) (n : Nat) (races : List Token)
    (log : List (Entry S)) :
    ∃ shell' : Shell S, forget ((do
        concludeLine app (signalAt app n) (.ofLevels app n) races
        lift (Run.onTerminal Terminal.resetInput)) (shell, log)) = .ok () shell' ∧
      shell'.state = shell.state ∧ shell'.console.errors = shell.console.errors := by
  have herases : Erases (do
      concludeLine app (signalAt app n) (.ofLevels app n) races
      lift (Run.onTerminal Terminal.resetInput)) (do
      Run.concludeLine app (.ofLevels app n) races
      Run.onTerminal Terminal.resetInput) :=
    (erases_concludeLine app (erases_signalAt app n) races).bind fun _ => erases_lift _
  have hstands : shell.Stands shell.state shell.console.errors True :=
    ⟨rfl, rfl, fun _ => hrefusals⟩
  have hfinishes := Run.finishes_concludeLine hsilent hok hstands (.ofLevels app n) races
  rw [herases shell log]
  generalize hconclude : Run.concludeLine app (.ofLevels app n) races shell = x at hfinishes
  cases hfinishes with
  | ok a h => exact ⟨_, Run.bind_of_ok hconclude _, h.state_eq, h.errors_eq⟩
  | failure f h => exact absurd trivial h.2

end Logged

namespace Run

open Logged (ByGrammar signalAt)

variable {app : Application S} {structured : S.Command → Structured S} {shell : Shell S} {t : Token}

/-- Let commands with a grammar, and the usual text about them, be registered in a shell, and let a
line that is not blank be submitted under a token that is not cancelled, on a console that refuses
nothing. Then the line goes on record, and the first command whose grammar binds it decides what
becomes of it (`ByGrammar`): the commands before that one only answer that the line is not meant for
them, and if there is none, one error line says so. If the binding has issues, then just these are
written to the error stream, and the text about the command after them. If it has none, the command
is run, on the input that it accepted, or nothing happens because it did not accept it. Where no
command was run, nothing else is written to the error stream until the end of the line, which is
come to, unless the announcement of readiness does so or fails. -/
theorem submit_by_grammar
    (hcommands : ∀ c ∈ shell.commands, app.command c = (structured c).toCommand)
    (hdetails : ∀ c ∈ shell.commands, (structured c).ownDetails = none)
    (hblank : Text.allBlank shell.editor.text = false) (hrefusals : shell.console.refusals = [])
    (hsound : shell.breaks.tokens.Sound) (hmade : t < shell.breaks.tokens.next)
    (hcancelled : shell.isCancelled t = false) (n : Nat) (races : List Token) :
    let line := Line.parse shell.editor.text shell.editor.text.length
    let offering := Logged.dispatch app (signalAt app n) (.ofLevels app n) races t line
      shell.commands
    let start := (shell.offered, [Entry.recorded shell.editor.text])
    ByGrammar structured (signalAt app n) (.ofLevels app n) races t line shell.commands
        shell.offered [.recorded shell.editor.text] (offering start) ∧
      shell.offered.state = shell.state ∧
      shell.offered.console.errors = shell.console.errors ∧
      Logged.submit app n races t (shell, []) = (do
          offering
          Logged.concludeLine app (signalAt app n) (.ofLevels app n) races
          Logged.lift (onTerminal Terminal.resetInput)) start ∧
      submit app (.ofLevels app n) races t shell =
        Logged.forget (Logged.submit app n races t (shell, [])) ∧
      ∀ told log, offering start = .ok () (told, log) → told.console.refusals = [] →
        app.announce.Only Effect.IsSilent → app.announce.Succeeds →
        ∃ shell', submit app (.ofLevels app n) races t shell = .ok () shell' ∧
          shell'.state = told.state ∧ shell'.console.errors = told.console.errors := by
  intro line offering start
  have hsubmit := Logged.submit_eq hrefusals hblank app n races t
  have herase := (Logged.erases_submit app n races t shell []).symm
  refine ⟨?_, rfl, rfl, hsubmit, herase, ?_⟩
  · have hoffered : shell.offered.console.refusals = [] :=
      (Console.refusals_puts shell.console _).trans hrefusals
    exact Logged.dispatch_byGrammar hcommands hdetails hoffered hsound hmade hcancelled _ _ _ _ _
  · intro told log htold hworks hsilent hok
    rw [herase, hsubmit, Logged.bind_of_ok htold]
    exact Logged.forget_conclude_eq hsilent hok hworks n races log

/-- A line for `set` with an argument too many. -/
theorem submit_by_grammar_too_many :
    let shell : Shell Builtin.signature := {
      state := {}, history := .inMemory 5, commands := Builtin.all
      terminal := { editor := { buffer := "set a b c".toList } }
      breaks := { tokens := (Tokens.create {} none).2 } }
    (∀ c ∈ shell.commands, Builtin.application.command c = (Builtin.structured c).toCommand) ∧
      (∀ c ∈ shell.commands, (Builtin.structured c).ownDetails = none) ∧
      Text.allBlank shell.editor.text = false ∧ shell.console.refusals = [] ∧
      shell.breaks.tokens.Sound ∧ 0 < shell.breaks.tokens.next ∧ shell.isCancelled 0 = false ∧
      ∃ shell', submit Builtin.application (.ofLevels Builtin.application 1) [] 0 shell =
          .ok () shell' ∧
        shell'.state = {} ∧ shell'.console.errors =
          ["Too many arguments: expected at most 2, found 3",
            Builtin.set.grammar.usualDetails (some Builtin.set.summary)] := by
  intro shell
  have hcommands : ∀ c ∈ shell.commands,
      Builtin.application.command c = (Builtin.structured c).toCommand := fun _ _ => rfl
  have hdetails : ∀ c ∈ shell.commands, (Builtin.structured c).ownDetails = none := fun _ _ => rfl
  have hblank : Text.allBlank shell.editor.text = false := by decide
  have hsound : shell.breaks.tokens.Sound := Tokens.sound_empty.cons rfl nofun
  have hmade : 0 < shell.breaks.tokens.next := by decide
  have hcancelled : shell.isCancelled 0 = false := by decide
  refine ⟨hcommands, hdetails, hblank, rfl, hsound, hmade, hcancelled, ?_⟩
  let line := Line.parse shell.editor.text shell.editor.text.length
  have hset : (Builtin.set.grammar.bind line).issues = [.tooManyArguments 2 3] := by
    decide +kernel
  have hothers : ∀ c : Builtin, (c.grammar.bind line).isMismatch = decide (c ≠ .set) := by
    intro c
    cases c <;> decide +kernel
  obtain ⟨hby, -, -, -, -, hrest⟩ :=
    submit_by_grammar hcommands hdetails hblank (rfl : shell.console.refusals = [])
      hsound hmade hcancelled 1 []
  -- only `set` binds the line, with one issue
  have hbound : ∀ {c : Builtin} {input issues}, (Builtin.structured c).grammar.bind line =
      .bound input issues → c = .set ∧ issues = [.tooManyArguments 2 3] := by
    intro c input issues hbind
    have hc : (c.grammar.bind line).isMismatch = false := congrArg Binding.isMismatch hbind
    rw [hothers, decide_eq_false_iff_not, not_not] at hc
    subst hc
    exact ⟨rfl, (congrArg Binding.issues hbind).symm.trans hset⟩
  generalize Logged.dispatch _ _ _ _ _ _ _ _ = x at hby hrest
  cases hby with
  | unclaimed hnone => exact absurd ((hnone .set (by decide)).symm.trans (hothers .set)) (by decide)
  | rejected hcommands hbefore hbind hne =>
    obtain ⟨rfl, rfl⟩ := hbound hbind
    obtain ⟨shell', hrun, hstate', herrors'⟩ :=
      hrest _ _ rfl rfl (fun _ => ⟨trivial, trivial⟩) (fun _ => trivial)
    refine ⟨shell', hrun, hstate', ?_⟩
    rw [herrors', Shell.explained, Shell.errors_complained, Shell.errors_complained]
    rfl
  | declined hcommands hbefore hbind haccepts => cases haccepts
  | accepted hcommands hbefore hbind haccepts hderive hchild =>
    obtain ⟨-, hissues⟩ := hbound hbind
    cases hissues

end Run

end LineShell
