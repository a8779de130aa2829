import LineShell.Shell.Run
import LineShell.Shell.Structured
import Mathlib.Tactic.Common

/-!
# What becomes of a line

A line is offered to commands one after the other. Where all of them have a grammar, the first one
whose grammar binds the line decides what becomes of it (`Shell.reception`), and the commands before
that one do nothing at all. `dispatch_eq_run_reception` says that offering the line does just what
its reception asks for.
-/

namespace LineShell

variable {S : Signature}

/-! ### Reception -/

/-- What becomes of a line that is offered to commands with a grammar. -/
inductive Reception (S : Signature)
  /-- It is meant for none of them. -/
  | unclaimed
  /-- It is meant for a command, and something is wrong with it. -/
  | rejected (command : S.Command) (input : Input) (issues : List Issue)
  /-- It is meant for a command to which it makes no sense. -/
  | declined (command : S.Command) (input : Input)
  /-- A command is run on it. -/
  | accepted (command : S.Command) (input : Input)

/-- The first command that a line is meant for, and the line bound to its grammar. -/
def claimant? (structured : S.Command → Structured S) (line : Line) (commands : List S.Command) :
    Option (S.Command × Input × List Issue) :=
  commands.findSome? fun c =>
    match (structured c).grammar.bind line with
    | .mismatch _ => none
    | .bound input issues => some (c, input, issues)

/-- What becomes of a line. -/
def Shell.reception (structured : S.Command → Structured S) (shell : Shell S) (line : Line) :
    Reception S :=
  match claimant? structured line shell.commands with
  | none => .unclaimed
  | some (c, input, []) =>
    if (structured c).accepts shell input then .accepted c input else .declined c input
  | some (c, input, issues) => .rejected c input issues

section Claimant

variable {structured : S.Command → Structured S} {shell : Shell S} {line : Line} {c : S.Command}
  {commands : List S.Command} {input : Input} {issues : List Issue}

lemma claims_eq_none_iff {d : S.Command} :
    (match (structured d).grammar.bind line with
      | .mismatch _ => none
      | .bound input issues => some (d, input, issues)) = none ↔
      ((structured d).grammar.bind line).isMismatch := by
  cases (structured d).grammar.bind line <;> simp [Binding.isMismatch]

lemma claimant?_eq_none_iff :
    claimant? structured line commands = none ↔
      ∀ d ∈ commands, ((structured d).grammar.bind line).isMismatch := by
  rw [claimant?, List.findSome?_eq_none_iff]
  exact forall₂_congr fun _ _ => claims_eq_none_iff

/-- The line is bound for no command before the one that it is meant for. -/
lemma claimant?_eq_some_iff :
    claimant? structured line commands = some (c, input, issues) ↔
      ∃ before after, commands = before ++ c :: after ∧
        (∀ d ∈ before, ((structured d).grammar.bind line).isMismatch) ∧
        (structured c).grammar.bind line = .bound input issues := by
  rw [claimant?, List.findSome?_eq_some_iff]
  constructor
  · rintro ⟨before, d, after, hcommands, hclaims, hbefore⟩
    cases hbind : (structured d).grammar.bind line with
    | mismatch name =>
      rw [hbind] at hclaims
      cases hclaims
    | bound input' issues' =>
      rw [hbind] at hclaims
      obtain ⟨rfl, rfl, rfl⟩ := hclaims
      exact ⟨before, after, hcommands, fun d hd => claims_eq_none_iff.mp (hbefore d hd), hbind⟩
  · rintro ⟨before, after, hcommands, hbefore, hbind⟩
    refine ⟨before, c, after, hcommands, ?_, fun d hd => claims_eq_none_iff.mpr (hbefore d hd)⟩
    rw [hbind]

/-- What becomes of a line is told by whom it is meant for. -/
lemma Shell.reception_cases (structured : S.Command → Structured S) (shell : Shell S)
    (line : Line) :
    claimant? structured line shell.commands = none ∧
        shell.reception structured line = .unclaimed ∨
      ∃ c input issues, claimant? structured line shell.commands = some (c, input, issues) ∧
        (issues ≠ [] ∧ shell.reception structured line = .rejected c input issues ∨
          issues = [] ∧ (structured c).accepts shell input = false ∧
            shell.reception structured line = .declined c input ∨
          issues = [] ∧ (structured c).accepts shell input = true ∧
            shell.reception structured line = .accepted c input) := by
  rw [reception]
  cases hclaimant : claimant? structured line shell.commands with
  | none => exact .inl ⟨rfl, rfl⟩
  | some claim =>
    obtain ⟨c, input, issues⟩ := claim
    refine .inr ⟨c, input, issues, rfl, ?_⟩
    cases issues with
    | cons issue issues => exact .inl ⟨List.cons_ne_nil issue issues, rfl⟩
    | nil =>
      right
      cases haccepts : (structured c).accepts shell input with
      | false => exact .inl ⟨rfl, rfl, by simp [haccepts]⟩
      | true => exact .inr ⟨rfl, rfl, by simp [haccepts]⟩

end Claimant

/-- The command that runs on one bound line, whatever line it is given. -/
def Structured.runningOn (c : Structured S) (input : Input) : Command S :=
  { c.toCommand with execute := fun _ => c.execute input }

/-- Does what the reception of a line asks for. -/
def Reception.run (structured : S.Command → Structured S) (engine : Engine S) (races : List Token)
    (t : Token) (line : Line) : Reception S → Run S Unit
  | .unclaimed => Run.output (.errorLine Run.noMatchingCommand)
  | .rejected c input issues => Run.program engine races ((structured c).explain input issues)
  | .declined _ _ => return
  | .accepted c input =>
    Run.executeCommand engine races t ((structured c).runningOn input) line

/-! ### Programs one after the other -/

namespace Run

variable {α β : Type} (engine : Engine S) (races : List Token)

@[simp] lemma program_done (a : α) : program engine races (.done a) = pure a := rfl

@[simp] lemma program_look (next : Shell S → Program S α) :
    program engine races (.look next) = get >>= fun shell => program engine races (next shell) :=
  rfl

@[simp] lemma program_act (e : Effect S) (next : Program S α) :
    program engine races (.act e next) =
      effect engine races e >>= fun _ => program engine races next := rfl

lemma program_bind (p : Program S α) (f : α → Program S β) :
    program engine races (p.bind f) =
      program engine races p >>= fun a => program engine races (f a) := by
  induction p with
  | done a => simp
  | fail e => rfl
  | look next ih =>
    simp only [Program.look_bind, program_look, ih, bind_assoc]
  | act e next ih =>
    simp only [Program.act_bind, program_act, ih, bind_assoc]

end Run

/-! ### Answers -/

namespace Structured

variable {c : Structured S} {line : Line} {input : Input}

lemma canHandle_of_mismatch {name : String} (h : c.grammar.bind line = .mismatch name) :
    c.canHandle line = .done .notMine := by
  rw [canHandle, h]
  rfl

lemma canHandle_of_bound_nil (h : c.grammar.bind line = .bound input []) :
    c.canHandle line =
      .look fun shell => .done (if c.accepts shell input then .valid else .invalid) := by
  rw [canHandle, h]
  rfl

lemma canHandle_of_bound_cons {issue : Issue} {issues : List Issue}
    (h : c.grammar.bind line = .bound input (issue :: issues)) :
    c.canHandle line = (c.explain input (issue :: issues)).bind fun _ => .done .invalid := by
  rw [canHandle, h]
  rfl

lemma execute_toCommand {issues : List Issue} (h : c.grammar.bind line = .bound input issues) :
    c.toCommand.execute line = (c.runningOn input).execute line := by
  funext t
  simp only [toCommand, runningOn, h]

end Structured

/-! ### Dispatch -/

namespace Run

variable {app : Application S} {structured : S.Command → Structured S} {engine : Engine S}
  {races : List Token} {t : Token} {line : Line} {c : S.Command} {commands : List S.Command}

lemma executeCommand_congr {command command' : Command S}
    (h : command.execute line = command'.execute line) :
    executeCommand engine races t command line = executeCommand engine races t command' line := by
  simp only [executeCommand, h]

/-- A command that a line is not meant for leaves no trace. -/
lemma dispatch_of_mismatch {name : String} (hc : app.command c = (structured c).toCommand)
    (h : (structured c).grammar.bind line = .mismatch name) :
    dispatch app engine races t line (c :: commands) =
      dispatch app engine races t line commands := by
  have hanswer : (app.command c).canHandle line = .done .notMine := by
    rw [hc]
    exact Structured.canHandle_of_mismatch h
  rw [dispatch]
  simp only [hanswer, program_done, pure_bind]

lemma dispatch_of_bound_nil {input : Input} (hc : app.command c = (structured c).toCommand)
    (h : (structured c).grammar.bind line = .bound input []) :
    dispatch app engine races t line (c :: commands) = do
      let shell ← get
      if (structured c).accepts shell input then
        executeCommand engine races t ((structured c).runningOn input) line
      else return := by
  have hanswer : (app.command c).canHandle line = .look fun shell =>
      .done (if (structured c).accepts shell input then .valid else .invalid) := by
    rw [hc]
    exact Structured.canHandle_of_bound_nil h
  have hexecute : executeCommand engine races t (app.command c) line =
      executeCommand engine races t ((structured c).runningOn input) line := by
    rw [hc]
    exact executeCommand_congr (Structured.execute_toCommand h)
  rw [dispatch]
  simp only [hanswer, program_look, program_done, bind_assoc, pure_bind, hexecute]
  congr 1
  funext shell
  split_ifs <;> rfl

lemma dispatch_of_bound_cons {input : Input} {issue : Issue} {issues : List Issue}
    (hc : app.command c = (structured c).toCommand)
    (h : (structured c).grammar.bind line = .bound input (issue :: issues)) :
    dispatch app engine races t line (c :: commands) =
      program engine races ((structured c).explain input (issue :: issues)) := by
  have hanswer : (app.command c).canHandle line =
      ((structured c).explain input (issue :: issues)).bind fun _ => .done .invalid := by
    rw [hc]
    exact Structured.canHandle_of_bound_cons h
  rw [dispatch]
  simp only [hanswer, program_bind, program_done, bind_assoc, pure_bind]
  exact bind_pure_unit

/-- Offering a line to commands with a grammar does just what its reception asks for. -/
theorem dispatch_eq_run_reception
    (hstructured : ∀ c ∈ commands, app.command c = (structured c).toCommand) (shell : Shell S)
    (hshell : shell.commands = commands) :
    dispatch app engine races t line commands shell =
      (shell.reception structured line).run structured engine races t line shell := by
  rw [Shell.reception, hshell]
  clear hshell
  induction commands with
  | nil => rfl
  | cons c commands ih =>
    obtain ⟨hc, hcommands⟩ := List.forall_mem_cons.mp hstructured
    cases hbind : (structured c).grammar.bind line with
    | mismatch name =>
      rw [dispatch_of_mismatch hc hbind, ih hcommands, claimant?, claimant?,
        List.findSome?_cons, hbind]
    | bound input issues =>
      have hclaimant : claimant? structured line (c :: commands) = some (c, input, issues) := by
        rw [claimant?, List.findSome?_cons, hbind]
      rw [hclaimant]
      cases issues with
      | nil =>
        rw [dispatch_of_bound_nil hc hbind]
        dsimp only
        by_cases haccepts : (structured c).accepts shell input
        · rw [if_pos haccepts]
          exact congrFun (if_pos haccepts) shell
        · rw [if_neg haccepts]
          exact congrFun (if_neg haccepts) shell
      | cons issue issues =>
        rw [dispatch_of_bound_cons hc hbind]
        rfl

end Run

end LineShell
