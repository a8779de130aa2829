import LineShell.Proofs.Console.Display
import LineShell.Shell.Run

/-!
# What is shown on a console that refuses nothing

On such a console no output and no edit fails. What they make of the shell is said here in two
parts: what is shown (`Shell.display`, `Shell.edited`), and the record of the outputs
(`Shell.withRecord`), which no part of a shell ever looks at.
-/

namespace LineShell

variable {S : Signature}

namespace Shell

/-- The shell after some outputs, but for their record. -/
def display (shell : Shell S) (os : List Output) : Shell S :=
  shell.withConsole (shell.console.display os)

/-- The shell after an edit of the line, but for the record of what the edit puts out. -/
def edited (shell : Shell S) (edit : Edit) : Shell S :=
  { shell with terminal :=
      ⟨shell.console.display (edit.outputs shell.editor), edit.apply shell.editor⟩ }

/-- The shell with another record of the outputs. -/
def withRecord (shell : Shell S) (record : List Output) : Shell S :=
  shell.withConsole { shell.console with record }

@[simp] lemma editor_edited (shell : Shell S) (edit : Edit) :
    (shell.edited edit).editor = edit.apply shell.editor := rfl

@[simp] lemma state_edited (shell : Shell S) (edit : Edit) :
    (shell.edited edit).state = shell.state := rfl

@[simp] lemma ready_edited (shell : Shell S) (edit : Edit) :
    (shell.edited edit).ready = shell.ready := rfl

@[simp] lemma config_edited (shell : Shell S) (edit : Edit) :
    (shell.edited edit).config = shell.config := rfl

@[simp] lemma keys_edited (shell : Shell S) (edit : Edit) :
    (shell.edited edit).keys = shell.keys := rfl

@[simp] lemma exitRequested_edited (shell : Shell S) (edit : Edit) :
    (shell.edited edit).exitRequested = shell.exitRequested := rfl

@[simp] lemma refusals_withRecord (shell : Shell S) (record : List Output) :
    (shell.withRecord record).console.refusals = shell.console.refusals := rfl

@[simp] lemma refusals_edited (shell : Shell S) (edit : Edit) :
    (shell.edited edit).console.refusals = shell.console.refusals :=
  Console.refusals_display shell.console _

@[simp] lemma queue_edited (shell : Shell S) (edit : Edit) :
    (shell.edited edit).console.queue = shell.console.queue :=
  Console.queue_display shell.console _

lemma display_withRecord (shell : Shell S) (record os : List Output) :
    (shell.withRecord record).display os = (shell.display os).withRecord record := by
  have hdisplay := Console.display_withRecord shell.console record os
  exact congrArg shell.withConsole hdisplay

lemma edited_withRecord (shell : Shell S) (record : List Output) (edit : Edit) :
    (shell.withRecord record).edited edit = (shell.edited edit).withRecord record := by
  have hdisplay := Console.display_withRecord shell.console record (edit.outputs shell.editor)
  show { shell with terminal := ⟨_, _⟩ } = { shell with terminal := ⟨_, _⟩ }
  exact congrArg (fun c => { shell with terminal := ⟨c, edit.apply shell.editor⟩ }) hdisplay

end Shell

/-! ### Runs -/

namespace Run

variable {α : Type} {shell shell' : Shell S}

lemma bind_of_ok {β : Type} {r : Run S β} {b : β} (h : r shell = .ok b shell') (f : β → Run S α) :
    (r >>= f) shell = f b shell' := by
  show EStateM.bind r f shell = _
  rw [EStateM.bind, h]

lemma run_of_ok {r : Run S α} {a : α} (h : r shell = .ok a shell') : r.run' shell = some a := by
  delta EStateM.run' EStateM.run
  rw [h]

lemma exists_of_run_eq_some {r : Run S α} {a : α} (h : r.run' shell = some a) :
    ∃ shell', r shell = .ok a shell' := by
  delta EStateM.run' EStateM.run at h
  cases hrun : r shell with
  | ok b shell' =>
    rw [hrun] at h
    exact ⟨shell', congrArg (EStateM.Result.ok · shell') (Option.some.inj h)⟩
  | error halt shell' =>
    rw [hrun] at h
    exact absurd h nofun

lemma output_eq (h : shell.console.refusals = []) (o : Output) :
    output o shell =
      .ok () ((shell.display [o]).withRecord (o :: shell.console.record)) := by
  have hout : Terminal.output o shell.terminal = _ := Terminal.output_eq h o
  rw [Console.puts_eq_display] at hout
  simp only [output, onTerminal, hout]
  rfl

lemma edit_eq (h : shell.console.refusals = []) (edit : Edit) :
    onTerminal edit.run shell = .ok () ((shell.edited edit).withRecord
      ((edit.outputs shell.editor).reverse ++ shell.console.record)) := by
  have hrun : edit.run shell.terminal = _ := Edit.run_eq h edit
  rw [Console.puts_eq_display] at hrun
  simp only [onTerminal, hrun]
  rfl

/-- An output does not fail. -/
lemma exists_output (h : shell.console.refusals = []) (record : List Output) (o : Output) :
    ∃ record', output o (shell.withRecord record) =
      .ok () ((shell.display [o]).withRecord record') := by
  have hshell : (shell.withRecord record).console.refusals = [] := h
  refine ⟨o :: record, ?_⟩
  rw [output_eq hshell, Shell.display_withRecord]
  rfl

/-- An edit does not fail. -/
lemma exists_edit (h : shell.console.refusals = []) (record : List Output) (edit : Edit) :
    ∃ record', onTerminal edit.run (shell.withRecord record) =
      .ok () ((shell.edited edit).withRecord record') := by
  have hshell : (shell.withRecord record).console.refusals = [] := h
  refine ⟨(edit.outputs shell.editor).reverse ++ record, ?_⟩
  rw [edit_eq hshell, Shell.edited_withRecord]
  rfl

end Run

end LineShell
