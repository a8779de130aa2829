import LineShell.Proofs.Cancellation.Quiet
import LineShell.Proofs.Shell.Display
import LineShell.Shell.Loop

/-!
# Runs on calm shells

A shell is calm where nothing goes wrong unless a program fails: its console refuses nothing and no
token is cancelled. What can be told of a shell from outside is its view: all of it but the tokens,
the record of outputs, what is still in the queue, and the program that keeps the mode of the
terminal. Many runs on calm shells are functions of the view, and leave the queue alone and the
shell calm (`Run.Does`). They are the effects that give no way, edits, and whatever is put together
from these.
-/

namespace LineShell

variable {S : Signature} {α β : Type}

/-- The console without its record and its queue. -/
def Console.view (c : Console) : Console :=
  { c with record := [], queue := [] }

lemma Console.display_view (c : Console) (os : List Output) :
    c.view.display os = (c.display os).view := by
  induction os generalizing c with
  | nil => rfl
  | cons o os ih =>
    have hone : c.view.apply o = (c.apply o).view := by
      cases o <;> rfl
    rw [display_cons, hone, ih, display_cons]

namespace Shell

/-- Nothing goes wrong unless a program fails. -/
structure Calm (shell : Shell S) : Prop where
  refusals : shell.console.refusals = []
  quiet : shell.breaks.tokens.Quiet

/-- The shell without its tokens, its record of outputs, its queue and its mode program. -/
def view (shell : Shell S) : Shell S :=
  { shell.withConsole shell.console.view with breaks := {}, modeProgram := {} }

@[simp] lemma view_withRecord (shell : Shell S) (record : List Output) :
    (shell.withRecord record).view = shell.view := rfl

/-- What has come in does not show until it is read. -/
@[simp] lemma view_enqueue (shell : Shell S) (events : List Event) :
    (shell.withConsole (shell.console.enqueue events)).view = shell.view := rfl

/-- What is told by the view. -/
lemma eq_of_view_eq {shell shell' : Shell S} (h : shell.view = shell'.view) :
    shell.editor = shell'.editor ∧ shell.history = shell'.history ∧ shell.state = shell'.state ∧
      shell.exitRequested = shell'.exitRequested ∧
      shell.console.errors = shell'.console.errors ∧
      shell.console.screen = shell'.console.screen := by
  have heditor := congrArg Shell.editor h
  have hhistory := congrArg Shell.history h
  have hstate := congrArg Shell.state h
  have hexit := congrArg Shell.exitRequested h
  have herrors := congrArg (·.console.errors) h
  have hscreen := congrArg (·.console.screen) h
  exact ⟨heditor, hhistory, hstate, hexit, herrors, hscreen⟩

lemma Calm.isCancelled {shell : Shell S} (h : shell.Calm) (t : Token) :
    shell.isCancelled t = false :=
  h.quiet.isCancelled t

/-! ### What is shown -/

lemma view_display (shell : Shell S) (os : List Output) :
    (shell.display os).view = shell.view.display os := by
  have h := Console.display_view shell.console os
  show { shell.withConsole (shell.console.display os).view with
    breaks := {}, modeProgram := {} } = _
  rw [← h]
  rfl

lemma view_edited (shell : Shell S) (edit : Edit) :
    (shell.edited edit).view = shell.view.edited edit := by
  have h := Console.display_view shell.console (edit.outputs shell.editor)
  show { shell with
    breaks := {}
    modeProgram := {}
    terminal :=
      ⟨(shell.console.display (edit.outputs shell.editor)).view, edit.apply shell.editor⟩ } = _
  rw [← h]
  rfl

lemma Calm.display {shell : Shell S} (h : shell.Calm) (os : List Output) :
    (shell.display os).Calm :=
  ⟨(Console.refusals_display _ _).trans h.refusals, h.quiet⟩

lemma Calm.edited {shell : Shell S} (h : shell.Calm) (edit : Edit) : (shell.edited edit).Calm :=
  ⟨(refusals_edited shell edit).trans h.refusals, h.quiet⟩

end Shell

namespace Run

/-- A run ends as is said by a computation on views. It leaves the queue alone and the shell
calm. -/
inductive EndsAs (queue : List Event) :
    EStateM.Result Failure (Shell S) α → EStateM.Result Halt (Shell S) α → Prop
  | ok (a : α) {shell : Shell S} (hcalm : shell.Calm) (hqueue : shell.console.queue = queue) :
    EndsAs queue (.ok a shell.view) (.ok a shell)
  | error (f : Failure) {shell : Shell S} (hcalm : shell.Calm)
    (hqueue : shell.console.queue = queue) :
    EndsAs queue (.error f shell.view) (.error (.failure f) shell)

/-- On calm shells, the run does to the view what a computation does. -/
def Does (r : Run S α) (m : Attempt (Shell S) α) : Prop :=
  ∀ shell, shell.Calm → EndsAs shell.console.queue (m shell.view) (r shell)

lemma does_pure (a : α) : Does (pure a : Run S α) (pure a) :=
  fun _ h => .ok a h rfl

lemma does_fail (f : Failure) : Does (fail f : Run S α) (throw f) :=
  fun _ h => .error f h rfl

lemma Does.bind {r : Run S α} {m : Attempt (Shell S) α} {k : α → Run S β}
    {l : α → Attempt (Shell S) β} (h : Does r m) (hk : ∀ a, Does (k a) (l a)) :
    Does (r >>= k) (m >>= l) := by
  intro shell hcalm
  have hend := h shell hcalm
  show EndsAs _ (EStateM.bind m l shell.view) (EStateM.bind r k shell)
  rw [EStateM.bind, EStateM.bind]
  generalize m shell.view = x at hend
  generalize r shell = y at hend
  cases hend with
  | ok a hcalm' hqueue =>
    rw [← hqueue]
    exact hk a _ hcalm'
  | error f hcalm' hqueue => exact .error f hcalm' hqueue

/-- Looking at the shell is looking at its view. -/
lemma does_get_bind {k : Shell S → Run S α} {l : Shell S → Attempt (Shell S) α}
    (hview : ∀ shell, k shell = k shell.view) (h : ∀ shell, Does (k shell) (l shell)) :
    Does (get >>= k) (get >>= l) := by
  intro shell hcalm
  show EndsAs _ (l shell.view shell.view) (k shell shell)
  rw [hview]
  exact h shell.view shell hcalm

/-- A change of the shell, with the change of the view. -/
lemma does_modify {f g : Shell S → Shell S} (hview : ∀ shell, (f shell).view = g shell.view)
    (hcalm : ∀ shell, shell.Calm → (f shell).Calm)
    (hqueue : ∀ shell, (f shell).console.queue = shell.console.queue) :
    Does (modify f) (modify g) := by
  intro shell h
  have hend : EndsAs shell.console.queue (.ok PUnit.unit (f shell).view)
      (.ok PUnit.unit (f shell)) :=
    .ok _ (hcalm shell h) (hqueue shell)
  rw [hview] at hend
  exact hend

/-- One change after another. -/
lemma Does.andThen {r r' : Run S Unit} {f g : Shell S → Shell S} (h : Does r (modify f))
    (h' : Does r' (modify g)) : Does (r >>= fun _ => r') (modify (g ∘ f)) :=
  h.bind fun _ => h'

lemma does_id : Does (pure () : Run S Unit) (modify id) :=
  does_pure ()

/-- A change that leaves terminal and tokens alone. -/
lemma does_modify_of_terminal_eq (f : Shell S → Shell S)
    (hview : ∀ shell, (f shell).view = f shell.view)
    (hterminal : ∀ shell, (f shell).terminal = shell.terminal)
    (hbreaks : ∀ shell, (f shell).breaks = shell.breaks) : Does (modify f) (modify f) := by
  apply does_modify hview
  · intro shell hcalm
    constructor
    · rw [Shell.console, hterminal]
      exact hcalm.refusals
    · rw [hbreaks]
      exact hcalm.quiet
  · intro shell
    rw [Shell.console, hterminal]
    rfl

/-- A run that changes the shell and puts something on record, whatever that is. -/
lemma does_of_exists_record {r : Run S Unit} {f : Shell S → Shell S}
    (hrun : ∀ shell, shell.Calm → ∃ record, r shell = .ok () ((f shell).withRecord record))
    (hview : ∀ shell, (f shell).view = f shell.view)
    (hcalm : ∀ shell, shell.Calm → (f shell).Calm)
    (hqueue : ∀ shell, (f shell).console.queue = shell.console.queue) : Does r (modify f) := by
  intro shell h
  obtain ⟨record, heq⟩ := hrun shell h
  have hend : EndsAs shell.console.queue (.ok () ((f shell).withRecord record).view)
      (.ok () ((f shell).withRecord record)) :=
    .ok () ⟨(hcalm shell h).refusals, (hcalm shell h).quiet⟩ (hqueue shell)
  rw [Shell.view_withRecord, hview] at hend
  rw [heq]
  exact hend

lemma does_output (o : Output) : Does (output o : Run S Unit) (modify (·.display [o])) := by
  apply does_of_exists_record
  · intro shell h
    exact exists_output h.refusals shell.console.record o
  · intro shell
    exact Shell.view_display shell [o]
  · intro shell h
    exact h.display [o]
  · intro shell
    exact Console.queue_display shell.console [o]

lemma does_edit (edit : Edit) :
    Does (onTerminal edit.run : Run S Unit) (modify (·.edited edit)) := by
  apply does_of_exists_record
  · intro shell h
    exact exists_edit h.refusals shell.console.record edit
  · intro shell
    exact Shell.view_edited shell edit
  · intro shell h
    exact h.edited edit
  · intro shell
    exact Shell.queue_edited shell edit

end Run

/-! ### Plain programs -/

/-- What an effect does to the view of a shell, if that is all it does. To show or hide the caret is
left to edits. -/
def Effect.change? : Effect S → Option (Shell S → Shell S)
  | .output (.caretShown _) => none
  | .output o => some (·.display [o])
  | .setInput text => some (·.edited (.setInput text))
  | .record line => some fun shell => { shell with history := shell.history.add line }
  | .forgetHistory => some fun shell => { shell with history := shell.history.clear }
  | .requestExit => some fun shell => { shell with exitRequested := true }
  | .register c => some (·.register c)
  | .setState state => some fun shell => { shell with state }
  | _ => none

namespace Program

/-- The program looks at nothing but the view, and has no effects but on the view. -/
def IsPlain : Program S α → Prop
  | done _ => True
  | fail _ => True
  | look next => (∀ shell, next shell = next shell.view) ∧ ∀ shell, (next shell).IsPlain
  | act e next => e.change?.isSome ∧ next.IsPlain

/-- The program ends with a result whatever it looks at. -/
def Succeeds : Program S α → Prop
  | done _ => True
  | fail _ => False
  | look next => ∀ shell, (next shell).Succeeds
  | act _ next => next.Succeeds

/-- What a plain program comes to, and what it makes of a shell. -/
def outcome : Program S α → Attempt (Shell S) α
  | done a => pure a
  | fail f => throw f
  | look next => do (next (← get)).outcome
  | act e next => do
    modify (e.change?.getD id)
    next.outcome

/-- What a plain program makes of a shell. -/
def final (p : Program S α) (shell : Shell S) : Shell S :=
  match p.outcome shell with
  | .ok _ shell => shell
  | .error _ shell => shell

end Program

namespace Run

lemma does_effect (engine : Engine S) (races : List Token) {e : Effect S} {f : Shell S → Shell S}
    (h : e.change? = some f) : Does (effect engine races e) (modify f) := by
  cases e with
  | output o =>
    cases o with
    | caretShown shown => cases h
    | _ =>
      obtain rfl := Option.some.inj h
      exact does_output _
  | setInput text =>
    obtain rfl := Option.some.inj h
    exact does_edit (.setInput text)
  | record line | forgetHistory | requestExit | register c | setState s =>
    obtain rfl := Option.some.inj h
    exact does_modify_of_terminal_eq _ (fun _ => rfl) (fun _ => rfl) fun _ => rfl
  | _ => cases h

lemma does_program (engine : Engine S) (races : List Token) {p : Program S α} (h : p.IsPlain) :
    Does (program engine races p) p.outcome := by
  induction p with
  | done a => exact does_pure a
  | fail f => exact does_fail f
  | look next ih =>
    apply does_get_bind
    · intro shell
      exact congrArg (program engine races) (h.1 shell)
    · intro shell
      exact ih shell (h.2 shell)
  | act e next ih =>
    obtain ⟨he, hnext⟩ := h
    obtain ⟨f, hf⟩ := Option.isSome_iff_exists.mp he
    rw [Program.outcome, hf]
    exact (does_effect engine races hf).bind fun _ => ih hnext

lemma exists_outcome_eq {p : Program S α} (h : p.Succeeds) (shell : Shell S) :
    ∃ a, p.outcome shell = .ok a (p.final shell) := by
  have hok : ∃ a shell', p.outcome shell = .ok a shell' := by
    induction p generalizing shell with
    | done a => exact ⟨a, shell, rfl⟩
    | fail f => exact h.elim
    | look next ih => exact ih shell (h shell) shell
    | act e next ih => exact ih h (e.change?.getD id shell)
  obtain ⟨a, shell', heq⟩ := hok
  refine ⟨a, ?_⟩
  rw [Program.final, heq]

/-- A program that succeeds is a change of the shell. -/
lemma does_program_of_succeeds (engine : Engine S) (races : List Token) {p : Program S Unit}
    (h : p.IsPlain) (hok : p.Succeeds) : Does (program engine races p) (modify p.final) := by
  intro shell hcalm
  obtain ⟨⟨⟩, heq⟩ := exists_outcome_eq hok shell.view
  have hend := does_program engine races h shell hcalm
  rw [heq] at hend
  exact hend

end Run

/-! ### Small programs -/

namespace Program

lemma IsPlain.bind {p : Program S α} {k : α → Program S β} (h : p.IsPlain)
    (hk : ∀ a, (k a).IsPlain) : (p.bind k).IsPlain := by
  induction p with
  | done a => exact hk a
  | fail f => trivial
  | look next ih =>
    refine ⟨fun shell => ?_, fun shell => ih shell (h.2 shell)⟩
    exact congrArg (Program.bind · k) (h.1 shell)
  | act e next ih => exact ⟨h.1, ih h.2⟩

lemma Succeeds.bind {p : Program S α} {k : α → Program S β} (h : p.Succeeds)
    (hk : ∀ a, (k a).Succeeds) : (p.bind k).Succeeds := by
  induction p with
  | done a => exact hk a
  | fail f => exact h.elim
  | look next ih => exact fun shell => ih shell (h shell)
  | act e next ih => exact ih h

/-- Whatever such a program does keeps a property of the shell. -/
def Keeps (I : Shell S → Prop) : Program S α → Prop
  | done _ => True
  | fail _ => True
  | look next => ∀ shell, I shell → (next shell).Keeps I
  | act e next => (∀ shell, I shell → I (e.change?.getD id shell)) ∧ next.Keeps I

lemma Keeps.final {I : Shell S → Prop} {p : Program S α} (h : p.Keeps I) {shell : Shell S}
    (hshell : I shell) : I (p.final shell) := by
  induction p generalizing shell with
  | done a => exact hshell
  | fail f => exact hshell
  | look next ih => exact ih shell (h shell hshell) hshell
  | act e next ih => exact ih h.2 (h.1 shell hshell)

lemma Keeps.bind {I : Shell S → Prop} {p : Program S α} {k : α → Program S β} (h : p.Keeps I)
    (hk : ∀ a, (k a).Keeps I) : (p.bind k).Keeps I := by
  induction p with
  | done a => exact hk a
  | fail f => trivial
  | look next ih => exact fun shell hshell => ih shell (h shell hshell)
  | act e next ih => exact ⟨h.1, ih h.2⟩

/-- What plain effects keep, plain programs keep. -/
lemma IsPlain.keeps {I : Shell S → Prop} {p : Program S α} (h : p.IsPlain)
    (hI : ∀ {e : Effect S} {f : Shell S → Shell S} {shell : Shell S}, e.change? = some f →
      I shell → I (f shell)) : p.Keeps I := by
  induction p with
  | done a => trivial
  | fail f => trivial
  | look next ih => exact fun shell _ => ih shell (h.2 shell)
  | act e next ih =>
    obtain ⟨he, hnext⟩ := h
    obtain ⟨f, hf⟩ := Option.isSome_iff_exists.mp he
    refine ⟨fun shell hshell => ?_, ih hnext⟩
    rw [hf]
    exact hI hf hshell

lemma isPlain_perform {e : Effect S} (h : e.change?.isSome) : (perform e).IsPlain :=
  ⟨h, trivial⟩

lemma isPlain_writeLine (text : String) : (writeLine text : Program S Unit).IsPlain :=
  ⟨rfl, rfl, trivial⟩

lemma isPlain_writeLines (lines : List String) : (writeLines lines : Program S Unit).IsPlain := by
  induction lines with
  | nil => trivial
  | cons line lines ih => exact (isPlain_writeLine line).bind fun _ => ih

lemma isPlain_writeErrorLines (lines : List String) :
    (writeErrorLines lines : Program S Unit).IsPlain := by
  induction lines with
  | nil => trivial
  | cons line lines ih => exact ⟨rfl, ih⟩

lemma succeeds_writeErrorLines (lines : List String) :
    (writeErrorLines lines : Program S Unit).Succeeds := by
  induction lines with
  | nil => trivial
  | cons line lines ih => exact ih

lemma isPlain_writePrompt : (writePrompt : Program S Unit).IsPlain :=
  ⟨fun _ => rfl, fun _ => ⟨rfl, trivial⟩⟩

lemma succeeds_writePrompt : (writePrompt : Program S Unit).Succeeds :=
  fun _ => trivial

end Program

end LineShell
