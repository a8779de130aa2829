import LineShell.Proofs.Shell.Reception

/-!
# Runs that do not look at the registry

Two registries may hold commands in another order and still give every line to the same command. As
long as what is run looks at the registry in no other way than by submitting lines, it cannot tell
one from the other: it ends alike on shells that differ in nothing but such registries. `Respects`
says so of a run. It holds of each effect and goes through sequences and races, and so it holds of
whole programs and, by way of the levels of an engine, of submitting a line.
-/

namespace LineShell

variable {S : Signature}

/-! ### Programs and hooks -/

/-- The shell with other commands registered. -/
def Shell.withCommands (shell : Shell S) (commands : List S.Command) : Shell S :=
  { shell with commands }

/-- The program does not look at the registered commands. What it registers is of some kind. -/
def Program.IgnoresRegistry {α : Type} (kind : S.Command → Prop) : Program S α → Prop
  | .done _ => True
  | .fail _ => True
  | .look next =>
    (∀ shell commands, next (shell.withCommands commands) = next shell) ∧
      ∀ shell, (next shell).IgnoresRegistry kind
  | .act e next => (∀ c, e = .register c → kind c) ∧ next.IgnoresRegistry kind

/-- All commands of a kind have a grammar, and what they say about lines does not depend on the
registered commands. -/
structure Application.HooksIgnoreRegistry (app : Application S)
    (structured : S.Command → Structured S) (kind : S.Command → Prop) : Prop where
  command_eq : ∀ c, kind c → app.command c = (structured c).toCommand
  accepts_eq : ∀ c, kind c → ∀ shell commands input,
    (structured c).accepts (Shell.withCommands shell commands) input =
      (structured c).accepts shell input
  details_eq : ∀ c, kind c → ∀ shell commands input,
    (structured c).details (Shell.withCommands shell commands) input =
      (structured c).details shell input

/-- Neither what runs for commands of a kind nor what is done when the shell is ready looks at the
registered commands. -/
structure Application.WorkIgnoresRegistry (app : Application S)
    (structured : S.Command → Structured S) (kind : S.Command → Prop) : Prop where
  execute : ∀ c, kind c → ∀ input t, ((structured c).execute input t).IgnoresRegistry kind
  announce : app.announce.IgnoresRegistry kind

/-! ### Shells that agree -/

/-- Two shells differ at most in what commands they hold, and in either of them every line is meant
for the same command. -/
structure Shell.Agrees (structured : S.Command → Structured S) (kind : S.Command → Prop)
    (shell shell' : Shell S) : Prop where
  eq_withCommands : shell' = shell.withCommands shell'.commands
  of_kind : ∀ c ∈ shell.commands, kind c
  of_kind' : ∀ c ∈ shell'.commands, kind c
  claimant?_eq : ∀ line,
    claimant? structured line shell.commands = claimant? structured line shell'.commands

/-- Two runs end in the same way, in shells that agree. -/
inductive Run.EndAlike (structured : S.Command → Structured S) (kind : S.Command → Prop)
    {α : Type} : EStateM.Result Halt (Shell S) α → EStateM.Result Halt (Shell S) α → Prop
  | ok (a : α) {shell shell' : Shell S} (h : shell.Agrees structured kind shell') :
    EndAlike structured kind (.ok a shell) (.ok a shell')
  | error (halt : Halt) {shell shell' : Shell S} (h : shell.Agrees structured kind shell') :
    EndAlike structured kind (.error halt shell) (.error halt shell')

/-- The run ends alike in shells that agree. -/
def Run.Respects (structured : S.Command → Structured S) (kind : S.Command → Prop) {α : Type}
    (r : Run S α) : Prop :=
  ∀ shell shell', Shell.Agrees structured kind shell shell' →
    Run.EndAlike structured kind (r shell) (r shell')

section

variable {structured : S.Command → Structured S} {kind : S.Command → Prop}

lemma claimant?_append (line : Line) (xs ys : List S.Command) :
    claimant? structured line (xs ++ ys) =
      (claimant? structured line xs).or (claimant? structured line ys) := by
  rw [claimant?, List.findSome?_append]
  rfl

namespace Shell.Agrees

variable {shell shell' : Shell S}

/-- A change that leaves the registry alone keeps shells in agreement. -/
lemma change (h : shell.Agrees structured kind shell') {f : Shell S → Shell S}
    (hf : ∀ shell commands, f (shell.withCommands commands) = (f shell).withCommands commands) :
    (f shell).Agrees structured kind (f shell') := by
  have hkeep : ∀ shell, (f shell).commands = shell.commands := by
    intro shell
    have hself : f shell = (f shell).withCommands shell.commands := hf shell shell.commands
    rw [hself]
    rfl
  constructor
  · rw [hkeep, h.eq_withCommands, hf]
    rfl
  · rw [hkeep]
    exact h.of_kind
  · rw [hkeep]
    exact h.of_kind'
  · intro line
    rw [hkeep, hkeep]
    exact h.claimant?_eq line

/-- A command that comes last in both registries keeps shells in agreement. -/
lemma register (h : shell.Agrees structured kind shell') {c : S.Command} (hc : kind c) :
    (shell.register c).Agrees structured kind (shell'.register c) := by
  have hlast : ∀ commands : List S.Command, (∀ d ∈ commands, kind d) →
      ∀ d ∈ commands ++ [c], kind d := by
    intro commands hcommands d hd
    rcases List.mem_append.mp hd with hd | hd
    · exact hcommands d hd
    · rw [List.mem_singleton.mp hd]
      exact hc
  constructor
  · rw [h.eq_withCommands]
    rfl
  · exact hlast _ h.of_kind
  · exact hlast _ h.of_kind'
  · intro line
    simp only [Shell.register, claimant?_append, h.claimant?_eq line]

end Shell.Agrees

namespace Run

variable {α β : Type}

/-! ### Runs that respect agreement -/

lemma respects_pure (a : α) : Respects structured kind (pure a : Run S α) := by
  intro shell shell' h
  exact .ok a h

lemma respects_throw (halt : Halt) : Respects structured kind (throw halt : Run S α) := by
  intro shell shell' h
  exact .error halt h

lemma Respects.bind {r : Run S α} {f : α → Run S β} (hr : Respects structured kind r)
    (hf : ∀ a, Respects structured kind (f a)) : Respects structured kind (r >>= f) := by
  intro shell shell' h
  have hfirst := hr shell shell' h
  show EndAlike structured kind (EStateM.bind r f shell) (EStateM.bind r f shell')
  unfold EStateM.bind
  cases hs : r shell with
  | ok a next =>
    rw [hs] at hfirst
    cases hs' : r shell' with
    | ok a' next' =>
      rw [hs'] at hfirst
      cases hfirst with
      | ok _ hnext => exact hf a next next' hnext
    | error halt next' =>
      rw [hs'] at hfirst
      cases hfirst
  | error halt next =>
    rw [hs] at hfirst
    cases hs' : r shell' with
    | ok a' next' =>
      rw [hs'] at hfirst
      cases hfirst
    | error halt' next' =>
      rw [hs'] at hfirst
      cases hfirst with
      | error _ hnext => exact .error halt hnext

lemma respects_modify {f : Shell S → Shell S}
    (hf : ∀ shell commands, f (shell.withCommands commands) = (f shell).withCommands commands) :
    Respects structured kind (modify f : Run S Unit) := by
  intro shell shell' h
  exact .ok () (h.change hf)

/-- A run that looks at the shell, but not at its registry. -/
lemma respects_get_bind {f : Shell S → Run S α}
    (hf : ∀ shell commands, f (shell.withCommands commands) = f shell)
    (hr : ∀ shell, Respects structured kind (f shell)) :
    Respects structured kind (get >>= f) := by
  intro shell shell' h
  have heq : f shell' = f shell := by
    rw [h.eq_withCommands]
    exact hf shell shell'.commands
  show EndAlike structured kind (f shell shell) (f shell' shell')
  rw [heq]
  exact hr shell shell shell' h

lemma respects_onTerminal (a : Attempt Terminal α) :
    Respects structured kind (onTerminal a : Run S α) := by
  intro shell shell' h
  have hterminal : shell'.terminal = shell.terminal := by
    rw [h.eq_withCommands]
    rfl
  unfold onTerminal
  rw [hterminal]
  cases a shell.terminal with
  | ok value t => exact .ok value (h.change (f := fun shell => { shell with terminal := t })
      fun _ _ => rfl)
  | error f t => exact .error (.failure f) (h.change
      (f := fun shell => { shell with terminal := t }) fun _ _ => rfl)

lemma respects_output (o : Output) : Respects structured kind (output o : Run S Unit) :=
  respects_onTerminal _

lemma respects_writeLine (text : String) :
    Respects structured kind (writeLine text : Run S Unit) := by
  unfold writeLine
  apply Respects.bind (respects_output _)
  intro _
  exact respects_output _

lemma respects_noticeInterrupt : Respects structured kind (noticeInterrupt : Run S Unit) := by
  apply respects_modify
  intro shell commands
  show (if shell.interrupted then _ else _) = _
  by_cases h : shell.interrupted
  · rw [if_pos h, if_pos h]
    rfl
  · rw [if_neg h, if_neg h]

lemma respects_giveWay (races : List Token) :
    Respects structured kind (giveWay races : Run S Unit) := by
  unfold giveWay
  apply Respects.bind respects_noticeInterrupt
  intro _
  apply respects_get_bind
  · intro shell commands
    rfl
  · intro shell
    cases races.find? shell.isCancelled with
    | none => exact respects_pure ()
    | some t => exact respects_throw _

lemma respects_await (races : List Token) (t : Token) :
    Respects structured kind (await races t : Run S Unit) := by
  unfold await
  apply respects_get_bind
  · intro shell commands
    rfl
  · intro shell
    by_cases h : shell.isCancelled t
    · simp only [h, if_true]
      exact respects_pure ()
    · simp only [h]
      apply Respects.bind (respects_giveWay races)
      intro _
      apply respects_get_bind
      · intro shell commands
        rfl
      · intro shell
        by_cases h : shell.isCancelled t
        · simp only [h]
          exact respects_pure ()
        · simp only [h]
          exact respects_throw _

/-- A race is won or lost alike if what runs in it ends alike. -/
lemma respects_race {races : List Token} {t : Token} {body : List Token → Run S Unit}
    (hbody : ∀ races, Respects structured kind (body races)) :
    Respects structured kind (race races t body) := by
  intro shell shell' h
  have hcancelled : shell'.isCancelled t = shell.isCancelled t := by
    rw [h.eq_withCommands]
    rfl
  have hend := hbody (races ++ [t]) shell shell' h
  unfold race
  rw [hcancelled]
  by_cases hc : shell.isCancelled t
  · rw [if_pos hc, if_pos hc]
    exact .ok _ h
  · rw [if_neg hc, if_neg hc]
    generalize body (races ++ [t]) shell = first at hend ⊢
    generalize body (races ++ [t]) shell' = second at hend ⊢
    cases hend with
    | ok a hnext => exact .ok _ hnext
    | error halt hnext =>
      cases halt with
      | failure f => exact .ok _ hnext
      | aborted u =>
        dsimp only
        by_cases hu : u = t
        · rw [if_pos hu, if_pos hu]
          exact .ok _ hnext
        · rw [if_neg hu, if_neg hu]
          exact .error _ hnext
      | stuck => exact .error _ hnext

lemma respects_report (outcome : Except Failure Unit) :
    Respects structured kind (report outcome : Run S Unit) := by
  unfold report
  split
  · exact respects_pure ()
  · exact respects_output _
  · exact respects_output _

end Run

/-! ### Programs -/

namespace Program

variable {α β : Type}

lemma IgnoresRegistry.bind {p : Program S α} {f : α → Program S β} (hp : p.IgnoresRegistry kind)
    (hf : ∀ a, (f a).IgnoresRegistry kind) : (p.bind f).IgnoresRegistry kind := by
  induction p with
  | done a => exact hf a
  | fail e => trivial
  | look next ih =>
    obtain ⟨hlook, hnext⟩ := hp
    constructor
    · intro shell commands
      simp only [hlook]
    · intro shell
      exact ih shell (hnext shell)
  | act e next ih => exact ⟨hp.1, ih hp.2⟩

lemma ignoresRegistry_perform {e : Effect S} (he : ∀ c, e ≠ .register c) :
    (perform e).IgnoresRegistry kind :=
  ⟨fun c hc => absurd hc (he c), trivial⟩

lemma ignoresRegistry_writeLine (text : String) :
    (writeLine text : Program S Unit).IgnoresRegistry kind :=
  ⟨nofun, ignoresRegistry_perform nofun⟩

lemma ignoresRegistry_writeLines (lines : List String) :
    (writeLines lines : Program S Unit).IgnoresRegistry kind := by
  induction lines with
  | nil => trivial
  | cons line lines ih => exact (ignoresRegistry_writeLine line).bind fun _ => ih

lemma ignoresRegistry_writePrompt : (writePrompt : Program S Unit).IgnoresRegistry kind :=
  ⟨fun _ _ => rfl, fun _ => ignoresRegistry_perform nofun⟩

end Program

/-- An engine does nothing that tells shells apart that agree. -/
structure Engine.Respects (structured : S.Command → Structured S) (kind : S.Command → Prop)
    (engine : Engine S) : Prop where
  submit : ∀ races t, Run.Respects structured kind (engine.submit races t)
  signalReady : ∀ races, Run.Respects structured kind (engine.signalReady races)

namespace Run

variable {α β : Type} {engine : Engine S} {races : List Token} {t : Token} {line : Line}

lemma respects_effect (hengine : engine.Respects structured kind) {e : Effect S}
    (he : ∀ c, e = .register c → kind c) : Respects structured kind (effect engine races e) := by
  cases e with
  | output o => exact respects_output o
  | setInput text => exact respects_onTerminal _
  | record line => exact respects_modify fun _ _ => rfl
  | forgetHistory => exact respects_modify fun _ _ => rfl
  | signalReady => exact hengine.signalReady races
  | requestExit => exact respects_modify fun _ _ => rfl
  | submit t => exact hengine.submit races t
  | pressBreak => exact respects_modify fun _ _ => rfl
  | interrupt =>
    apply Respects.bind (respects_giveWay races)
    intro _
    exact respects_modify fun _ _ => rfl
  | pause => exact respects_giveWay races
  | await t => exact respects_await races t
  | hang =>
    apply Respects.bind (respects_giveWay races)
    intro _
    exact respects_throw _
  | register c =>
    intro shell shell' h
    exact .ok () (h.register (he c rfl))
  | setState s => exact respects_modify fun _ _ => rfl

lemma respects_program (hengine : engine.Respects structured kind) {p : Program S α}
    (hp : p.IgnoresRegistry kind) : Respects structured kind (program engine races p) := by
  induction p with
  | done a => exact respects_pure a
  | fail f => exact respects_throw _
  | look next ih =>
    obtain ⟨hlook, hnext⟩ := hp
    rw [program_look]
    apply respects_get_bind
    · intro shell commands
      rw [hlook]
    · intro shell
      exact ih shell (hnext shell)
  | act e next ih =>
    obtain ⟨he, hnext⟩ := hp
    rw [program_act]
    apply Respects.bind (respects_effect hengine he)
    intro _
    exact ih hnext

/-- Lines for the error stream need no engine. -/
lemma respects_writeErrorLines (engine : Engine S) (lines : List String) :
    Respects structured kind (program engine races (Program.writeErrorLines lines)) := by
  induction lines with
  | nil => exact respects_pure ()
  | cons line lines ih =>
    rw [Program.writeErrorLines, program_act]
    apply Respects.bind (respects_output _)
    intro _
    exact ih

lemma respects_explain {app : Application S} (hhooks : app.HooksIgnoreRegistry structured kind)
    (engine : Engine S) {c : S.Command} (hc : kind c) (input : Input) (issues : List Issue) :
    Respects structured kind (program engine races ((structured c).explain input issues)) := by
  show Respects structured kind
    (program engine races ((Program.writeErrorLines (issues.map (·.message))).bind _))
  rw [program_bind]
  apply Respects.bind (respects_writeErrorLines engine _)
  intro _
  show Respects structured kind (program engine races (.look _))
  rw [program_look]
  apply respects_get_bind
  · intro shell commands
    simp only [Program.done_bind, hhooks.details_eq c hc]
  · intro shell
    rw [Program.done_bind]
    cases (structured c).details shell input with
    | none => exact respects_pure ()
    | some text =>
      apply Respects.bind (respects_output _)
      intro _
      exact respects_pure ()

lemma respects_executeCommand (hengine : engine.Respects structured kind) {command : Command S}
    (hcommand : ∀ child, (command.execute line child).IgnoresRegistry kind) :
    Respects structured kind (executeCommand engine races t command line) := by
  unfold executeCommand
  apply respects_get_bind
  · intro shell commands
    rfl
  · intro shell
    apply Respects.bind (respects_modify fun _ _ => rfl)
    intro _
    apply Respects.bind (respects_race fun _ => respects_program hengine (hcommand _))
    intro outcome
    apply Respects.bind (respects_modify fun _ _ => rfl)
    intro _
    exact respects_report outcome

/-! ### Lines -/

lemma kind_of_claimant? {commands : List S.Command} (hkind : ∀ c ∈ commands, kind c)
    {c : S.Command} {found : Input × List Issue}
    (h : claimant? structured line commands = some (c, found)) : kind c := by
  obtain ⟨d, hd, hbind⟩ := List.exists_of_findSome?_eq_some h
  cases hb : (structured d).grammar.bind line with
  | mismatch name =>
    rw [hb] at hbind
    cases hbind
  | bound input issues =>
    rw [hb] at hbind
    cases hbind
    exact hkind c hd

variable {app : Application S} {shell shell' : Shell S}

/-- In shells that agree, the same becomes of a line. -/
lemma reception_eq (hhooks : app.HooksIgnoreRegistry structured kind)
    (h : shell.Agrees structured kind shell') (line : Line) :
    shell'.reception structured line = shell.reception structured line := by
  rw [Shell.reception, Shell.reception, ← h.claimant?_eq line]
  cases hclaimant : claimant? structured line shell.commands with
  | none => rfl
  | some found =>
    obtain ⟨c, input, issues⟩ := found
    cases issues with
    | nil =>
      have hc := kind_of_claimant? h.of_kind hclaimant
      have haccepts : (structured c).accepts shell' input = (structured c).accepts shell input := by
        rw [h.eq_withCommands]
        exact hhooks.accepts_eq c hc shell shell'.commands input
      dsimp only
      rw [haccepts]
    | cons issue issues => rfl

/-- What the reception of a line asks for ends alike in shells that agree, if that is so of the
command that is run, should one be run. -/
lemma endAlike_run_reception (hhooks : app.HooksIgnoreRegistry structured kind)
    (h : shell.Agrees structured kind shell')
    (hwork : ∀ c input, shell.reception structured line = .accepted c input → kind c →
      Respects structured kind
        (executeCommand engine races t ((structured c).runningOn input) line)) :
    EndAlike structured kind
      ((shell.reception structured line).run structured engine races t line shell)
      ((shell.reception structured line).run structured engine races t line shell') := by
  cases hclaimant : claimant? structured line shell.commands with
  | none =>
    have hreception : shell.reception structured line = .unclaimed := by
      rw [Shell.reception, hclaimant]
    rw [hreception]
    exact respects_output _ shell shell' h
  | some found =>
    obtain ⟨c, input, issues⟩ := found
    have hc := kind_of_claimant? h.of_kind hclaimant
    cases issues with
    | nil =>
      by_cases haccepts : (structured c).accepts shell input
      · have hreception : shell.reception structured line = .accepted c input := by
          rw [Shell.reception, hclaimant]
          exact if_pos haccepts
        rw [hreception]
        exact hwork c input hreception hc shell shell' h
      · have hreception : shell.reception structured line = .declined c input := by
          rw [Shell.reception, hclaimant]
          exact if_neg haccepts
        rw [hreception]
        exact respects_pure () shell shell' h
    | cons issue issues =>
      have hreception : shell.reception structured line = .rejected c input (issue :: issues) := by
        rw [Shell.reception, hclaimant]
      rw [hreception]
      exact respects_explain hhooks engine hc input _ shell shell' h

/-- Offering a line to the registered commands ends alike in shells that agree. -/
lemma endAlike_dispatch (hhooks : app.HooksIgnoreRegistry structured kind)
    (h : shell.Agrees structured kind shell')
    (hwork : ∀ c input, shell.reception structured line = .accepted c input → kind c →
      Respects structured kind
        (executeCommand engine races t ((structured c).runningOn input) line)) :
    EndAlike structured kind (dispatch app engine races t line shell.commands shell)
      (dispatch app engine races t line shell'.commands shell') := by
  have hstructured : ∀ commands : List S.Command, (∀ c ∈ commands, kind c) →
      ∀ c ∈ commands, app.command c = (structured c).toCommand :=
    fun _ hkind c hc => hhooks.command_eq c (hkind c hc)
  rw [dispatch_eq_run_reception (hstructured _ h.of_kind) shell rfl,
    dispatch_eq_run_reception (hstructured _ h.of_kind') shell' rfl, reception_eq hhooks h]
  exact endAlike_run_reception hhooks h hwork

lemma respects_executeInput (hwork : app.WorkIgnoresRegistry structured kind)
    (hengine : engine.Respects structured kind) {c : S.Command} (hc : kind c) (input : Input) :
    Respects structured kind
      (executeCommand engine races t ((structured c).runningOn input) line) :=
  respects_executeCommand hengine fun child => hwork.execute c hc input child

lemma respects_signalReady (hwork : app.WorkIgnoresRegistry structured kind)
    (hengine : engine.Respects structured kind) (races : List Token) :
    Respects structured kind (signalReady app engine races) := by
  unfold signalReady
  apply respects_get_bind
  · intro shell commands
    rfl
  · intro shell
    by_cases h : shell.ready
    · simp only [h]
      exact respects_pure ()
    · simp only [h]
      apply Respects.bind (respects_modify fun _ _ => rfl)
      intro _
      exact respects_program hengine hwork.announce

lemma respects_submit (hhooks : app.HooksIgnoreRegistry structured kind)
    (hwork : app.WorkIgnoresRegistry structured kind) (hengine : engine.Respects structured kind)
    (races : List Token) (t : Token) :
    Respects structured kind (submit app engine races t) := by
  have hdispatch : ∀ line, Respects structured kind
      (get >>= fun shell : Shell S => dispatch app engine races t line shell.commands) := by
    intro line shell shell' h
    exact endAlike_dispatch hhooks h fun c input _ hc =>
      respects_executeInput hwork hengine hc input
  have hready : Respects structured kind (do
      if !(← get).ready then
        writeLine ""
        signalReady app engine races
      onTerminal Terminal.resetInput : Run S Unit) := by
    apply respects_get_bind
    · intro shell commands
      rfl
    · intro shell
      by_cases h : shell.ready
      · rw [if_neg (by simp [h])]
        exact respects_onTerminal _
      · rw [if_pos (by simp [h])]
        apply Respects.bind (respects_writeLine "")
        intro _
        apply Respects.bind (respects_signalReady hwork hengine races)
        intro _
        exact respects_onTerminal _
  unfold submit
  apply Respects.bind (respects_modify fun _ _ => rfl)
  intro _
  apply Respects.bind (respects_writeLine "")
  intro _
  apply respects_get_bind
  · intro shell commands
    rfl
  · intro shell
    dsimp only
    by_cases h : Text.allBlank shell.editor.text
    · simp only [h]
      exact hready
    · simp only [h]
      apply Respects.bind (respects_modify fun _ _ => rfl)
      intro _
      apply Respects.bind (hdispatch _)
      intro _
      exact hready

end Run

namespace Engine

variable {app : Application S}

lemma respects_ofLevels (hhooks : app.HooksIgnoreRegistry structured kind)
    (hwork : app.WorkIgnoresRegistry structured kind) (n : Nat) :
    (ofLevels app n).Respects structured kind := by
  induction n with
  | zero =>
    constructor
    · intro races t
      exact Run.respects_throw _
    · intro races
      apply Run.respects_get_bind
      · intro shell commands
        rfl
      · intro shell
        by_cases h : shell.ready
        · simp only [h]
          exact Run.respects_pure ()
        · simp only [h]
          exact Run.respects_throw _
  | succ n ih =>
    constructor
    · intro races t
      exact Run.respects_submit hhooks hwork ih races t
    · intro races
      exact Run.respects_signalReady hwork ih races

end Engine

end

end LineShell
