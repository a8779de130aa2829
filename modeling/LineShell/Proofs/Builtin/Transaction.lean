import LineShell.Proofs.Binding.Issues
import LineShell.Proofs.Builtin.Plain
import LineShell.Proofs.Builtin.Variables
import LineShell.Proofs.Shell.ErrorStream
import LineShell.Proofs.Shell.Order

/-!
# Lines as transactions on variables

A line for the built-in shell changes at most one variable, and none if anything is wrong with it
(`line_transacts`): the line may be for no command, there may be issues, the command may fail, be
cancelled, or not come to be run. Only `set` changes variables, and it does so last.
-/

namespace LineShell.Builtin

/-! ### What a line asks for -/

/-- What a line with which nothing is wrong makes of the variables. -/
def Transacts (line : Line) (before after : Variables) : Prop :=
  match (grammar .set).bind line with
  | .mismatch _ => after = before
  | .bound input _ =>
    match input.hasOption "delete", input.argumentValues with
    | false, [name, value] =>
      ∀ n, after.get? n = if n = name then some (before.expand value) else before.get? n
    | true, [name] =>
      (before.get? name).isSome ∧ ∀ n, after.get? n = if n = name then none else before.get? n
    | _, _ => after = before

/-- What a line makes of the variables if these lines are written to the error stream meanwhile. -/
structure Transacted (line : Line) (before : Variables) (written : List String)
    (after : Variables) : Prop where
  unchanged : written ≠ [] → after = before
  changed : written = [] → Transacts line before after
  ordered : before.Ordered → after.Ordered

variable {line : Line} {vars after : Variables} {written errors : List String} {input : Input}
  {works : Prop} {shell : Shell signature} {engine : Engine signature} {races : List Token}
  {t : Token}

lemma Transacts.transacted (h : Transacts line vars after)
    (hordered : vars.Ordered → after.Ordered) : Transacted line vars [] after :=
  ⟨fun hne => absurd rfl hne, fun _ => h, hordered⟩

/-- Where something is written, nothing is changed. -/
lemma transacted_of_ne_nil (h : written ≠ []) : Transacted line vars written vars :=
  ⟨fun _ => rfl, fun hnil => absurd hnil h, id⟩

lemma transacts_of_isMismatch (h : ((grammar .set).bind line).isMismatch) :
    Transacts line vars vars := by
  rw [Transacts]
  cases hbind : (grammar .set).bind line with
  | mismatch name => rfl
  | bound input issues =>
    rw [hbind] at h
    cases h

/-! ### Commands that leave the variables alone -/

lemma isSilent_writeLine (text : String) :
    (Program.writeLine text : Program signature Unit).Only Effect.IsSilent :=
  ⟨trivial, trivial, trivial⟩

lemma isSilent_writeLines (lines : List String) :
    (Program.writeLines lines : Program signature Unit).Only Effect.IsSilent := by
  induction lines with
  | nil => trivial
  | cons line lines ih => exact ⟨trivial, trivial, ih⟩

lemma isSilent_execute {c : Builtin} (hc : c ≠ .set) (input : Input) (child : Token) :
    (c.structured.execute input child).Only Effect.IsSilent := by
  cases c with
  | set => exact absurd rfl hc
  | echo => exact fun shell => isSilent_writeLine _
  | clear | exit => exact ⟨trivial, trivial⟩
  | history =>
    show (runHistory input).Only Effect.IsSilent
    rw [runHistory]
    split
    · exact ⟨trivial, trivial⟩
    · exact fun shell => isSilent_writeLines _
  | help =>
    intro shell
    dsimp only
    split
    · exact isSilent_writeLines _
    · split
      · exact isSilent_writeLine _
      · trivial

/-- No line is for two of the commands. -/
lemma isMismatch_of_bound {c d : Builtin} (hne : d ≠ c) {issues : List Issue}
    (h : c.grammar.bind line = .bound input issues) : (d.grammar.bind line).isMismatch := by
  have hapart : Grammar.ambiguities [d.grammar] c.grammar = [] := by
    revert hne
    cases c <;> cases d <;> decide +kernel
  refine (Grammar.mismatch_of_ambiguities_eq_nil hapart line).resolve_right ?_
  rw [h]
  exact Bool.false_ne_true

/-! ### The command that changes them -/

lemma length_argumentValues_le (hbind : (grammar .set).bind line = .bound input []) :
    input.argumentValues.length ≤ 2 := by
  have hissues := Grammar.issues_of_bind_eq_bound hbind
  have hcount := (List.append_eq_nil_iff.mp hissues.symm).2
  rw [Input.argumentValues, List.length_map]
  exact (Grammar.argumentsIssues_eq_nil_iff.mp hcount).2

/-- The variables are as the line makes them, and nothing was written to the error stream. -/
def Settled (line : Line) (vars : Variables) (errors : List String) (works : Prop)
    (shell : Shell signature) : Prop :=
  ∃ after, Transacted line vars [] after ∧ shell.Stands after errors works

/-- The program makes of the variables what the line asks for, or fails and changes nothing. -/
def Fulfils (line : Line) (vars : Variables) (p : Program signature Unit) : Prop :=
  ∀ ⦃errors works shell⦄, shell.Stands vars errors works → ∀ engine races,
    Finishes (Settled line vars errors works)
      (fun shell => ∃ written, shell.Stands vars (errors ++ written) works)
      (Run.program engine races p shell)

lemma fulfils_fail (f : Failure) : Fulfils line vars (.fail f) := fun errors _ _ h _ _ =>
  .failure f ⟨[], (List.append_nil errors).symm ▸ h⟩

lemma fulfils_setState (hafter : Transacts line vars after)
    (hordered : vars.Ordered → after.Ordered) :
    Fulfils line vars (.perform (.setState after)) := fun _ _ _ h _ _ =>
  .ok () ⟨after, hafter.transacted hordered, rfl, h.errors_eq, h.refusals⟩

/-- A program that leaves the variables alone, on a line that asks for that. -/
lemma fulfils_of_isSilent {p : Program signature Unit} (hp : p.Only Effect.IsSilent)
    (hvars : Transacts line vars vars) : Fulfils line vars p := by
  intro errors works shell h engine races
  refine (Run.finishes_program hp h engine races).imp
    (fun _ h => ⟨vars, hvars.transacted id, h⟩) fun _ hend => ⟨[], ?_⟩
  rw [List.append_nil]
  exact hend.elim And.left And.left

/-- What the line asks for is told by the option and the arguments. -/
lemma transacts_iff {issues : List Issue} (hbind : (grammar .set).bind line = .bound input issues) :
    Transacts line vars after ↔
      match input.hasOption "delete", input.argumentValues with
      | false, [name, value] =>
        ∀ n, after.get? n = if n = name then some (vars.expand value) else vars.get? n
      | true, [name] =>
        (vars.get? name).isSome ∧ ∀ n, after.get? n = if n = name then none else vars.get? n
      | _, _ => after = vars := by
  rw [Transacts, hbind]

lemma fulfils_runDelete {issues : List Issue}
    (hbind : (grammar .set).bind line = .bound input issues)
    (hdelete : input.hasOption "delete" = true) :
    Fulfils line vars (runDelete vars (input.argument? 0) (input.argument? 1)) := by
  rw [Input.argument?, Input.argument?]
  rcases hvalues : input.argumentValues with _ | ⟨name, _ | ⟨value, rest⟩⟩
  · exact fulfils_fail _
  · show Fulfils line vars (if (vars.get? name).isSome then .perform (.setState (vars.erase name))
      else unknownVariable name)
    split_ifs with hthere
    · refine fulfils_setState ?_ fun h => h.erase name
      rw [transacts_iff hbind, hdelete, hvalues]
      exact ⟨hthere, vars.get?_erase name⟩
    · exact fulfils_fail _
  · exact fulfils_fail _

lemma fulfils_runAssign (hbind : (grammar .set).bind line = .bound input [])
    (hdelete : input.hasOption "delete" = false) :
    Fulfils line vars (runAssign vars (input.argument? 0) (input.argument? 1)) := by
  have hlength := length_argumentValues_le hbind
  rw [Input.argument?, Input.argument?]
  rcases hvalues : input.argumentValues with _ | ⟨name, _ | ⟨value, _ | ⟨next, rest⟩⟩⟩
  · apply fulfils_of_isSilent (isSilent_writeLines _)
    rw [transacts_iff hbind, hdelete, hvalues]
  · show Fulfils line vars (runAssign vars (some name) none)
    rw [runAssign]
    cases vars.get? name with
    | some value =>
      apply fulfils_of_isSilent (isSilent_writeLine value)
      rw [transacts_iff hbind, hdelete, hvalues]
    | none => exact fulfils_fail _
  · refine fulfils_setState ?_ fun h => h.insert name _
    rw [transacts_iff hbind, hdelete, hvalues]
    exact vars.get?_insert name _
  · rw [hvalues] at hlength
    simp at hlength

/-- What is run on a line without issues fulfils what the line asks for, if only because the line is
not for `set`. -/
lemma fulfils_execute {c : Builtin} (hbind : c.grammar.bind line = .bound input [])
    {errors : List String} {works : Prop} {shell : Shell signature}
    (h : shell.Stands vars errors works) (engine : Engine signature) (races : List Token)
    (child : Token) :
    Finishes (Settled line vars errors works)
      (fun shell => ∃ written, shell.Stands vars (errors ++ written) works)
      (Run.program engine races (c.structured.execute input child) shell) := by
  by_cases hc : c = .set
  · subst hc
    show Finishes _ _ (Run.program engine races (if input.hasOption "delete" then
      runDelete shell.state (input.argument? 0) (input.argument? 1)
      else runAssign shell.state (input.argument? 0) (input.argument? 1)) shell)
    rw [h.state_eq]
    split_ifs with hdelete
    · exact fulfils_runDelete hbind hdelete h engine races
    · exact fulfils_runAssign hbind (Bool.eq_false_iff.mpr hdelete) h engine races
  · apply fulfils_of_isSilent (isSilent_execute hc input child) ?_ h
    exact transacts_of_isMismatch (isMismatch_of_bound (Ne.symm hc) hbind)

/-! ### Every line -/

lemma finishes_reception (h : shell.Stands vars errors works) :
    Finishes (Shell.Told (fun after shown => ∃ written, shown = errors ++ written ∧
        Transacted line vars written after) works)
      (Shell.BrokeOff vars errors works)
      ((shell.reception structured line).run structured engine races t line shell) := by
  have hcomplaint : ∀ {shell : Shell signature} {written : List String}, written ≠ [] →
      shell.Stands vars (errors ++ written) works →
      shell.Told (fun after shown => ∃ written, shown = errors ++ written ∧
        Transacted line vars written after) works :=
    fun hne h => ⟨_, _, ⟨_, rfl, transacted_of_ne_nil hne⟩, h⟩
  rcases Shell.reception_cases structured shell line with ⟨-, hreception⟩ |
    ⟨c, input, issues, hclaimant, ⟨hissues, hreception⟩ | ⟨-, haccepts, -⟩ | ⟨rfl, -, hreception⟩⟩
  · rw [hreception]
    exact (Run.finishes_output h _).imp (fun _ h => hcomplaint (List.cons_ne_nil _ _) h.1)
      fun _ h => h.brokeOff
  · rw [hreception]
    refine (Run.finishes_explain h engine races c.structured input issues).imp
      (fun _ ⟨more, h⟩ => hcomplaint ?_ h) fun _ h => h
    simp [hissues]
  · cases haccepts
  · obtain ⟨-, -, -, -, hbind⟩ := claimant?_eq_some_iff.mp hclaimant
    rw [hreception]
    refine (Run.finishes_executeCommand (I := Settled line vars errors works) ?_
      (fun races child shell h => fulfils_execute hbind h engine races child) h).imp
      (fun _ hend => ?_) fun _ h => h
    · rintro shell tokens ⟨after, hafter, h⟩
      exact ⟨after, hafter, h.withTokens tokens⟩
    · rcases hend with ⟨after, hafter, h⟩ | ⟨written, hne, h⟩
      · exact ⟨after, errors, ⟨[], (List.append_nil errors).symm, hafter⟩, h⟩
      · exact hcomplaint hne h

/-- Whatever line is submitted: if anything is written to the error stream, the variables stay as
they are. Otherwise they are what the line makes of them: with `set` and two arguments the first one
has the second one with the variables in it expanded for a value, with `set`, the option to delete
and one argument that one was a variable and is none, and all other variables keep their values;
with any other line nothing changes. This is so at the end of the line, which a console that refuses
nothing comes to. On a console that does refuse something the line may come to an earlier end, and
then all of this has been done or nothing. -/
theorem line_transacts (shell : Shell signature) (engine : Engine signature) (races : List Token)
    (t : Token) :
    let line := Line.parse shell.editor.text shell.editor.text.length
    ∃ shell' written, shell'.console.errors = shell.console.errors ++ written ∧
      (Run.submit application engine races t shell = .ok () shell' ∧
          Transacted line shell.state written shell'.state ∨
        shell.console.refusals ≠ [] ∧
          (∃ f, Run.submit application engine races t shell = .error (.failure f) shell') ∧
          (shell'.state = shell.state ∨ Transacted line shell.state written shell'.state)) := by
  intro line
  let I (after : Variables) (shown : List String) : Prop :=
    ∃ written, shown = shell.console.errors ++ written ∧
      Transacted line shell.state written after
  let J (after : Variables) (shown : List String) : Prop :=
    ∃ written, shown = shell.console.errors ++ written ∧
      (after = shell.state ∨ Transacted line shell.state written after)
  have hsubmit : Finishes (Shell.Told I (shell.console.refusals = []))
      (fun shell' => shell'.Told J (shell.console.refusals = []) ∧ shell.console.refusals ≠ [])
      (Run.submit application engine races t shell) := by
    have hsilent : application.announce.Only Effect.IsSilent := fun _ => ⟨trivial, trivial⟩
    apply Run.finishes_submit hsilent Program.succeeds_writePrompt
    · rintro after shown ⟨written, hshown, h⟩
      exact ⟨written, hshown, .inr h⟩
    · exact ⟨[], (List.append_nil _).symm, .inl rfl⟩
    · intro hblank
      have hmismatch := Grammar.isMismatch_bind_of_allBlank hblank (grammar .set)
      exact ⟨[], (List.append_nil _).symm, (transacts_of_isMismatch (hmismatch _)).transacted id⟩
    · intro _ offered hoffered hsame
      rw [Run.dispatch_eq_run_reception (fun _ _ => rfl) offered hsame]
      refine (finishes_reception hoffered).imp (fun _ h => h) fun _ hend => ?_
      obtain ⟨written, h, hbroken⟩ := hend
      exact ⟨⟨_, _, ⟨written, rfl, .inl rfl⟩, h⟩, hbroken⟩
    · exact ⟨rfl, rfl, id⟩
  generalize Run.submit application engine races t shell = x at hsubmit
  cases hsubmit with
  | @ok _ shell' hend =>
    obtain ⟨after, shown, ⟨written, rfl, htransacted⟩, hstands⟩ := hend
    rw [← hstands.state_eq] at htransacted
    exact ⟨shell', written, hstands.errors_eq, .inl ⟨rfl, htransacted⟩⟩
  | @failure f shell' hend =>
    obtain ⟨⟨after, shown, ⟨written, rfl, hafter⟩, hstands⟩, hbroken⟩ := hend
    rw [← hstands.state_eq] at hafter
    exact ⟨shell', written, hstands.errors_eq, .inr ⟨hbroken, ⟨f, rfl⟩, hafter⟩⟩

end LineShell.Builtin
