import LineShell.Proofs.Builtin.Registry
import LineShell.Proofs.Grammar.Overlap

/-!
# The order of registration

Each command is checked against those registered before it, so when no command of a list is
reported as ambiguous, no two of them share a line. Then it does not matter in which order the list
was registered: the same becomes of every line (`dispatch_perm`).
-/

namespace LineShell

variable {S : Signature}

/-! ### Registration -/

/-- Registers commands one after the other. -/
def Shell.registerAll (shell : Shell S) (commands : List S.Command) : Shell S :=
  commands.foldl register shell

/-- When the commands are registered one after the other, no name of one is reported to overlap with
a name of another. -/
def Shell.RegistersApart (app : Application S) : Shell S → List S.Command → Prop
  | _, [] => True
  | shell, c :: commands =>
    (∀ name existing, Problem.ambiguousName name existing ∉ shell.problemsOf app c) ∧
      (shell.register c).RegistersApart app commands

lemma Shell.registerAll_eq_withCommands (shell : Shell S) (commands : List S.Command) :
    shell.registerAll commands = shell.withCommands (shell.commands ++ commands) := by
  induction commands generalizing shell with
  | nil =>
    rw [List.append_nil]
    rfl
  | cons c commands ih =>
    have hrest : shell.registerAll (c :: commands) = (shell.register c).registerAll commands := rfl
    rw [hrest, ih, Shell.register, List.append_assoc]
    rfl

/-! ### Commands that share no line -/

/-- No line is meant for both commands. -/
def Structured.Apart (c d : Structured S) : Prop :=
  ∀ line, (c.grammar.bind line).isMismatch ∨ (d.grammar.bind line).isMismatch

namespace Grammar

lemma eq_ambiguousName_of_mem_ambiguities {registered : List Grammar} {g : Grammar} {p : Problem}
    (h : p ∈ ambiguities registered g) : ∃ name existing, p = .ambiguousName name existing := by
  obtain ⟨a, -, h⟩ := List.mem_flatMap.mp h
  obtain ⟨other, -, h⟩ := List.mem_flatMap.mp h
  obtain ⟨name, -, rfl⟩ := List.mem_map.mp h
  exact ⟨_, _, rfl⟩

lemma mismatch_of_ambiguities_eq_nil {a b : Grammar} (h : ambiguities [a] b = []) (line : Line) :
    (a.bind line).isMismatch ∨ (b.bind line).isMismatch := by
  by_contra hboth
  push Not at hboth
  obtain ⟨ha, hb⟩ := hboth
  exact ambiguities_ne_nil_of_bind (Bool.eq_false_iff.mpr ha) (Bool.eq_false_iff.mpr hb) h

end Grammar

variable {app : Application S} {structured : S.Command → Structured S} {commands : List S.Command}

/-- A command that is not reported as ambiguous shares no line with a registered one. -/
lemma Shell.apart_of_problemsOf {shell : Shell S} {c d : S.Command}
    (hc : app.command c = (structured c).toCommand) (hd : app.command d = (structured d).toCommand)
    (hmem : d ∈ shell.commands)
    (h : ∀ name existing, Problem.ambiguousName name existing ∉ shell.problemsOf app c) :
    (structured d).Apart (structured c) := by
  have hgrammar : (app.command c).grammar = some (structured c).grammar := by
    rw [hc]
    rfl
  have hregistered : (structured d).grammar ∈
      shell.commands.filterMap fun e => (app.command e).grammar := by
    refine List.mem_filterMap.mpr ⟨d, hmem, ?_⟩
    rw [hd]
    rfl
  intro line
  apply Grammar.mismatch_of_ambiguities_eq_nil
  rw [List.eq_nil_iff_forall_not_mem]
  intro p hp
  obtain ⟨name, existing, rfl⟩ := Grammar.eq_ambiguousName_of_mem_ambiguities hp
  apply h name existing
  rw [problemsOf, hgrammar]
  apply List.mem_append_right
  rw [Grammar.ambiguities_eq_flatMap]
  exact List.mem_flatMap.mpr ⟨_, hregistered, hp⟩

/-- The induction is on the commands still to be registered, so those before them are spoken of as
well. -/
lemma Shell.RegistersApart.pairwise_apart {shell : Shell S} (h : shell.RegistersApart app commands)
    (hstructured : ∀ c ∈ shell.commands ++ commands, app.command c = (structured c).toCommand) :
    (∀ c ∈ commands, ∀ d ∈ shell.commands, (structured d).Apart (structured c)) ∧
      commands.Pairwise fun c d => (structured c).Apart (structured d) := by
  induction commands generalizing shell with
  | nil => simp
  | cons c commands ih =>
    obtain ⟨hc, hcommands⟩ := h
    have hsplit : (shell.register c).commands ++ commands = shell.commands ++ c :: commands := by
      rw [register, List.append_assoc]
      rfl
    rw [← hsplit] at hstructured
    obtain ⟨hbefore, hpairwise⟩ := ih hcommands hstructured
    have hall : ∀ d ∈ shell.commands ++ [c], app.command d = (structured d).toCommand :=
      fun d hd => hstructured d (List.mem_append_left _ hd)
    constructor
    · intro e he d hd
      rcases List.mem_cons.mp he with rfl | he
      · exact apart_of_problemsOf (hall e (by simp)) (hall d (by simp [hd])) hd hc
      · exact hbefore e he d (List.mem_append_left _ hd)
    · refine List.pairwise_cons.mpr ⟨?_, hpairwise⟩
      intro e he
      exact hbefore e he c (by simp [register])

/-! ### Another order -/

/-- Where at most one entry of a list has a value, the order does not matter to the first value. -/
lemma findSome?_eq_of_perm {α β : Type} {f : α → Option β} {xs ys : List α} (hperm : xs.Perm ys)
    (h : xs.Pairwise fun a b => f a = none ∨ f b = none) : xs.findSome? f = ys.findSome? f := by
  induction hperm with
  | nil => rfl
  | cons a _ ih =>
    rw [List.findSome?_cons, List.findSome?_cons, ih (List.pairwise_cons.mp h).2]
  | swap a b xs =>
    rcases (List.pairwise_cons.mp h).1 a (by simp) with hb | ha
    · simp only [List.findSome?_cons, hb]
    · simp only [List.findSome?_cons, ha]
  | trans hfirst _ ih ih' =>
    rw [ih h]
    exact ih' ((hfirst.pairwise_iff Or.symm).mp h)

lemma claimant?_eq_of_perm {other : List S.Command} (hperm : commands.Perm other)
    (h : commands.Pairwise fun c d => (structured c).Apart (structured d)) (line : Line) :
    claimant? structured line commands = claimant? structured line other := by
  apply findSome?_eq_of_perm hperm
  refine h.imp fun {c d} hcd => ?_
  rcases hcd line with hc | hd
  · left
    cases hbind : (structured c).grammar.bind line with
    | mismatch name => rfl
    | bound input issues =>
      rw [hbind] at hc
      cases hc
  · right
    cases hbind : (structured d).grammar.bind line with
    | mismatch name => rfl
    | bound input issues =>
      rw [hbind] at hd
      cases hd

lemma Shell.agrees_of_perm {kind : S.Command → Prop}
    (hhooks : app.HooksIgnoreRegistry structured kind) {shell : Shell S}
    (hempty : shell.commands = []) (hkind : ∀ c ∈ commands, kind c)
    (hapart : shell.RegistersApart app commands) {other : List S.Command}
    (hperm : commands.Perm other) :
    (shell.registerAll commands).Agrees structured kind (shell.registerAll other) := by
  have hpairwise : commands.Pairwise fun c d => (structured c).Apart (structured d) := by
    refine (hapart.pairwise_apart fun c hc => hhooks.command_eq c (hkind c ?_)).2
    rw [hempty] at hc
    exact hc
  rw [registerAll_eq_withCommands, registerAll_eq_withCommands, hempty, List.nil_append,
    List.nil_append]
  constructor
  · rfl
  · exact hkind
  · intro c hc
    exact hkind c (hperm.mem_iff.mpr hc)
  · exact claimant?_eq_of_perm hperm hpairwise

/-! ### Every line -/

namespace Run

/-- Suppose commands are registered one after the other in an empty shell and none is reported as
ambiguous. If they are registered in another order instead, the same becomes of every line: the same
command or none is run on the same bound line, or the same command rejects it for the same issues.
Offering the line does no more than that. It ends alike, error lines included, whenever no command
is run, and also when one is run that does not look at the registry either. -/
theorem dispatch_perm {kind : S.Command → Prop} (hhooks : app.HooksIgnoreRegistry structured kind)
    {shell : Shell S} (hempty : shell.commands = []) {other : List S.Command}
    (hkind : ∀ c ∈ commands, kind c) (hapart : shell.RegistersApart app commands)
    (hperm : commands.Perm other) (line : Line) :
    ∃ r : Reception S,
      (shell.registerAll commands).reception structured line = r ∧
      (shell.registerAll other).reception structured line = r ∧
      (∀ engine races t,
        dispatch app engine races t line commands (shell.registerAll commands) =
            r.run structured engine races t line (shell.registerAll commands) ∧
          dispatch app engine races t line other (shell.registerAll other) =
            r.run structured engine races t line (shell.registerAll other)) ∧
      ((∀ c input, r ≠ .accepted c input) → ∀ engine races t,
        EndAlike structured kind
          (dispatch app engine races t line commands (shell.registerAll commands))
          (dispatch app engine races t line other (shell.registerAll other))) ∧
      (app.WorkIgnoresRegistry structured kind → ∀ n races t,
        EndAlike structured kind
          (dispatch app (.ofLevels app n) races t line commands (shell.registerAll commands))
          (dispatch app (.ofLevels app n) races t line other (shell.registerAll other))) := by
  have hagrees := Shell.agrees_of_perm hhooks hempty hkind hapart hperm
  have hcommands : ∀ order, (shell.registerAll order).commands = order := by
    intro order
    rw [Shell.registerAll_eq_withCommands, hempty]
    rfl
  have hstructured : ∀ c ∈ commands, app.command c = (structured c).toCommand :=
    fun c hc => hhooks.command_eq c (hkind c hc)
  have hreception := reception_eq hhooks hagrees line
  have hend : ∀ engine races t,
      (∀ c input, (shell.registerAll commands).reception structured line = .accepted c input →
        kind c → Respects structured kind
          (executeCommand engine races t ((structured c).runningOn input) line)) →
      EndAlike structured kind
        (dispatch app engine races t line commands (shell.registerAll commands))
        (dispatch app engine races t line other (shell.registerAll other)) := by
    intro engine races t hwork
    have hend := endAlike_dispatch hhooks hagrees hwork
    rw [hcommands, hcommands] at hend
    exact hend
  refine ⟨_, rfl, hreception, ?_, ?_, ?_⟩
  · intro engine races t
    constructor
    · exact dispatch_eq_run_reception hstructured _ (hcommands commands)
    · rw [← hreception]
      exact dispatch_eq_run_reception (fun c hc => hstructured c (hperm.mem_iff.mpr hc)) _
        (hcommands other)
  · intro hnone engine races t
    apply hend
    intro c input haccepted
    exact absurd haccepted (hnone c input)
  · intro hwork n races t
    apply hend
    intro c input _ hc
    exact respects_executeInput hwork (Engine.respects_ofLevels hhooks hwork n) hc input

/-- The built-in commands but the one for help, and the same in another order: a variable is set
under either. -/
theorem dispatch_perm_set :
    let shell : Shell Builtin.signature := { state := {}, history := .inMemory 5 }
    let commands : List Builtin := [.echo, .set, .clear, .history, .exit]
    let other : List Builtin := [.exit, .set, .history, .echo, .clear]
    let line := Line.parse "set greeting hello" 18
    shell.commands = [] ∧ (∀ c ∈ commands, c ≠ Builtin.help) ∧
      shell.RegistersApart Builtin.application commands ∧ commands.Perm other ∧
      ∃ input, input.argumentValues = ["greeting", "hello"] ∧
        (shell.registerAll commands).reception Builtin.structured line = .accepted .set input ∧
        (shell.registerAll other).reception Builtin.structured line = .accepted .set input ∧
        ∀ n races t, EndAlike Builtin.structured (· ≠ Builtin.help)
          (dispatch Builtin.application (.ofLevels Builtin.application n) races t line commands
            (shell.registerAll commands))
          (dispatch Builtin.application (.ofLevels Builtin.application n) races t line other
            (shell.registerAll other)) := by
  intro shell commands other line
  have hkind : ∀ c ∈ commands, c ≠ Builtin.help := by decide
  have hquiet : ∀ {shell : Shell Builtin.signature} {c : Builtin},
      shell.problemsOf Builtin.application c = [] → ∀ name existing,
        Problem.ambiguousName name existing ∉ shell.problemsOf Builtin.application c := by
    intro shell c h name existing
    rw [h]
    exact List.not_mem_nil
  have hapart : shell.RegistersApart Builtin.application commands :=
    ⟨hquiet (by decide +kernel), hquiet (by decide +kernel), hquiet (by decide +kernel),
      hquiet (by decide +kernel), hquiet (by decide +kernel), trivial⟩
  have hperm : commands.Perm other := by decide
  let shell' := shell.registerAll other
  obtain ⟨r, hr, hr', -, -, hend⟩ :=
    dispatch_perm (Builtin.hooksIgnoreRegistry _) rfl hkind hapart hperm line
  have hclaims : (claimant? Builtin.structured line shell'.commands).map (fun found =>
      ((found.1 : Builtin), found.2.1.argumentValues, found.2.2)) =
        some (.set, ["greeting", "hello"], []) := by
    decide +kernel
  obtain ⟨⟨c, input, issues⟩, hclaimant, hcontent⟩ := Option.map_eq_some_iff.mp hclaims
  simp only [Prod.mk.injEq] at hcontent
  obtain ⟨rfl, hvalues, rfl⟩ := hcontent
  have hreception : shell'.reception Builtin.structured line = .accepted .set input := by
    rw [Shell.reception, hclaimant]
    exact if_pos rfl
  exact ⟨rfl, hkind, hapart, hperm, input, hvalues, hr.trans (hr'.symm.trans hreception),
    hreception, hend Builtin.workIgnoresRegistry⟩

end Run

end LineShell
