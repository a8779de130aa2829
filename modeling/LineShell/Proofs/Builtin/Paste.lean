import LineShell.Proofs.Builtin.Plain
import LineShell.Proofs.Builtin.Variables
import LineShell.Proofs.Shell.OneRow
import LineShell.Proofs.Shell.Pieces

/-!
# Keys in pieces

Whatever is typed into the built-in shell, if it breaks no line, stays in one row: so do the lines
of its history, the names of its variables and all that it offers. Therefore it makes no difference
whether keys come in all at once or in two pieces with a run in between.
-/

namespace LineShell.Builtin

open Screen (StaysInRow)

/-! ### What stays in one row -/

/-- The line stays in the row, and so do the names of variables, which may come to be offered. The
settings are the given ones. -/
structure InRow (config : Config) (shell : Shell signature) : Prop extends shell.InRow where
  names : ∀ name ∈ shell.state.names, OneRow name
  config_eq : shell.config = config

variable {config : Config} {shell : Shell signature}

lemma oneRow_of_mem_names (c : Builtin) :
    ∀ name ∈ c.grammar.names, ∀ token ∈ name, OneRow token := by
  cases c <;> decide

lemma oneRow_of_mem_forms (c : Builtin) :
    ∀ o ∈ c.grammar.options, ∀ form ∈ o.forms, OneRow form := by
  cases c <;> decide

lemma oneRow_of_mem_suggestArgument (hnames : ∀ name ∈ shell.state.names, OneRow name)
    {c : Builtin} {input : Input} {fragment text : String}
    (h : text ∈ c.suggestArgument shell input fragment) : OneRow text := by
  unfold suggestArgument at h
  by_cases hfirst : !isFirstArgument input
  · rw [if_pos hfirst] at h
    cases h
  rw [if_neg hfirst] at h
  cases c with
  | set => exact hnames text (List.mem_filter.mp h).1
  | help =>
    obtain ⟨name, hname, hhead⟩ := List.mem_filterMap.mp (List.mem_filter.mp h).1
    obtain ⟨c, -, hc⟩ := List.mem_flatMap.mp hname
    exact oneRow_of_mem_names c name hc text (List.mem_of_mem_head? hhead)
  | _ => cases h

lemma InRow.oneRow_of_mem_suggestions (h : InRow config shell) {line : Line} {text : String}
    (htext : text ∈ shell.suggestions application line) : OneRow text := by
  obtain ⟨c, -, hc⟩ := Shell.exists_of_mem_suggestions htext
  rcases Structured.mem_suggest (c := c.structured) hc with
    ⟨name, hname, hmem⟩ | ⟨o, ho, hmem⟩ | ⟨input, fragment, hmem⟩ | ⟨_, _, _, hmem⟩
  · exact oneRow_of_mem_names c name hname text hmem
  · exact oneRow_of_mem_forms c o ho text hmem
  · exact oneRow_of_mem_suggestArgument h.names hmem
  · cases hmem

/-! ### Programs -/

lemma InRow.display (h : InRow config shell) (os : List Output) :
    InRow config (shell.display os) :=
  ⟨h.toInRow.display os, h.names, h.config_eq⟩

lemma InRow.edited (h : InRow config shell) {edit : Edit}
    (hadded : ∀ a ∈ edit.added, StaysInRow a) : InRow config (shell.edited edit) :=
  ⟨h.toInRow.edited hadded, h.names, h.config_eq⟩

lemma keeps_writeLine (text : String) :
    (Program.writeLine text : Program signature Unit).Keeps (InRow config) :=
  ⟨fun _ h => h.display _, fun _ h => h.display _, trivial⟩

lemma keeps_writeLines (lines : List String) :
    (Program.writeLines lines : Program signature Unit).Keeps (InRow config) := by
  induction lines with
  | nil => trivial
  | cons line lines ih => exact (keeps_writeLine line).bind fun _ => ih

lemma keeps_setState {vars : Variables} (h : ∀ name ∈ vars.names, OneRow name) :
    (Program.perform (.setState vars) : Program signature Unit).Keeps (InRow config) :=
  ⟨fun _ hshell => ⟨⟨hshell.caret_le, hshell.buffer, hshell.history, hshell.completion⟩, h,
    hshell.config_eq⟩, trivial⟩

lemma keeps_runDelete {vars : Variables} (h : ∀ name ∈ vars.names, OneRow name)
    (name rest : Option String) : (runDelete vars name rest).Keeps (InRow config) := by
  rw [runDelete.eq_def]
  split
  · trivial
  · trivial
  · split_ifs
    · exact keeps_setState fun n hn => h n (Variables.names_erase_subset _ _ hn)
    · trivial

lemma keeps_runAssign {vars : Variables} (h : ∀ name ∈ vars.names, OneRow name)
    {name : Option String} (hname : ∀ n, name = some n → OneRow n) (value : Option String) :
    (runAssign vars name value).Keeps (InRow config) := by
  rw [runAssign.eq_def]
  split
  · exact keeps_writeLines _
  · split
    · exact keeps_writeLine _
    · trivial
  · apply keeps_setState
    intro n hn
    rcases Variables.mem_names_insert hn with rfl | hn
    · exact hname n rfl
    · exact h n hn

lemma keeps_runHelp (input : Input) : (runHelp input).Keeps (InRow config) := by
  intro shell _
  dsimp only
  split
  · exact keeps_writeLines _
  · split
    · exact keeps_writeLine _
    · trivial

/-- A command keeps the row if the values of its arguments do. -/
lemma keeps_execute (c : Builtin) {input : Input} (t : Token)
    (hinput : ∀ value ∈ input.argumentValues, OneRow value) :
    (c.structured.execute input t).Keeps (InRow config) := by
  cases c with
  | echo => exact fun _ _ => keeps_writeLine _
  | set =>
    intro shell hshell
    dsimp only
    split
    · exact keeps_runDelete hshell.names _ _
    · exact keeps_runAssign hshell.names
        (fun n hn => hinput n (List.mem_of_getElem? hn)) _
  | clear => exact ⟨fun _ h => h.display [.clear], trivial⟩
  | exit =>
    refine ⟨fun shell h => ?_, trivial⟩
    exact ⟨⟨h.caret_le, h.buffer, h.history, h.completion⟩, h.names, h.config_eq⟩
  | history =>
    show (runHistory input).Keeps (InRow config)
    rw [runHistory]
    split
    · refine ⟨fun shell h => ?_, trivial⟩
      refine ⟨⟨h.caret_le, h.buffer, ?_, h.completion⟩, h.names, h.config_eq⟩
      show ∀ text ∈ shell.history.clear.entries, OneRow text
      rw [History.entries_clear]
      exact List.forall_mem_nil _
    · exact fun _ _ => keeps_writeLines _
  | help => exact keeps_runHelp input

/-! ### Keys -/

lemma InRow.keyReported (h : InRow config shell) (outcome : Except Failure Unit) :
    InRow config (shell.keyReported outcome) := by
  match outcome with
  | .ok () | .error .cancelled => exact h
  | .error (.system _) | .error (.malformed _) | .error (.command _) | .error (.other _) =>
    exact h.display _

lemma isSubmissionInvariant_inRow (config : Config) :
    Shell.IsSubmissionInvariant application structured (InRow config) where
  text _ h := h.display _
  errorLine _ h := h.display _
  begun h := ⟨⟨h.caret_le, h.buffer, h.history, nofun⟩, h.names, h.config_eq⟩
  ready h := ⟨⟨h.caret_le, h.buffer, h.history, h.completion⟩, h.names, h.config_eq⟩
  recorded {shell} h := by
    refine ⟨⟨h.caret_le, h.buffer, fun text htext => ?_, h.completion⟩, h.names, h.config_eq⟩
    rcases History.mem_add htext with hmem | rfl
    · exact h.history text hmem
    · exact oneRow_ofList.mpr h.buffer
  announce := fun _ _ => ⟨fun _ h => h.display _, trivial⟩
  -- a variable may be named by an argument, which is a part of the line
  execute {shell c input caret} h hbind := by
    have htext : OneRow shell.editor.text := oneRow_ofList.mpr h.buffer
    exact keeps_execute c 0 fun value hvalue => htext.of_mem_argumentValues hbind hvalue

lemma InRow.emptied (h : InRow config shell) : InRow config shell.emptied :=
  ⟨⟨Nat.le_refl 0, List.forall_mem_nil _, h.history, h.completion⟩, h.names, h.config_eq⟩

lemma InRow.recalled (h : InRow config shell) {found : Option String × History}
    (hentries : found.2.entries = shell.history.entries)
    (hfound : ∀ text, found.1 = some text → OneRow text) :
    InRow config (shell.recalled found) := by
  have hrow := h.toInRow.recalled hentries hfound
  rw [Shell.recalled] at hrow ⊢
  cases hline : found.1 <;>
    · rw [hline] at hrow
      exact ⟨hrow, h.names, h.config_eq⟩

lemma InRow.completed (h : InRow config shell) (d : Direction) :
    InRow config (shell.completed application d) := by
  have hrow := h.toInRow.completed (fun _ htext => h.oneRow_of_mem_suggestions htext) d
  rw [Shell.completed] at hrow ⊢
  cases hnext : shell.nextCompletion application d with
  | none =>
    rw [hnext] at hrow
    exact ⟨hrow, h.names, h.config_eq⟩
  | some c =>
    rw [hnext] at hrow
    refine ⟨hrow, ?_, ?_⟩
    · rw [Shell.state_edited, Shell.state_edited]
      exact h.names
    · rw [Shell.config_edited, Shell.config_edited]
      exact h.config_eq

lemma InRow.performed (h : InRow config shell) (a : EditAction) :
    InRow config (shell.performed application structured a) := by
  cases a with
  | previousHistory =>
    exact h.recalled (History.entries_previous _)
      fun text htext => h.history text (History.mem_of_previous htext)
  | nextHistory =>
    show InRow config
      (shell.recalled (some (shell.history.next.1.getD ""), shell.history.next.2))
    refine h.recalled (History.entries_next _) fun text htext => ?_
    obtain rfl := Option.some.inj htext
    exact h.oneRow_next
  | nextSuggestion => exact h.completed .forward
  | previousSuggestion => exact h.completed .backward
  | execute => exact (isSubmissionInvariant_inRow config).submitted (fun h => h.emptied) h
  | _ => exact h.edited (List.forall_mem_nil _)

lemma keeps_redraw : redraw.Keeps (InRow config) :=
  fun _ _ => ⟨fun _ h => h.display _, fun _ h => h.display _, fun _ h => h.display _,
    fun _ h => h.display _, trivial⟩

/-- All that keys do in the built-in shell keeps the line in its row. -/
lemma isRowInvariant_inRow (config : Config) :
    Shell.IsRowInvariant application structured (InRow config) where
  caret_le h := h.caret_le
  buffer h := h.buffer
  insert h htyped := h.edited htyped
  pressed _ b h := by
    cases b with
    | action a => exact h.performed a
    | handler handler =>
      cases handler
      exact Shell.executed_of keeps_redraw (fun _ outcome h => InRow.keyReported h outcome) h

lemma inRow_announced (config : Config) :
    InRow config ((fresh config).view.announced application) := by
  have hfresh : InRow config (fresh config).view :=
    ⟨⟨Nat.le_refl 0, List.forall_mem_nil _, List.forall_mem_nil _, nofun⟩, List.forall_mem_nil _,
      rfl⟩
  exact (isSubmissionInvariant_inRow config).announced hfresh

/-! ### Keys in pieces -/

/-- Let keys that type no line break come into a fresh shell with its history in memory and without
raw mode: first some of them with a run that uses them up or is asked to stop, then the others with
another run, or all of them at once with a single run. Both end with the same line, caret and mode,
history, variables, request to stop, errors, screen and keys that are left.

In between, the caret of the console must be able to come back from the end of the line. -/
theorem keys_in_pieces (config : Config) (files : String → File)
    (hmemory : config.history.file = none) (hraw : config.rawMode = false)
    (first second : List Key)
    (hkeys : ∀ key ∈ first ++ second, ∀ c, key.character? = some c → c ≠ '\n' ∧ c ≠ '\r') :
    ∃ shell paused resumed once,
      Builtin.shell config files = .ok shell ∧
      Run.all application (shell.withConsole (shell.console.enqueue (first.map .key))) =
        .ok () paused ∧
      Run.all application (paused.withConsole (paused.console.enqueue (second.map .key))) =
        .ok () resumed ∧
      Run.all application (shell.withConsole (shell.console.enqueue ((first ++ second).map .key))) =
        .ok () once ∧
      (paused.terminal.HasRoom →
        resumed.editor = once.editor ∧ resumed.history = once.history ∧
        resumed.state = once.state ∧ resumed.exitRequested = once.exitRequested ∧
        resumed.console.errors = once.console.errors ∧
        resumed.console.screen = once.console.screen ∧
        resumed.console.queue = once.console.queue) := by
  obtain ⟨hfirst, hsecond⟩ := List.forall_mem_append.mp hkeys
  have hset : ∀ shell, InRow config shell → shell.config.rawMode = false := by
    intro shell h
    rw [h.config_eq]
    exact hraw
  obtain ⟨paused, resumed, once, hpaused, hresumed, honce, hsame⟩ :=
    Run.exists_all_append isPlain_application (isRowInvariant_inRow config) hset
      (calm_fresh config []) rfl (inRow_announced config) hfirst hsecond
  refine ⟨fresh config, paused, resumed, once, shell_eq hmemory files, hpaused, hresumed, honce,
    fun hroom => ?_⟩
  obtain ⟨hview, hqueue⟩ := hsame hroom
  obtain ⟨heditor, hhistory, hstate, hexit, herrors, hscreen⟩ := Shell.eq_of_view_eq hview
  exact ⟨heditor, hhistory, hstate, hexit, herrors, hscreen, hqueue⟩

/-- The pieces meet within some characters that are typed before the end of the line. -/
theorem keys_in_pieces_within_word :
    let config : Config := { rawMode := false }
    let first : List Key := [.ofChar 'e', .ofChar 't', { code := .left }, .ofChar 'x']
    let second : List Key := [.ofChar 'i', { code := .enter }, .ofChar 'E']
    config.history.file = none ∧ config.rawMode = false ∧
      (∀ key ∈ first ++ second, ∀ c, key.character? = some c → c ≠ '\n' ∧ c ≠ '\r') ∧
      ∃ shell paused resumed once,
        Builtin.shell config (fun _ => { state := .absent }) = .ok shell ∧
        Run.all application (shell.withConsole (shell.console.enqueue (first.map .key))) =
          .ok () paused ∧ paused.terminal.HasRoom ∧
        Run.all application (paused.withConsole (paused.console.enqueue (second.map .key))) =
          .ok () resumed ∧
        Run.all application
          (shell.withConsole (shell.console.enqueue ((first ++ second).map .key))) = .ok () once ∧
        resumed.editor = once.editor ∧ resumed.history = once.history ∧
        resumed.state = once.state ∧ resumed.exitRequested = once.exitRequested ∧
        resumed.console.errors = once.console.errors ∧
        resumed.console.screen = once.console.screen ∧
        resumed.console.queue = once.console.queue := by
  intro config first second
  have hkeys : ∀ key ∈ first ++ second, ∀ c, key.character? = some c → c ≠ '\n' ∧ c ≠ '\r' := by
    simp [first, second, Key.ofChar, Key.character?]
  obtain ⟨shell, paused, resumed, once, hshell, hpaused, hresumed, honce, hsame⟩ :=
    keys_in_pieces config (fun _ => { state := .absent }) rfl rfl first second hkeys
  obtain rfl : fresh config = shell := Except.ok.inj ((shell_eq rfl _).symm.trans hshell)
  let column : Run signature Nat := do
    Run.all application
    return (← get).console.screen.column
  let typed := (fresh config).withConsole ((fresh config).console.enqueue (first.map .key))
  have hcolumn : column.run' typed = some 4 := by decide +kernel
  have hpausedColumn : column.run' typed = some paused.console.screen.column :=
    Run.run_of_ok (Run.bind_of_ok hpaused _)
  have hroom : paused.console.screen.column < maxCount := by
    rw [Option.some.inj (hpausedColumn.symm.trans hcolumn)]
    decide
  exact ⟨rfl, rfl, hkeys, fresh config, paused, resumed, once, hshell, hpaused, .inr (.inr hroom),
    hresumed, honce, hsame (.inr (.inr hroom))⟩

end LineShell.Builtin
