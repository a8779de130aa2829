import LineShell.Proofs.Builtin.Paste
import LineShell.Proofs.Shell.Prompt

/-!
# The prompt line

Each time the built-in shell is about to read a key, its screen shows the line behind the prompt.
-/

namespace LineShell.Builtin

open Run

/-- The line stays in its row, and the screen shows it behind the prompt. -/
structure Prompted (config : Config) (shell : Shell signature) : Prop where
  inRow : InRow config shell
  inStep : shell.InStep config.prompt.toList

variable {config : Config} {shell : Shell signature}

/-! ### Keys -/

/-- A line that was submitted. -/
lemma Prompted.submitted (h : Prompted config shell)
    (hfits : shell.editor.Fits config.prompt.toList) (hprompt : OneRow config.prompt) :
    Prompted config (shell.submitted application structured) := by
  have hrow := isSubmissionInvariant_inRow config
  have hkeys : Shell.IsSubmissionInvariant application structured (Shell.TakesKeys shell.keys) :=
    Shell.isSubmissionInvariant_takesKeys isPlain_application
  obtain ⟨above, hstep⟩ := h.inStep hfits
  have hrow' := hrow.taken (hrow.ended (hrow.begun h.inRow))
  have hkeys' := hkeys.taken (hkeys.ended (hkeys.begun ⟨rfl, hstep.shows.caretShown⟩))
  refine ⟨hrow.submitted (fun h => h.emptied) h.inRow, ?_⟩
  rw [← hrow'.config_eq] at hprompt ⊢
  exact Shell.inStep_concluded rfl (Shell.ready_taken isPlain_application) hkeys'.caretShown hprompt

lemma Prompted.performed (h : Prompted config shell)
    (hfits : shell.editor.Fits config.prompt.toList) (hprompt : OneRow config.prompt)
    (a : EditAction) :
    Prompted config (shell.performed application structured a) := by
  by_cases hsubmits : a = .execute
  · rw [hsubmits]
    exact h.submitted hfits hprompt
  refine ⟨h.inRow.performed a, ?_⟩
  cases a with
  | previousHistory =>
    exact h.inStep.recalled hfits fun text htext =>
      h.inRow.history text (History.mem_of_previous htext)
  | nextHistory =>
    refine h.inStep.recalled hfits fun text htext => ?_
    obtain rfl := Option.some.inj htext
    exact h.inRow.oneRow_next
  | nextSuggestion | previousSuggestion =>
    exact h.inStep.completed hfits h.inRow.toInRow
      (fun _ htext => h.inRow.oneRow_of_mem_suggestions htext) _
  | execute => exact absurd rfl hsubmits
  | _ => exact h.inStep.edited hfits (List.forall_mem_nil _)

/-- The line is written again behind the prompt, and the caret goes back to where it was. -/
lemma Prompted.redrawn (h : Prompted config shell) (hfits : shell.editor.Fits config.prompt.toList)
    (hprompt : OneRow config.prompt) (key : Key) :
    Prompted config (shell.pressed application structured key (.handler .redraw)) := by
  refine ⟨(isRowInvariant_inRow config).pressed key (.handler .redraw) h.inRow, fun _ => ?_⟩
  obtain rfl := h.inRow.config_eq
  obtain ⟨_, hstep⟩ := h.inStep hfits
  have hclear : (shell.console.display [.clear]).Shows [] [] 0 true :=
    ⟨⟨rfl, ⟨0, rfl⟩, rfl⟩, hstep.shows.caretShown⟩
  have hwritten := (hclear.display_text hprompt).display_text (oneRow_ofList.mpr hstep.stays)
  rw [List.nil_append, String.toList_ofList] at hwritten
  have hcaret : shell.editor.caret ≤ shell.editor.buffer.length := hstep.caret_le
  have hback : ((shell.config.prompt.toList.length + shell.editor.caret : Nat) : Int) =
      (shell.config.prompt.toList ++ shell.editor.buffer).length +
        -(shell.editor.buffer.length - shell.editor.caret) := by
    rw [List.length_append]
    push_cast
    omega
  have hroom : shell.config.prompt.toList.length + shell.editor.caret ≤ maxCount :=
    (Nat.add_le_add_left hcaret _).trans hfits
  exact ⟨[], Console.shows_puts.mp (hwritten.puts_move hback hroom), hcaret, hstep.stays⟩

/-- Whatever a key is bound to. -/
lemma Prompted.pressed (h : Prompted config shell) (hfits : shell.editor.Fits config.prompt.toList)
    (hprompt : OneRow config.prompt) (key : Key) (b : KeyBinding Handler) :
    Prompted config (shell.pressed application structured key b) := by
  cases b with
  | action a => exact h.performed hfits hprompt a
  | handler handler =>
    cases handler
    exact h.redrawn hfits hprompt key

lemma isStepInvariant_prompted (hprompt : OneRow config.prompt) :
    Shell.IsStepInvariant application structured config.prompt.toList (Prompted config) where
  inStep h := h.inStep
  insert h hfits htyped := ⟨h.inRow.edited htyped, h.inStep.edited hfits htyped⟩
  pressed key b h hfits := h.pressed hfits hprompt key b

lemma prompted_announced (hprompt : OneRow config.prompt) :
    Prompted config ((fresh config).view.announced application) := by
  refine ⟨inRow_announced config, ?_⟩
  have hrow : (fresh config).view.console.Shows [] [] 0 true := ⟨⟨rfl, ⟨0, rfl⟩, rfl⟩, rfl⟩
  have hwritten : ((fresh config).view.announced application).console.Shows [] _ _ true :=
    Shell.shows_announced rfl rfl hrow hprompt
  exact Shell.inStep_emptied hwritten

/-! ### The prompt line -/

/-- Let keys that type no line break come into a fresh shell with its history in memory, whose
prompt breaks no line either. Each time the shell is about to read a key, and each time a key is
about to do what it is bound to, the last row is the prompt, then the line, then only blanks, the
caret of the console is as far behind the prompt as the caret of the line is in the line, and it is
seen. This is so at least once for each key that is read.

Columns are counts, so this is said as long as no line has been, with the prompt, longer than the
largest count. -/
theorem prompt_in_step (config : Config) (files : String → File)
    (hmemory : config.history.file = none)
    (hprompt : ∀ c ∈ config.prompt.toList, c ≠ '\n' ∧ c ≠ '\r') (keys : List Key)
    (hkeys : ∀ key ∈ keys, ∀ c, key.character? = some c → c ≠ '\n' ∧ c ≠ '\r') :
    ∃ shell seen ended,
      Builtin.shell config files = .ok shell ∧
      notedAll application .terminals
        (shell.withConsole (shell.console.enqueue (keys.map .key))) = .ok seen ended ∧
      Run.all application (shell.withConsole (shell.console.enqueue (keys.map .key))) =
        .ok () ended ∧
      keys.length ≤ seen.length + ended.console.queue.length ∧
      ∀ first t, first ++ [t] <+: seen →
        (∀ t' ∈ first ++ [t], config.prompt.length + t'.editor.buffer.length ≤ maxCount) →
        (∃ k, t.console.currentLine =
          config.prompt ++ t.editor.text ++ .ofList (List.replicate k ' ')) ∧
        t.console.screen.column = config.prompt.length + t.editor.caret ∧
        t.console.caretShown = true := by
  have hqueue : ((fresh config).withConsole
      ((fresh config).console.enqueue (keys.map .key))).console.queue = keys.map .key := rfl
  obtain ⟨rawMode, -, ended, hrun, -, -, hleft⟩ :=
    notedAll_leads .terminals isPlain_application (calm_fresh config (keys.map .key)) hqueue
  have hall : Run.all application ((fresh config).withConsole
      ((fresh config).console.enqueue (keys.map .key))) = .ok () ended := by
    rw [← map_notedAll .terminals, map_eq_pure_bind, bind_of_ok hrun]
    rfl
  refine ⟨fresh config, _, ended, shell_eq hmemory files, hrun, hall, ?_, ?_⟩
  · rw [hleft, List.length_map]
    exact Shell.length_le_noted keys [] _
  intro first t hfirst hfits
  have hshown : Terminal.AllInStep config.prompt.toList (((fresh config).view.announced
      application).noted .terminals application structured rawMode keys []) :=
    (isStepInvariant_prompted hprompt).allInStep_noted (prompted_announced hprompt) hkeys
      (List.forall_mem_nil _)
  obtain ⟨_, hstep⟩ := hshown.exists_inStep hfirst hfits
  obtain ⟨k, hrow⟩ := hstep.shows.screen.row_eq
  have hline : t.console.currentLine =
      config.prompt ++ t.editor.text ++ .ofList (List.replicate k ' ') := by
    rw [Console.currentLine, hrow, String.ofList_append, String.ofList_append,
      String.ofList_toList, Editor.text]
  exact ⟨⟨k, hline⟩, hstep.shows.screen.column_eq, hstep.shows.caretShown⟩

/-- A line is completed, drawn anew with the caret within it, submitted from there, recalled, cut
short, and submitted again although no command takes it. -/
theorem prompt_in_step_recalled :
    let config : Config := { prompt := "$ ", rawMode := false }
    let keys : List Key := [.ofChar 'h', .ofChar 'e', { code := .tab }, { code := .left },
      .ctrl (.char 'l'), { code := .enter }, { code := .up }, { code := .backspace },
      { code := .enter }, .ofChar 'x']
    config.history.file = none ∧ (∀ c ∈ config.prompt.toList, c ≠ '\n' ∧ c ≠ '\r') ∧
      (∀ key ∈ keys, ∀ c, key.character? = some c → c ≠ '\n' ∧ c ≠ '\r') ∧
      ∃ shell seen ended,
        Builtin.shell config (fun _ => { state := .absent }) = .ok shell ∧
        notedAll application .terminals
          (shell.withConsole (shell.console.enqueue (keys.map .key))) = .ok seen ended ∧
        Run.all application (shell.withConsole (shell.console.enqueue (keys.map .key))) =
          .ok () ended ∧
        seen.map (·.editor.text) =
          ["", "", "", "he", "help", "help", "help", "help", "help", "help", "", "", "help", "help",
            "hel", "hel", "", "x"] ∧
        ∀ t ∈ seen,
          (∃ k, t.console.currentLine =
            config.prompt ++ t.editor.text ++ .ofList (List.replicate k ' ')) ∧
          t.console.screen.column = config.prompt.length + t.editor.caret ∧
          t.console.caretShown = true := by
  intro config keys
  have hprompt : ∀ c ∈ config.prompt.toList, c ≠ '\n' ∧ c ≠ '\r' := by simp [config]
  have hkeys : ∀ key ∈ keys, ∀ c, key.character? = some c → c ≠ '\n' ∧ c ≠ '\r' := by
    simp [keys, Key.ofChar, Key.ctrl, Key.character?]
  obtain ⟨shell, seen, ended, hshell, hrun, hall, -, hshown⟩ :=
    prompt_in_step config (fun _ => { state := .absent }) rfl hprompt keys hkeys
  obtain rfl : fresh config = shell := Except.ok.inj ((shell_eq rfl _).symm.trans hshell)
  let fits (t : Terminal) : Bool := config.prompt.length + t.editor.buffer.length ≤ maxCount
  have hseen : ((notedAll application .terminals).run' ((fresh config).withConsole
      ((fresh config).console.enqueue (keys.map .key)))).map
        (fun seen => (seen.map (·.editor.text), seen.all fits)) =
          some (["", "", "", "he", "help", "help", "help", "help", "help", "help", "", "", "help",
            "help", "hel", "hel", "", "x"], true) := by
    decide +kernel
  rw [run_of_ok hrun] at hseen
  obtain ⟨htexts, hfits⟩ := Prod.mk.inj (Option.some.inj hseen)
  refine ⟨rfl, hprompt, hkeys, fresh config, seen, ended, hshell, hrun, hall, htexts, ?_⟩
  intro t ht
  obtain ⟨first, rest, rfl⟩ := List.append_of_mem ht
  have hfirst : first ++ [t] <+: first ++ t :: rest := ⟨rest, by simp⟩
  exact hshown first t hfirst fun t' ht' =>
    of_decide_eq_true (List.all_eq_true.mp hfits t' (hfirst.subset ht'))

end LineShell.Builtin
