import LineShell.Proofs.Editor.Redraw
import LineShell.Proofs.Shell.OneRow
import LineShell.Proofs.Shell.Pieces

/-!
# The line behind the prompt

A shell is in step where its screen shows the line behind the prompt, the caret included, as long as
there is room for it (`Shell.InStep`). The line editor keeps it so, and a submitted line leaves the
prompt on a row of its own with nothing behind it.
-/

namespace LineShell

open Screen (StaysInRow)

variable {S : Signature} {above : List (Array Char)} {before : List Char}

/-! ### What is shown -/

namespace Console

variable {c : Console} {text : List Char} {column : Nat} {shown : Bool}

/-- The record of the outputs does not show. -/
lemma shows_puts {os : List Output} :
    (c.puts os).Shows above text column shown ↔ (c.display os).Shows above text column shown := by
  rw [puts_eq_display]
  exact ⟨fun h => ⟨h.screen, h.caretShown⟩, fun h => ⟨h.screen, h.caretShown⟩⟩

/-- Text behind what stands in the row, the caret at its end. -/
lemma Shows.display_text (h : c.Shows above text text.length shown) {more : String}
    (hmore : OneRow more) : (c.display [.text more]).Shows above (text ++ more.toList)
      (text ++ more.toList).length shown := by
  have hrow : c.Shows above (text ++ []) text.length shown := by rwa [List.append_nil]
  have hwritten := hrow.puts_text hmore
  rw [List.drop_nil, List.append_nil, String.ofList_toList, shows_puts] at hwritten
  exact hwritten

/-- The end of a line leaves an empty row. -/
lemma shows_display_lineEnd (c : Console) :
    (c.display Shell.lineEnd).Shows (c.screen.row :: c.screen.above) [] 0 c.caretShown := by
  have hscreen : (c.display Shell.lineEnd).screen =
      { above := c.screen.row :: c.screen.above, row := #[], column := 0 } := by
    simp [Shell.lineEnd, apply, Screen.put]
  exact ⟨hscreen ▸ ⟨rfl, ⟨0, rfl⟩, rfl⟩, rfl⟩

end Console

lemma Terminal.InStep.of_puts {c : Console} {os : List Output} {e : Editor}
    (h : Terminal.InStep above before ⟨c.puts os, e⟩) :
    Terminal.InStep above before ⟨c.display os, e⟩ :=
  ⟨Console.shows_puts.mp h.shows, h.caret_le, h.stays⟩

/-- Each terminal shows its line, up to the first one that has no room for it. -/
def Terminal.AllInStep (before : List Char) : List Terminal → Prop
  | [] => True
  | t :: ts => t.editor.Fits before → (∃ above, t.InStep above before) ∧ AllInStep before ts

lemma Terminal.AllInStep.exists_inStep {ts first : List Terminal} {t : Terminal}
    (h : AllInStep before ts) (hfirst : first ++ [t] <+: ts)
    (hfits : ∀ t' ∈ first ++ [t], t'.editor.Fits before) : ∃ above, t.InStep above before := by
  induction first generalizing ts with
  | nil =>
    obtain ⟨more, rfl⟩ := hfirst
    exact (h (hfits t List.mem_cons_self)).1
  | cons t' first ih =>
    obtain ⟨more, rfl⟩ := hfirst
    obtain ⟨hnow, hrest⟩ := List.forall_mem_cons.mp hfits
    exact ih (h hnow).2 (List.prefix_append _ _) hrest

lemma Editor.fits_withCaret {e : Editor} {position : Nat} :
    (e.withCaret position).Fits before ↔ e.Fits before := Iff.rfl

/-- The terminal is noted each time, but for the record of the console and what has come in. -/
def Notes.terminals : Notes S Terminal where
  reading shell := [shell.view.terminal]
  pressing _ shell := [shell.view.terminal]
  reading_view _ := rfl
  pressing_view _ _ := rfl

namespace Shell

/-- The screen shows the line behind some characters, the caret of the console at that of the line,
as long as there is room for it. -/
def InStep (before : List Char) (shell : Shell S) : Prop :=
  shell.editor.Fits before → ∃ above, shell.terminal.InStep above before

variable {app : Application S} {structured : S.Command → Structured S} {shell : Shell S}

/-! ### The line editor -/

lemma InStep.edited (h : shell.InStep before) (hfits : shell.editor.Fits before) {edit : Edit}
    (hadded : ∀ a ∈ edit.added, StaysInRow a) : (shell.edited edit).InStep before := by
  intro hfits'
  obtain ⟨above, hstep⟩ := h hfits
  exact ⟨above, (hstep.apply hadded hfits hfits').of_puts⟩

lemma InStep.recalled (h : shell.InStep before) (hfits : shell.editor.Fits before)
    {found : Option String × History} (hfound : ∀ text, found.1 = some text → OneRow text) :
    (shell.recalled found).InStep before := by
  have hmoved : ({ shell with history := found.2 } : Shell S).InStep before := h
  rw [Shell.recalled]
  cases hline : found.1 with
  | none => exact hmoved
  | some text => exact hmoved.edited hfits (hfound text hline)

lemma InStep.completed (h : shell.InStep before) (hfits : shell.editor.Fits before)
    (hrow : shell.InRow) (hoffers : ∀ text ∈ shell.suggestions app shell.currentLine, OneRow text)
    (d : Direction) : (shell.completed app d).InStep before := by
  rw [Shell.completed]
  cases hc : shell.nextCompletion app d with
  | none => exact h
  | some c =>
    have hadded : ∀ a ∈ (Edit.setInput (.ofList c.line)).added, StaysInRow a := by
      rw [Edit.added, String.toList_ofList]
      exact (hrow.inRow_nextCompletion hoffers hc).line
    have hbegun : ({ shell with completion := some c } : Shell S).InStep before := h
    have hline := hbegun.edited hfits hadded
    -- the caret moves within the line that was put in, so there was room for the line before
    intro hmoved
    have hfits' := hmoved
    rw [editor_edited, Edit.apply, Editor.fits_withCaret] at hfits'
    exact hline.edited hfits' (List.forall_mem_nil _) hmoved

/-! ### Submitted lines -/

lemma ready_reported (outcome : Except Failure Unit) :
    (shell.reported outcome).ready = shell.ready := by
  match outcome with
  | .ok () | .error .cancelled => rfl
  | .error (.system _) | .error (.malformed _) | .error (.command _) | .error (.other _) => rfl

lemma ready_answered (happ : app.IsPlain structured) (line : Line) :
    (shell.answered structured line).ready = shell.ready := by
  rw [answered]
  cases shell.reception structured line with
  | unclaimed => rfl
  | rejected c input issues =>
    exact (keeps_ready (Run.isPlain_explain happ c input issues)).final rfl
  | declined c input => rfl
  | accepted c input =>
    exact executed_of (keeps_ready (happ.execute c input 0))
      (fun _ outcome h => (ready_reported outcome).trans h) rfl

/-- What a line does signals no readiness. -/
lemma ready_taken (happ : app.IsPlain structured) :
    (shell.taken structured).ready = shell.ready := by
  rw [taken]
  split_ifs
  · rfl
  · exact ready_answered happ _

/-- Readiness is signalled by the prompt. -/
lemma shows_announced (hannounce : app.announce = .writePrompt) (hready : shell.ready = false)
    (hrow : shell.console.Shows above [] 0 true) (hprompt : OneRow shell.config.prompt) :
    (shell.announced app).console.Shows above shell.config.prompt.toList
      shell.config.prompt.toList.length true := by
  rw [announced, if_neg (Bool.eq_false_iff.mp hready), hannounce]
  exact hrow.display_text hprompt

/-- Nothing is behind the prompt where the line is empty. -/
lemma inStep_emptied (h : shell.console.Shows above before before.length true) :
    shell.emptied.InStep before := by
  refine fun _ => ⟨above, ?_, Nat.le_refl 0, List.forall_mem_nil _⟩
  show Console.Shows above (before ++ []) before.length true shell.console
  rw [List.append_nil]
  exact h

/-- When a line was submitted, the prompt is on a row of its own. -/
lemma inStep_concluded (hannounce : app.announce = .writePrompt) (hready : shell.ready = false)
    (hshown : shell.console.caretShown = true) (hprompt : OneRow shell.config.prompt) :
    (shell.concluded app).emptied.InStep shell.config.prompt.toList := by
  have hrow := Console.shows_display_lineEnd shell.console
  rw [hshown] at hrow
  rw [concluded, if_neg (Bool.eq_false_iff.mp hready)]
  have hwritten : ((shell.display lineEnd).announced app).console.Shows _ _ _ true :=
    shows_announced hannounce hready hrow hprompt
  exact inStep_emptied hwritten

/-! ### Sessions -/

/-- What typing and bound keys keep where there is room for the line, with the shell in step. -/
structure IsStepInvariant (app : Application S) (structured : S.Command → Structured S)
    (before : List Char) (I : Shell S → Prop) : Prop where
  inStep : ∀ {shell}, I shell → shell.InStep before
  insert : ∀ {shell typed}, I shell → shell.editor.Fits before → (∀ a ∈ typed, StaysInRow a) →
    I (shell.edited (.insert typed))
  pressed : ∀ {shell} key b, I shell → shell.editor.Fits before →
    I (shell.pressed app structured key b)

/-- A terminal is noted as it is seen. -/
lemma InStep.view (h : shell.InStep before) (hfits : shell.editor.Fits before) :
    ∃ above, shell.view.terminal.InStep above before := by
  obtain ⟨above, hstep⟩ := h hfits
  exact ⟨above, ⟨hstep.shows.screen, hstep.shows.caretShown⟩, hstep.caret_le, hstep.stays⟩

/-- In a session, the screen shows the line each time a key is about to be read or to do what it is
bound to, until there is no room for it. The induction is on the keys. -/
lemma IsStepInvariant.allInStep_noted {I : Shell S → Prop} {rawMode : Bool}
    (hI : IsStepInvariant app structured before I) (h : I shell) {keys : List Key}
    (hkeys : ∀ key ∈ keys, key.StaysInRow) {typed : List Char}
    (htyped : ∀ a ∈ typed, StaysInRow a) :
    Terminal.AllInStep before (shell.noted .terminals app structured rawMode keys typed) := by
  have hflush : ∀ {shell : Shell S} {typed : List Char}, I shell → shell.editor.Fits before →
      (∀ a ∈ typed, StaysInRow a) → I (shell.edited (.insert typed.reverse)) :=
    fun h hfits htyped => hI.insert h hfits fun a ha => htyped a (List.mem_reverse.mp ha)
  induction keys generalizing shell typed with
  | nil =>
    rw [noted]
    split_ifs
    · trivial
    · exact fun hfits => ⟨(hI.inStep h).view hfits, trivial⟩
  | cons key keys ih =>
    obtain ⟨hkey, hkeys⟩ := List.forall_mem_cons.mp hkeys
    rw [noted]
    by_cases hexit : shell.exitRequested
    · rw [if_pos hexit]
      trivial
    rw [if_neg hexit]
    refine fun hfits => ⟨(hI.inStep h).view hfits, ?_⟩
    cases Run.bindingOf shell rawMode key with
    | some b =>
      have hflushed := hflush h hfits htyped
      exact fun hfits' => ⟨(hI.inStep hflushed).view hfits',
        ih (hI.pressed key b hflushed hfits') hkeys (List.forall_mem_nil _)⟩
    | none =>
      have htyped' : ∀ a ∈ key.character?.toList ++ typed, StaysInRow a :=
        List.forall_mem_append.mpr ⟨hkey.forall_mem, htyped⟩
      dsimp only
      split_ifs
      · exact ih (hflush h hfits htyped') hkeys (List.forall_mem_nil _)
      · exact ih h hkeys htyped'

/-- No key is read without a terminal that is noted for it. -/
lemma length_le_noted {rawMode : Bool} (keys : List Key) (typed : List Char) (shell : Shell S) :
    keys.length ≤ (shell.noted .terminals app structured rawMode keys typed).length +
      (shell.session app structured rawMode keys typed).2.length := by
  induction keys generalizing shell typed with
  | nil => exact Nat.zero_le _
  | cons key keys ih =>
    by_cases hexit : shell.exitRequested
    · rw [session_of_exitRequested hexit]
      exact Nat.le_add_left _ _
    rw [noted, session, if_neg hexit, if_neg hexit, List.length_append]
    show keys.length + 1 ≤ 1 + _ + _
    cases Run.bindingOf shell rawMode key with
    | some b =>
      have hrest := ih [] ((shell.edited (.insert typed.reverse)).pressed app structured key b)
      dsimp only
      rw [List.length_append]
      omega
    | none =>
      have hrest := ih (key.character?.toList ++ typed) shell
      dsimp only
      split_ifs with hlast
      · rw [List.isEmpty_iff.mp hlast, List.length_nil]
        omega
      · omega

end Shell

end LineShell
