import LineShell.Proofs.Editor.Edit

/-!
# Edits on any console

A console may refuse outputs, and then an edit fails. Whatever comes of an edit, what is in the
queue stays there. If the edit succeeds, it has done to the line what it does. If it fails, the
characters of the line are those from before the edit or those from after it, and the caret is still
within the line (`Edit.run_settles`, `Edit.cuts_ending`).
-/

namespace LineShell

variable {α β : Type}

/-- The state that a computation ends in, with a result or without one. -/
def ending {ε σ : Type} : EStateM.Result ε σ α → σ
  | .ok _ s => s
  | .error _ s => s

/-- An operation leaves the queue as it was. It succeeds with one line, or it fails with a line of
some kind. -/
inductive Settles (queue : List Event) (failed : Editor → Prop) (e : Editor) :
    EStateM.Result Failure Terminal α → Prop
  | ok (a : α) {c : Console} (hqueue : c.queue = queue) : Settles queue failed e (.ok a ⟨c, e⟩)
  | failure (f : Failure) {t : Terminal} (hqueue : t.console.queue = queue)
    (h : failed t.editor) : Settles queue failed e (.error f t)

lemma Settles.bind {queue : List Event} {failed : Editor → Prop} {e e' : Editor} {t : Terminal}
    {a : Attempt Terminal α} {k : α → Attempt Terminal β} (h : Settles queue failed e (a t))
    (hk : ∀ x c, c.queue = queue → Settles queue failed e' (k x ⟨c, e⟩)) :
    Settles queue failed e' ((a >>= k) t) := by
  show Settles queue failed e' (EStateM.bind a k t)
  rw [EStateM.bind]
  generalize a t = x at h
  cases h with
  | ok a hqueue => exact hk a _ hqueue
  | failure f hqueue h => exact .failure f hqueue h

namespace Terminal

variable {c : Console} {e : Editor} {queue : List Event} {failed : Editor → Prop}

/-- Whether an output is refused or not, the line stays as it is. -/
lemma output_settles (hqueue : c.queue = queue) (h : failed e) (o : Output) :
    Settles queue failed e (output o ⟨c, e⟩) := by
  simp only [output, onConsole, Attempt.within, Console.output]
  rcases c.refusals.next with ⟨refused, rest⟩
  cases refused with
  | true => exact .failure _ hqueue h
  | false =>
    refine .ok () ?_
    cases o <;> exact hqueue

lemma setCaret_settles (hqueue : c.queue = queue) (h : failed e) (position : Nat) :
    Settles queue failed (e.withCaret position) (setCaret position ⟨c, e⟩) := by
  unfold setCaret
  rw [get_bind]
  dsimp only
  split_ifs
  · exact (output_settles hqueue h _).bind fun _ _ hqueue => .ok () hqueue
  · exact .ok () hqueue

lemma redrawTail_settles (hqueue : c.queue = queue) (h : failed e) :
    Settles queue failed e (redrawTail ⟨c, e⟩) := by
  unfold redrawTail
  rw [get_bind]
  exact (output_settles hqueue h _).bind fun _ _ hqueue => output_settles hqueue h _

/-- While characters are overwritten, the caret moves last of all. -/
lemma insert_settles (hqueue : c.queue = queue) (typed : List Char)
    (hwritten : failed { e with buffer := ((Edit.insert typed).apply e).buffer })
    (hafter : failed ((Edit.insert typed).apply e)) :
    Settles queue failed ((Edit.insert typed).apply e) (insert typed ⟨c, e⟩) := by
  unfold insert
  split_ifs with htyped
  · rw [List.isEmpty_iff.mp htyped, Edit.apply_insert_nil]
    exact .ok () hqueue
  rw [get_bind]
  dsimp only
  simp only [Edit.apply] at hwritten hafter ⊢
  split_ifs at hwritten hafter ⊢
  · rw [modifyEditor_bind]
    exact (output_settles hqueue hwritten _).bind fun _ _ hqueue => .ok () hqueue
  · rw [modifyEditor_bind]
    refine (output_settles hqueue hafter _).bind fun _ c hqueue => ?_
    exact (output_settles hqueue hafter _).bind fun _ _ hqueue => output_settles hqueue hafter _
  · rw [modifyEditor_bind]
    exact (output_settles hqueue hafter _).bind fun _ _ hqueue => .ok () hqueue

lemma removePrevious_settles (hqueue : c.queue = queue)
    (hafter : failed (Edit.removePrevious.apply e)) :
    Settles queue failed (Edit.removePrevious.apply e) (removePrevious ⟨c, e⟩) := by
  unfold removePrevious
  rw [get_bind]
  dsimp only
  by_cases hcaret : e.caret = 0
  · rw [if_neg (not_not.mpr hcaret), Edit.apply, if_pos hcaret]
    exact .ok () hqueue
  · rw [Edit.apply, if_neg hcaret] at hafter ⊢
    rw [if_pos hcaret, modifyEditor_bind]
    exact (output_settles hqueue hafter _).bind fun _ _ hqueue => redrawTail_settles hqueue hafter

lemma removeCurrent_settles (hqueue : c.queue = queue)
    (hafter : failed (Edit.removeCurrent.apply e)) :
    Settles queue failed (Edit.removeCurrent.apply e) (removeCurrent ⟨c, e⟩) := by
  unfold removeCurrent
  rw [get_bind]
  dsimp only
  by_cases hcaret : e.caret < e.buffer.length
  · rw [if_pos hcaret, modifyEditor_bind]
    exact redrawTail_settles hqueue hafter
  · rw [if_neg hcaret, Edit.apply, List.eraseIdx_of_length_le (by omega)]
    exact .ok () hqueue

/-- The caret goes where the lines part before anything is written. The line is replaced when all
is written. -/
lemma setInput_settles (hqueue : c.queue = queue) (text : String) (hbefore : failed e)
    (hmoved : failed (e.withCaret (commonLength e.buffer text.toList)))
    (hafter : failed ((Edit.setInput text).apply e)) :
    Settles queue failed ((Edit.setInput text).apply e) (setInput text ⟨c, e⟩) := by
  have hreplaced : ∀ c : Console, c.queue = queue →
      Settles queue failed ((Edit.setInput text).apply e) ((do
        modifyEditor fun e => { e with buffer := text.toList, caret := text.toList.length }
        output (.caretShown true)) ⟨c, e.withCaret (commonLength e.buffer text.toList)⟩) :=
    fun _ hqueue => output_settles hqueue hafter _
  unfold setInput
  rw [get_bind]
  refine (output_settles hqueue hbefore _).bind fun _ _ hqueue => ?_
  refine (setCaret_settles hqueue hbefore _).bind fun _ _ hqueue => ?_
  have hcleared : ∀ c : Console, c.queue = queue →
      Settles queue failed ((Edit.setInput text).apply e) ((do
        output (.text (.ofList (List.replicate (e.buffer.length - text.toList.length) ' ')))
        output (.move (-(e.buffer.length - text.toList.length : Nat)))
        modifyEditor fun e => { e with buffer := text.toList, caret := text.toList.length }
        output (.caretShown true)) ⟨c, e.withCaret (commonLength e.buffer text.toList)⟩) := by
    intro c hqueue
    refine (output_settles hqueue hmoved _).bind fun _ _ hqueue => ?_
    exact (output_settles hqueue hmoved _).bind fun _ c hqueue => hreplaced c hqueue
  dsimp only
  split_ifs
  · exact (output_settles hqueue hmoved _).bind fun _ c hqueue => hcleared c hqueue
  · exact (output_settles hqueue hmoved _).bind fun _ c hqueue => hreplaced c hqueue
  · exact hcleared _ hqueue
  · exact hreplaced _ hqueue

end Terminal

namespace Edit

variable {e : Editor} {edit : Edit}

/-- What an edit that fails may leave of a line: the characters from before the edit or those from
after it, and a caret within the line. -/
structure Cuts (edit : Edit) (e e' : Editor) : Prop where
  buffer_eq : e'.buffer = e.buffer ∨ e'.buffer = (edit.apply e).buffer
  caret_le : e.caret ≤ e.buffer.length → e'.caret ≤ e'.buffer.length

lemma cuts_before (edit : Edit) (e : Editor) : edit.Cuts e e :=
  ⟨.inl rfl, id⟩

lemma cuts_after (edit : Edit) (e : Editor) : edit.Cuts e (edit.apply e) :=
  ⟨.inr rfl, fun h => caret_le_apply h edit⟩

/-- Whatever a console refuses, an edit that succeeds does to the line what it does, and an edit
that fails leaves the characters from before it or those from after it. What is in the queue stays
there. -/
theorem run_settles (edit : Edit) (t : Terminal) :
    Settles t.console.queue (edit.Cuts t.editor) (edit.apply t.editor) (edit.run t) := by
  obtain ⟨c, e⟩ := t
  have hbefore := cuts_before edit e
  have hafter := cuts_after edit e
  cases edit with
  | move m => cases m <;> exact Terminal.setCaret_settles rfl hbefore _
  | insert typed =>
    refine Terminal.insert_settles rfl typed ⟨.inr rfl, fun h => ?_⟩ hafter
    simp only [apply, List.length_append, List.length_take, Nat.min_eq_left h]
    omega
  | removePrevious => exact Terminal.removePrevious_settles rfl hafter
  | removeCurrent => exact Terminal.removeCurrent_settles rfl hafter
  | setInput text =>
    exact Terminal.setInput_settles rfl text hbefore ⟨.inl rfl, fun _ => Nat.min_le_right _ _⟩
      hafter
  | toggleOverwrite => exact .ok () rfl

/-- What an edit leaves of a line, whether it succeeds or fails. -/
lemma cuts_ending (edit : Edit) (t : Terminal) :
    edit.Cuts t.editor (ending (edit.run t)).editor := by
  have hsettles := run_settles edit t
  generalize edit.run t = x at hsettles
  cases hsettles with
  | ok _ _ => exact cuts_after edit t.editor
  | failure _ _ h => exact h

end Edit

end LineShell
