import LineShell.Editor.Terminal
import Mathlib.Tactic.Common

/-!
# Edits

An edit does something to the line (`Edit.apply`) and puts something out to show it
(`Edit.outputs`), both of which are said here by the line alone. On a console that refuses nothing,
that is all there is to running an edit: `run_eq` and, for edits one after the other, `runAll_eq`.
-/

namespace LineShell

/-- Places that the caret can be sent to. -/
inductive CaretMove
  | left
  | right
  | toStart
  | toEnd
  | wordBack
  | wordForward
  | position (n : Nat)
  deriving DecidableEq, Repr

/-- What can be done to the line being edited. -/
inductive Edit
  | move (m : CaretMove)
  | insert (typed : List Char)
  | removePrevious
  | removeCurrent
  | setInput (text : String)
  | toggleOverwrite
  deriving DecidableEq, Repr

/-! ### On a terminal -/

/-- Moves the caret. -/
def CaretMove.run : CaretMove → Attempt Terminal Unit
  | left => Terminal.moveLeft
  | right => Terminal.moveRight
  | toStart => Terminal.moveToStart
  | toEnd => Terminal.moveToEnd
  | wordBack => Terminal.moveWordBack
  | wordForward => Terminal.moveWordForward
  | position n => Terminal.setCaret n

namespace Edit

/-- Does an edit and shows it. -/
def run : Edit → Attempt Terminal Unit
  | move m => m.run
  | insert typed => Terminal.insert typed
  | removePrevious => Terminal.removePrevious
  | removeCurrent => Terminal.removeCurrent
  | setInput text => Terminal.setInput text
  | toggleOverwrite => Terminal.toggleOverwrite

/-- Does edits one after the other. -/
def runAll (edits : List Edit) : Attempt Terminal Unit :=
  edits.forM run

end Edit

/-! ### On the line alone -/

/-- The position that the caret is sent to. It may lie beyond the end of the line. -/
def CaretMove.goal (e : Editor) : CaretMove → Nat
  | left => e.caret - 1
  | right => e.caret + 1
  | toStart => 0
  | toEnd => e.buffer.length
  | wordBack => e.previousBoundary
  | wordForward => e.nextBoundary
  | position n => n

namespace Editor

/-- The line with the caret at a position, or at its end if the position lies beyond. -/
def withCaret (e : Editor) (position : Nat) : Editor :=
  { e with caret := min position e.buffer.length }

lemma length_take_caret_append {e : Editor} (h : e.caret ≤ e.buffer.length) (cs : List Char) :
    (e.buffer.take e.caret ++ cs).length = e.caret + cs.length := by
  rw [List.length_append, List.length_take, Nat.min_eq_left h]

/-- What is put out when the caret goes to a position. -/
def caretOutputs (e : Editor) (position : Nat) : List Output :=
  if min position e.buffer.length = e.caret then []
  else [.move ((min position e.buffer.length : Nat) - e.caret)]

/-- What is put out when the characters from the caret on moved up by one. -/
def tailOutputs (tail : List Char) : List Output :=
  [.text (.ofList (tail ++ [' '])), .move (-(tail ++ [' ']).length)]

end Editor

namespace Edit

open Editor

/-- What an edit does to the line. -/
def apply (e : Editor) : Edit → Editor
  | move m => e.withCaret (m.goal e)
  | insert typed =>
    let rest := if e.overwrite then e.tail.drop typed.length else e.tail
    { e with buffer := e.buffer.take e.caret ++ typed ++ rest, caret := e.caret + typed.length }
  | removePrevious =>
    if e.caret = 0 then e
    else { e with buffer := e.buffer.eraseIdx (e.caret - 1), caret := e.caret - 1 }
  | removeCurrent => { e with buffer := e.buffer.eraseIdx e.caret }
  | setInput text => { e with buffer := text.toList, caret := text.toList.length }
  | toggleOverwrite => { e with overwrite := !e.overwrite }

/-- What an edit puts out. -/
def outputs (e : Editor) : Edit → List Output
  | move m => e.caretOutputs (m.goal e)
  | insert typed =>
    if typed = [] then []
    else if e.overwrite ∨ e.tail = [] then [.text (.ofList typed)]
    else [.text (.ofList typed), .text (.ofList e.tail), .move (-e.tail.length)]
  | removePrevious =>
    if e.caret = 0 then [] else .move (-1) :: tailOutputs e.tail
  | removeCurrent =>
    if e.caret < e.buffer.length then tailOutputs (e.tail.drop 1) else []
  | setInput text =>
    let new := text.toList
    let common := Terminal.commonLength e.buffer new
    let stale := e.buffer.length - new.length
    .caretShown false :: e.caretOutputs common ++
      (if common < new.length then [.text (.ofList (new.drop common))] else []) ++
      (if stale > 0 then [.text (.ofList (List.replicate stale ' ')), .move (-stale)] else []) ++
      [.caretShown true]
  | toggleOverwrite => []

/-- What edits do to the line, one after the other. -/
def applyAll (e : Editor) (edits : List Edit) : Editor :=
  edits.foldl apply e

/-- What edits put out, one after the other. -/
def outputsAll (e : Editor) : List Edit → List Output
  | [] => []
  | edit :: edits => edit.outputs e ++ outputsAll (edit.apply e) edits

/-- The characters that an edit brings into the line. -/
def added : Edit → List Char
  | insert typed => typed
  | setInput text => text.toList
  | _ => []

variable {e : Editor}

lemma apply_insert_nil (e : Editor) : (insert []).apply e = e := by
  simp [apply, Editor.tail]

lemma caret_le_apply (h : e.caret ≤ e.buffer.length) (edit : Edit) :
    (edit.apply e).caret ≤ (edit.apply e).buffer.length := by
  cases edit with
  | move m => exact Nat.min_le_right _ _
  | insert typed =>
    simp only [apply, List.length_append, List.length_take, Nat.min_eq_left h]
    omega
  | removePrevious =>
    by_cases hcaret : e.caret = 0
    · rw [apply, if_pos hcaret]
      exact h
    · rw [apply, if_neg hcaret]
      dsimp only
      rw [List.length_eraseIdx]
      split_ifs <;> omega
  | removeCurrent =>
    simp only [apply, List.length_eraseIdx]
    split_ifs <;> omega
  | setInput text => exact Nat.le_refl _
  | toggleOverwrite => exact h

/-- An edit keeps characters of the line and brings in its own. -/
lemma mem_buffer_apply {edit : Edit} {a : Char} (h : a ∈ (edit.apply e).buffer) :
    a ∈ e.buffer ∨ a ∈ edit.added := by
  cases edit with
  | move m => exact .inl h
  | insert typed =>
    simp only [apply, List.mem_append] at h
    rcases h with (h | h) | h
    · exact .inl (List.mem_of_mem_take h)
    · exact .inr h
    · left
      by_cases hoverwrite : e.overwrite
      · rw [if_pos hoverwrite] at h
        exact List.mem_of_mem_drop (List.mem_of_mem_drop h)
      · rw [if_neg hoverwrite] at h
        exact List.mem_of_mem_drop h
  | removePrevious =>
    left
    by_cases hcaret : e.caret = 0
    · rw [apply, if_pos hcaret] at h
      exact h
    · rw [apply, if_neg hcaret] at h
      exact List.mem_of_mem_eraseIdx h
  | removeCurrent => exact .inl (List.mem_of_mem_eraseIdx h)
  | setInput text => exact .inr h
  | toggleOverwrite => exact .inl h

end Edit

/-! ### A console that refuses nothing -/

/-- The console after some outputs, none of which it refuses. -/
def Console.puts (c : Console) (os : List Output) : Console :=
  os.foldl (fun c o => { c.apply o with record := o :: c.record }) c

lemma Console.puts_cons (c : Console) (o : Output) (os : List Output) :
    c.puts (o :: os) = (c.puts [o]).puts os := rfl

lemma Console.puts_append (c : Console) (os os' : List Output) :
    c.puts (os ++ os') = (c.puts os).puts os' :=
  List.foldl_append

@[simp] lemma Console.refusals_puts (c : Console) (os : List Output) :
    (c.puts os).refusals = c.refusals := by
  induction os generalizing c with
  | nil => rfl
  | cons o os ih =>
    refine (ih _).trans ?_
    cases o <;> rfl

namespace Terminal

variable {c : Console} {e : Editor} {α : Type}

lemma output_eq (h : c.refusals = []) (o : Output) :
    output o ⟨c, e⟩ = .ok () ⟨c.puts [o], e⟩ := by
  have hrefusals : (c.apply o).refusals = [] := by
    cases o <;> exact h
  simp only [output, onConsole, Attempt.within, Console.output, h, Refusals.next_nil]
  simp only [← hrefusals]
  rfl

lemma bind_of_ok {β : Type} {a : Attempt Terminal β} {b : β} {t t' : Terminal} (h : a t = .ok b t')
    (f : β → Attempt Terminal α) : (a >>= f) t = f b t' := by
  show EStateM.bind a f t = _
  rw [EStateM.bind, h]

lemma output_bind (h : c.refusals = []) (o : Output) (f : Unit → Attempt Terminal α) :
    (output o >>= f) ⟨c, e⟩ = f () ⟨c.puts [o], e⟩ :=
  bind_of_ok (output_eq h o) f

/-- Two outputs where a condition holds, none otherwise. -/
lemma outputs_bind_of (h : c.refusals = []) (p : Prop) [Decidable p] (o o' : Output)
    (rest : Attempt Terminal α) :
    (if p then do output o; output o'; rest else rest) ⟨c, e⟩ =
      rest ⟨c.puts (if p then [o, o'] else []), e⟩ := by
  by_cases hp : p
  · rw [if_pos hp, if_pos hp, output_bind h, output_bind (by simp [h])]
    rfl
  · rw [if_neg hp, if_neg hp]
    rfl

/-- An output where a condition holds, none otherwise. -/
lemma output_bind_of (h : c.refusals = []) (p : Prop) [Decidable p] (o : Output)
    (rest : Attempt Terminal α) :
    (if p then do output o; rest else rest) ⟨c, e⟩ =
      rest ⟨c.puts (if p then [o] else []), e⟩ := by
  by_cases hp : p
  · rw [if_pos hp, if_pos hp, output_bind h]
  · rw [if_neg hp, if_neg hp]
    rfl

lemma get_bind (t : Terminal) (f : Terminal → Attempt Terminal α) :
    (get >>= f) t = f t t := rfl

lemma modifyEditor_eq (g : Editor → Editor) : modifyEditor g ⟨c, e⟩ = .ok () ⟨c, g e⟩ := rfl

lemma modifyEditor_bind (g : Editor → Editor) (f : Unit → Attempt Terminal α) :
    (modifyEditor g >>= f) ⟨c, e⟩ = f () ⟨c, g e⟩ := rfl

lemma setCaret_eq (h : c.refusals = []) (position : Nat) :
    setCaret position ⟨c, e⟩ = .ok () ⟨c.puts (e.caretOutputs position), e.withCaret position⟩ := by
  unfold setCaret
  rw [get_bind]
  dsimp only
  by_cases hstays : min position e.buffer.length = e.caret
  · rw [if_neg (not_not.mpr hstays), Editor.caretOutputs, if_pos hstays]
    rfl
  · rw [if_pos hstays, output_bind h, Editor.caretOutputs, if_neg hstays]
    rfl

lemma moveCaret_eq (h : c.refusals = []) (m : CaretMove) :
    m.run ⟨c, e⟩ = .ok () ⟨c.puts (e.caretOutputs (m.goal e)), e.withCaret (m.goal e)⟩ := by
  cases m <;> exact setCaret_eq h _

lemma redrawTail_eq (h : c.refusals = []) :
    redrawTail ⟨c, e⟩ = .ok () ⟨c.puts (Editor.tailOutputs e.tail), e⟩ := by
  unfold redrawTail
  rw [get_bind]
  dsimp only
  rw [output_bind h, output_eq (by simp [h])]
  rfl

lemma drop_eraseIdx {α : Type} (xs : List α) (i : Nat) :
    (xs.eraseIdx i).drop i = xs.drop (i + 1) := by
  induction xs generalizing i with
  | nil => simp
  | cons x xs ih =>
    cases i with
    | zero => rfl
    | succ i => exact ih i

lemma insert_eq (h : c.refusals = []) (typed : List Char) :
    insert typed ⟨c, e⟩ =
      .ok () ⟨c.puts ((Edit.insert typed).outputs e), (Edit.insert typed).apply e⟩ := by
  unfold insert
  cases typed with
  | nil =>
    rw [Edit.apply_insert_nil]
    rfl
  | cons a typed =>
    have hne : ¬ ((a :: typed).isEmpty = true) := by simp
    rw [if_neg hne, get_bind]
    dsimp only
    by_cases hoverwrite : e.overwrite
    · rw [if_pos hoverwrite, modifyEditor_bind, output_bind h, modifyEditor_eq]
      simp [Edit.apply, Edit.outputs, hoverwrite]
    · rw [if_neg hoverwrite, modifyEditor_bind, output_bind h]
      by_cases htail : e.tail = []
      · rw [if_neg (by simp [htail])]
        simp [Edit.apply, Edit.outputs, hoverwrite, htail]
        rfl
      · rw [if_pos (by simp [htail]), output_bind (by simp [h]), output_eq (by simp [h]),
          ← Console.puts_append, ← Console.puts_append]
        simp [Edit.apply, Edit.outputs, hoverwrite, htail]

lemma removePrevious_eq (h : c.refusals = []) :
    removePrevious ⟨c, e⟩ =
      .ok () ⟨c.puts (Edit.removePrevious.outputs e), Edit.removePrevious.apply e⟩ := by
  unfold removePrevious
  rw [get_bind]
  dsimp only
  by_cases hcaret : e.caret = 0
  · rw [if_neg (not_not.mpr hcaret), Edit.outputs, Edit.apply, if_pos hcaret, if_pos hcaret]
    rfl
  · have htail : (e.buffer.eraseIdx (e.caret - 1)).drop (e.caret - 1) = e.tail := by
      rw [drop_eraseIdx, Nat.sub_add_cancel (by omega)]
      rfl
    rw [if_pos hcaret, modifyEditor_bind, output_bind h, redrawTail_eq (by simp [h]),
      ← Console.puts_append, Edit.outputs, Edit.apply, if_neg hcaret, if_neg hcaret]
    unfold Editor.tail
    dsimp only
    rw [htail]
    rfl

lemma removeCurrent_eq (h : c.refusals = []) :
    removeCurrent ⟨c, e⟩ =
      .ok () ⟨c.puts (Edit.removeCurrent.outputs e), Edit.removeCurrent.apply e⟩ := by
  unfold removeCurrent
  rw [get_bind]
  dsimp only
  by_cases hcaret : e.caret < e.buffer.length
  · have htail : (e.buffer.eraseIdx e.caret).drop e.caret = e.tail.drop 1 := by
      rw [drop_eraseIdx, Editor.tail, List.drop_drop]
    rw [if_pos hcaret, modifyEditor_bind, redrawTail_eq h, Edit.outputs, if_pos hcaret, Edit.apply,
      ← htail]
    rfl
  · have hkeep : e.buffer.eraseIdx e.caret = e.buffer := List.eraseIdx_of_length_le (by omega)
    rw [if_neg hcaret, Edit.outputs, if_neg hcaret, Edit.apply, hkeep]
    rfl

lemma setInput_eq (h : c.refusals = []) (text : String) :
    setInput text ⟨c, e⟩ =
      .ok () ⟨c.puts ((Edit.setInput text).outputs e), (Edit.setInput text).apply e⟩ := by
  unfold setInput
  rw [get_bind]
  dsimp only
  rw [output_bind h, bind_of_ok (setCaret_eq (by simp [h]) _), output_bind_of (by simp [h]),
    outputs_bind_of (by simp [h]), modifyEditor_bind, output_eq (by simp [h])]
  simp only [← Console.puts_append, Edit.outputs, Edit.apply]
  rfl

end Terminal

namespace Edit

variable {c : Console} {e : Editor}

/-- On a console that refuses nothing, an edit does what it does to the line and puts out what shows
it. -/
theorem run_eq (h : c.refusals = []) (edit : Edit) :
    edit.run ⟨c, e⟩ = .ok () ⟨c.puts (edit.outputs e), edit.apply e⟩ := by
  cases edit with
  | move m => exact Terminal.moveCaret_eq h m
  | insert typed => exact Terminal.insert_eq h typed
  | removePrevious => exact Terminal.removePrevious_eq h
  | removeCurrent => exact Terminal.removeCurrent_eq h
  | setInput text => exact Terminal.setInput_eq h text
  | toggleOverwrite => rfl

/-- The same of edits one after the other. -/
theorem runAll_eq (h : c.refusals = []) (edits : List Edit) :
    runAll edits ⟨c, e⟩ = .ok () ⟨c.puts (outputsAll e edits), applyAll e edits⟩ := by
  induction edits generalizing c e with
  | nil => rfl
  | cons edit edits ih =>
    have hcons : runAll (edit :: edits) = edit.run >>= fun _ => runAll edits := rfl
    rw [hcons, Terminal.bind_of_ok (run_eq h edit), ih (by simp [h]), outputsAll,
      Console.puts_append]
    rfl

end Edit

end LineShell
