import LineShell.Proofs.Editor.Pieces
import LineShell.Proofs.Editor.Redraw
import Mathlib.Data.List.DropRight

/-!
# Edits that come to the same

On a terminal that is in step, inserting in two pieces is inserting at once, taking back what was
inserted restores the line, and removing the character under the caret is going past it and removing
it from behind: on the line and on the screen (`Edit.edits_agree`).
-/

namespace LineShell

variable {above : List (Array Char)} {before : List Char} {t : Terminal} {c : Console} {e : Editor}

/-- The last row of a screen but for the blanks at its end. -/
def Screen.trimmedRow (s : Screen) : List Char :=
  s.row.toList.rdropWhile (· = ' ')

lemma Screen.Shows.trimmedRow_eq {s : Screen} {text : List Char} {column : Nat}
    (h : s.Shows above text column) : s.trimmedRow = text.rdropWhile (· = ' ') := by
  obtain ⟨k, hrow⟩ := h.row_eq
  rw [trimmedRow, hrow]
  clear hrow
  induction k with
  | zero => rw [List.replicate_zero, List.append_nil]
  | succ k ih =>
    rw [List.replicate_succ', ← List.append_assoc, List.rdropWhile_concat,
      if_pos (decide_eq_true rfl), ih]

namespace Console

lemma screen_puts (c : Console) (os : List Output) :
    (c.puts os).screen = (c.display os).screen := by
  rw [puts_eq_display]

end Console

namespace Terminal

/-- The caret is within the row, so it is brought back to where it was. -/
lemma InStep.hasRoom (h : InStep above before t) (hfits : t.editor.Fits before) : t.HasRoom := by
  by_cases hend : t.editor.tail = []
  · exact .inr (.inl hend)
  · have hcaret : t.editor.caret < t.editor.buffer.length := by
      by_contra hcaret
      exact hend (List.drop_of_length_le (Nat.le_of_not_lt hcaret))
    rw [Editor.Fits] at hfits
    refine .inr (.inr ?_)
    rw [h.shows.screen.column_eq]
    omega

/-- A move to the right and back. -/
lemma InStep.move_back (h : InStep above before ⟨c, e⟩) (hfits : e.Fits before)
    (hcaret : e.caret < e.buffer.length) : (c.screen.move 1).move (-1) = c.screen := by
  have hcolumn : c.screen.column = before.length + e.caret := h.shows.screen.column_eq
  rw [Editor.Fits] at hfits
  rw [Screen.move, Screen.move]
  congr 1
  show min ((min ((c.screen.column : Int) + 1).toNat maxCount : Nat) + (-1 : Int)).toNat maxCount =
    c.screen.column
  omega

end Terminal

namespace Edit

/-! ### Taking back -/

lemma apply_removePrevious_concat {xs ys : List Char} {y : Char}
    (hbuffer : e.buffer = xs ++ [y] ++ ys) (hcaret : e.caret = (xs ++ [y]).length) :
    removePrevious.apply e = { e with buffer := xs ++ ys, caret := xs.length } := by
  have hlength : e.caret = xs.length + 1 := by
    rw [hcaret, List.length_append, List.length_singleton]
  have herase : (xs ++ [y] ++ ys).eraseIdx xs.length = xs ++ ys := by
    rw [List.append_assoc, List.eraseIdx_append_of_length_le (Nat.le_refl _), Nat.sub_self]
    rfl
  rw [apply, if_neg (by omega), hlength, Nat.add_sub_cancel, hbuffer, herase]

/-- The induction is on what was typed: its last character goes first. -/
lemma applyAll_removePrevious {xs typed ys : List Char} (hbuffer : e.buffer = xs ++ typed ++ ys)
    (hcaret : e.caret = (xs ++ typed).length) :
    applyAll e (List.replicate typed.length .removePrevious) =
      { e with buffer := xs ++ ys, caret := xs.length } := by
  induction typed using List.reverseRecOn generalizing e with
  | nil =>
    rw [List.append_nil] at hbuffer hcaret
    rw [← hbuffer, ← hcaret]
    rfl
  | append_singleton typed y ih =>
    rw [← List.append_assoc] at hbuffer hcaret
    have hlast := apply_removePrevious_concat hbuffer hcaret
    rw [List.length_append, List.length_singleton, List.replicate_succ]
    show applyAll (removePrevious.apply e) (List.replicate typed.length .removePrevious) = _
    rw [hlast, ih rfl rfl]

/-- What was inserted is taken back. -/
lemma applyAll_insert_removePrevious (hcaret : e.caret ≤ e.buffer.length)
    (hinsert : e.overwrite = false) (typed : List Char) :
    applyAll e (.insert typed :: List.replicate typed.length .removePrevious) = e := by
  have hlength : (e.buffer.take e.caret).length = e.caret := by
    rw [List.length_take, Nat.min_eq_left hcaret]
  have htyped : (insert typed).apply e =
      { e with buffer := e.buffer.take e.caret ++ typed ++ e.tail,
               caret := (e.buffer.take e.caret ++ typed).length } := by
    rw [List.length_append, hlength, apply, hinsert]
    rfl
  show applyAll ((insert typed).apply e) _ = e
  rw [htyped, applyAll_removePrevious rfl rfl, hlength, Editor.tail, List.take_append_drop]

lemma length_applyAll_removePrevious_le (n : Nat) (e : Editor) :
    (applyAll e (List.replicate n .removePrevious)).buffer.length ≤ e.buffer.length := by
  induction n generalizing e with
  | zero => exact Nat.le_refl _
  | succ n ih =>
    have hfirst : (removePrevious.apply e).buffer.length ≤ e.buffer.length := by
      rw [apply]
      split_ifs
      · exact Nat.le_refl _
      · exact List.length_eraseIdx_le _ _
    exact (ih _).trans hfirst

lemma length_apply_insert_le (e : Editor) (typed : List Char) :
    ((insert typed).apply e).buffer.length ≤ e.buffer.length + typed.length := by
  have htail : (if e.overwrite then e.tail.drop typed.length else e.tail).length ≤
      e.buffer.length - e.caret := by
    split_ifs
    · rw [List.length_drop, Editor.tail, List.length_drop]
      omega
    · rw [Editor.tail, List.length_drop]
  simp only [apply, List.length_append, List.length_take]
  omega

/-! ### What is shown -/

/-- Two pieces are shown as all at once. -/
lemma screen_insert_insert (h : Terminal.InStep above before ⟨c, e⟩) {xs ys : List Char}
    (hxs : ∀ a ∈ xs, Screen.StaysInRow a) (hys : ∀ a ∈ ys, Screen.StaysInRow a)
    (hfits : before.length + (e.buffer.length + xs.length) ≤ maxCount) :
    (c.puts (outputsAll e [.insert xs, .insert ys])).screen =
      (c.puts ((insert (xs ++ ys)).outputs e)).screen := by
  have hfirst := length_apply_insert_le e xs
  have hnow : e.Fits before := by
    rw [Editor.Fits]
    omega
  have hnext : ((insert xs).apply e).Fits before := by
    rw [Editor.Fits]
    omega
  have hadded : ∀ a ∈ (insert xs).added, Screen.StaysInRow a := hxs
  have hroom := (h.apply hadded hnow hnext).hasRoom hnext
  rw [Console.puts_eq_display] at hroom
  rw [Console.screen_puts, Console.screen_puts,
    c.display_insert_append h.caret_le h.stays xs hys hroom, outputsAll, outputsAll, outputsAll,
    List.append_nil, Console.display_append]

/-- While characters are taken back, the terminal stays in step. -/
lemma inStep_insert_removePrevious (h : Terminal.InStep above before ⟨c, e⟩) {typed : List Char}
    (htyped : ∀ a ∈ typed, Screen.StaysInRow a)
    (hfits : before.length + (e.buffer.length + typed.length) ≤ maxCount) :
    Terminal.InStep above before
      ⟨c.puts (outputsAll e (.insert typed :: List.replicate typed.length .removePrevious)),
        applyAll e (.insert typed :: List.replicate typed.length .removePrevious)⟩ := by
  have hinserted := length_apply_insert_le e typed
  apply h.applyAll
  · intro edit hedit
    rcases List.mem_cons.mp hedit with rfl | hedit
    · exact htyped
    · rw [List.eq_of_mem_replicate hedit]
      exact List.forall_mem_nil _
  · intro first hfirst
    rw [Editor.Fits]
    cases first with
    | nil =>
      show before.length + e.buffer.length ≤ maxCount
      omega
    | cons edit first =>
      obtain ⟨rfl, hrest⟩ := List.cons_prefix_cons.mp hfirst
      have hreplicate := (List.prefix_replicate_iff.mp hrest).2
      have hremoved :=
        length_applyAll_removePrevious_le first.length ((insert typed).apply e)
      rw [← hreplicate] at hremoved
      show before.length + (applyAll ((insert typed).apply e) first).buffer.length ≤ maxCount
      omega

lemma apply_move_right (hcaret : e.caret < e.buffer.length) :
    (move .right).apply e = { e with caret := e.caret + 1 } := by
  rw [apply, CaretMove.goal, Editor.withCaret, Nat.min_eq_left hcaret]

/-- To go past a character and remove it from behind is to remove it, for the line. -/
lemma applyAll_right_removePrevious (hcaret : e.caret < e.buffer.length) :
    applyAll e [.move .right, .removePrevious] = removeCurrent.apply e := by
  show removePrevious.apply ((move .right).apply e) = removeCurrent.apply e
  rw [apply_move_right hcaret, apply, if_neg (Nat.succ_ne_zero _)]
  rfl

/-- And for the screen. -/
lemma screen_right_removePrevious (h : Terminal.InStep above before ⟨c, e⟩)
    (hfits : e.Fits before) (hcaret : e.caret < e.buffer.length) :
    (c.puts (outputsAll e [.move .right, .removePrevious])).screen =
      (c.puts (removeCurrent.outputs e)).screen := by
  have hmoved : (move .right).outputs e = [.move 1] := by
    rw [outputs, CaretMove.goal, Editor.caretOutputs, Nat.min_eq_left hcaret,
      if_neg (Nat.succ_ne_self _)]
    congr 2
    push_cast
    omega
  have htail : ({ e with caret := e.caret + 1 } : Editor).tail = e.tail.drop 1 := by
    rw [Editor.tail, Editor.tail, List.drop_drop]
  have hremoved : removePrevious.outputs { e with caret := e.caret + 1 } =
      .move (-1) :: Editor.tailOutputs (e.tail.drop 1) := by
    rw [outputs, if_neg (Nat.succ_ne_zero _), htail]
  have hback : (c.apply (.move 1)).apply (.move (-1)) = c := by
    show { c with screen := (c.screen.move 1).move (-1) } = c
    rw [h.move_back hfits hcaret]
  rw [outputsAll, outputsAll, outputsAll, hmoved, apply_move_right hcaret, hremoved,
    List.append_nil, Console.screen_puts, Console.screen_puts, outputs, if_pos hcaret,
    List.singleton_append,
    Console.display_cons, Console.display_cons, hback]

/-- On a terminal that is in step, with a console that refuses nothing:

* to insert characters and then more of them is to insert all of them at once, whether they are
  inserted or typed over others;
* if characters are inserted and not typed over others, to remove as many before the caret restores
  the line, its caret and the row, but for blanks at the end of the row;
* to remove the character under the caret is to go to the right and remove the one before the caret.

Columns are counts, so there has to be room for the characters. -/
theorem edits_agree {t : Terminal} {above : List (Array Char)} {before : List Char}
    (h : t.InStep above before) (hrefusals : t.console.refusals = []) {xs ys : List Char}
    (hxs : ∀ a ∈ xs, a ≠ '\n' ∧ a ≠ '\r') (hys : ∀ a ∈ ys, a ≠ '\n' ∧ a ≠ '\r')
    (hfits : before.length + (t.editor.buffer.length + xs.length + ys.length) ≤ maxCount) :
    (∃ t₁ t₂, runAll [.insert xs, .insert ys] t = .ok () t₁ ∧
      (insert (xs ++ ys)).run t = .ok () t₂ ∧
      t₁.editor = t₂.editor ∧ t₁.console.screen = t₂.console.screen) ∧
    (t.editor.overwrite = false → ∃ t',
      runAll (.insert xs :: List.replicate xs.length .removePrevious) t = .ok () t' ∧
      t'.editor = t.editor ∧ t'.console.screen.column = t.console.screen.column ∧
      t'.console.screen.trimmedRow = t.console.screen.trimmedRow ∧
      t'.console.screen.above = t.console.screen.above) ∧
    (t.editor.caret < t.editor.buffer.length → ∃ t₁ t₂,
      removeCurrent.run t = .ok () t₁ ∧
      runAll [.move .right, .removePrevious] t = .ok () t₂ ∧
      t₁.editor = t₂.editor ∧ t₁.console.screen = t₂.console.screen) := by
  obtain ⟨c, e⟩ := t
  dsimp only at hrefusals hfits ⊢
  refine ⟨?pieces, fun hinsert => ?back, fun hcaret => ?past⟩
  case pieces =>
    refine ⟨_, _, runAll_eq hrefusals _, run_eq hrefusals _, ?_, ?_⟩
    · exact (apply_insert_append h.caret_le xs ys).symm
    · exact screen_insert_insert h hxs hys (by omega)
  case back =>
    have hline := applyAll_insert_removePrevious h.caret_le hinsert xs
    have hend := inStep_insert_removePrevious h hxs (by omega)
    rw [hline] at hend
    refine ⟨_, runAll_eq hrefusals _, hline, ?_, ?_, ?_⟩
    · exact hend.shows.screen.column_eq.trans h.shows.screen.column_eq.symm
    · exact hend.shows.screen.trimmedRow_eq.trans h.shows.screen.trimmedRow_eq.symm
    · exact hend.shows.screen.above_eq.trans h.shows.screen.above_eq.symm
  case past =>
    have hroom : e.Fits before := by
      rw [Editor.Fits]
      omega
    refine ⟨_, _, run_eq hrefusals _, runAll_eq hrefusals _, ?_, ?_⟩
    · exact (applyAll_right_removePrevious hcaret).symm
    · exact (screen_right_removePrevious h hroom hcaret).symm

/-- Amid a line behind a prompt, with a blank left over at the end of the row. -/
theorem edits_agree_amid :
    let t : Terminal := {
      console := { screen := { row := #['$', ' ', 'a', 'b', 'c', ' '], column := 3 } }
      editor := { buffer := ['a', 'b', 'c'], caret := 1 } }
    let xs := ['x', 'y']
    let ys := [' ', 'z']
    t.InStep [] ['$', ' '] ∧ t.console.refusals = [] ∧
      (∀ a ∈ xs, a ≠ '\n' ∧ a ≠ '\r') ∧ (∀ a ∈ ys, a ≠ '\n' ∧ a ≠ '\r') ∧
      2 + (t.editor.buffer.length + xs.length + ys.length) ≤ maxCount ∧
      t.editor.overwrite = false ∧ t.editor.caret < t.editor.buffer.length ∧
      (∃ t₁ t₂, runAll [.insert xs, .insert ys] t = .ok () t₁ ∧
        (insert (xs ++ ys)).run t = .ok () t₂ ∧
        t₁.editor = t₂.editor ∧ t₁.console.screen = t₂.console.screen) ∧
      (∃ t', runAll (.insert xs :: List.replicate xs.length .removePrevious) t = .ok () t' ∧
        t'.editor = t.editor ∧ t'.console.screen.column = t.console.screen.column ∧
        t'.console.screen.trimmedRow = t.console.screen.trimmedRow ∧
        t'.console.screen.above = t.console.screen.above) ∧
      ∃ t₁ t₂, removeCurrent.run t = .ok () t₁ ∧
        runAll [.move .right, .removePrevious] t = .ok () t₂ ∧
        t₁.editor = t₂.editor ∧ t₁.console.screen = t₂.console.screen := by
  intro t xs ys
  have hcaret : t.editor.caret < t.editor.buffer.length := by
    decide
  have hstays : ∀ a ∈ t.editor.buffer, Screen.StaysInRow a := by
    simp [t, Screen.StaysInRow]
  have h : t.InStep [] ['$', ' '] :=
    ⟨⟨⟨rfl, ⟨1, rfl⟩, rfl⟩, rfl⟩, Nat.le_of_lt hcaret, hstays⟩
  have hxs : ∀ a ∈ xs, a ≠ '\n' ∧ a ≠ '\r' := by
    simp [xs]
  have hys : ∀ a ∈ ys, a ≠ '\n' ∧ a ≠ '\r' := by
    simp [ys]
  have hfits : 2 + (t.editor.buffer.length + xs.length + ys.length) ≤ maxCount := by
    decide
  obtain ⟨hpieces, hback, hpast⟩ := edits_agree h rfl hxs hys hfits
  exact ⟨h, rfl, hxs, hys, hfits, rfl, hcaret, hpieces, hback rfl, hpast hcaret⟩

end Edit

end LineShell
