import LineShell.Proofs.Console.Display
import LineShell.Proofs.Console.Overwrite

/-!
# Inserting in two pieces

To insert some characters and then some more does the same to the line as to insert all of them at
once (`Edit.apply_insert_append`), and it shows the same (`Console.display_insert_append`).
-/

namespace LineShell

open Screen (StaysInRow)

namespace Edit

variable {e : Editor}

lemma tail_apply_insert (h : e.caret ≤ e.buffer.length) (typed : List Char) :
    ((insert typed).apply e).tail =
      if e.overwrite then e.tail.drop typed.length else e.tail := by
  have hlength := Editor.length_take_caret_append h typed
  rw [apply, Editor.tail]
  dsimp only
  rw [← hlength, List.drop_left]

lemma apply_insert_append (h : e.caret ≤ e.buffer.length) (xs ys : List Char) :
    (insert (xs ++ ys)).apply e = (insert ys).apply ((insert xs).apply e) := by
  have hlength := Editor.length_take_caret_append h xs
  have htail := tail_apply_insert h xs
  have hbefore : ((insert xs).apply e).buffer.take ((insert xs).apply e).caret =
      e.buffer.take e.caret ++ xs := by
    rw [apply]
    dsimp only
    rw [← hlength, List.take_left]
  rw [apply.eq_def ((insert xs).apply e) (insert ys)]
  dsimp only
  rw [hbefore, htail]
  cases hoverwrite : e.overwrite <;> simp [apply, hoverwrite, Nat.add_assoc]

/-- What is put out for characters that are typed at the end of the line, or over it. -/
lemma outputs_insert_of_over {typed : List Char} (hne : typed ≠ [])
    (h : e.overwrite ∨ e.tail = []) : (insert typed).outputs e = [.text (.ofList typed)] := by
  rw [outputs, if_neg hne, if_pos h]

/-- What is put out for characters that are typed before the rest of the line. -/
lemma outputs_insert_of_before {typed : List Char} (hne : typed ≠ [])
    (h : ¬ (e.overwrite ∨ e.tail = [])) : (insert typed).outputs e =
      [.text (.ofList typed), .text (.ofList e.tail), .move (-e.tail.length)] := by
  rw [outputs, if_neg hne, if_neg h]

end Edit

/-- The caret of the console can come back from the end of the line to where it stands. Columns are
counts, so there is no coming back to a column that is more than the largest count. -/
def Terminal.HasRoom (t : Terminal) : Prop :=
  t.editor.overwrite ∨ t.editor.tail = [] ∨ t.console.screen.column < maxCount

namespace Console

lemma display_text (c : Console) (cs : List Char) :
    c.display [.text (.ofList cs)] = { c with screen := c.screen.write cs } := by
  simp [apply]

lemma display_before (c : Console) (cs rest : List Char) :
    c.display [.text (.ofList cs), .text (.ofList rest), .move (-rest.length)] =
      { c with screen := ((c.screen.write cs).write rest).move (-rest.length) } := by
  simp [apply]

section Insert

variable {e : Editor} {xs ys : List Char}

/-- Where all that is typed is put out and nothing else. -/
lemma display_insert_append_over (c : Console) (h : e.caret ≤ e.buffer.length) (hxs : xs ≠ [])
    (hys : ys ≠ []) (hover : e.overwrite ∨ e.tail = []) :
    c.display ((Edit.insert (xs ++ ys)).outputs e) =
      (c.display ((Edit.insert xs).outputs e)).display
        ((Edit.insert ys).outputs ((Edit.insert xs).apply e)) := by
  have hne : xs ++ ys ≠ [] := List.append_ne_nil_of_left_ne_nil hxs ys
  have hover' : ((Edit.insert xs).apply e).overwrite ∨ ((Edit.insert xs).apply e).tail = [] := by
    rcases hover with hover | hend
    · exact .inl hover
    · right
      rw [Edit.tail_apply_insert h, hend, List.drop_nil, ite_self]
  rw [Edit.outputs_insert_of_over hne hover, Edit.outputs_insert_of_over hxs hover,
    Edit.outputs_insert_of_over hys hover', display_text, display_text, display_text,
    Screen.write_append]

/-- Where the rest of the line is written behind the first characters and the caret brought back:
the other ones go over it with the rest of the line behind them. -/
lemma display_insert_append_before (c : Console) (h : e.caret ≤ e.buffer.length)
    (hrest : ∀ a ∈ e.tail, StaysInRow a) (hxs : xs ≠ []) (hys : ys ≠ [])
    (hys' : ∀ a ∈ ys, StaysInRow a) (hbefore : ¬ (e.overwrite ∨ e.tail = []))
    (hroom : Terminal.HasRoom
      ⟨c.display ((Edit.insert xs).outputs e), (Edit.insert xs).apply e⟩) :
    c.display ((Edit.insert (xs ++ ys)).outputs e) =
      (c.display ((Edit.insert xs).outputs e)).display
        ((Edit.insert ys).outputs ((Edit.insert xs).apply e)) := by
  have hne : xs ++ ys ≠ [] := List.append_ne_nil_of_left_ne_nil hxs ys
  have htail : ((Edit.insert xs).apply e).tail = e.tail := by
    rw [Edit.tail_apply_insert h, if_neg fun hoverwrite => hbefore (.inl hoverwrite)]
  have hbefore' : ¬ (((Edit.insert xs).apply e).overwrite ∨
      ((Edit.insert xs).apply e).tail = []) := by
    rw [htail]
    exact hbefore
  -- the caret has come back by as many columns as the rest of the line takes, so none was cut off
  have hcolumn : (c.screen.write xs).column ≤ maxCount := by
    have hless := (or_assoc.mpr hroom).resolve_left hbefore'
    rw [Edit.outputs_insert_of_before hxs hbefore, display_before] at hless
    dsimp only [Screen.move] at hless
    rw [Screen.column_write _ hrest] at hless
    omega
  have hlength : e.tail.length ≤ (ys ++ e.tail).length := by
    rw [List.length_append]
    exact Nat.le_add_left _ _
  have hwrite := (c.screen.write xs).write_over hrest (List.forall_mem_append.mpr ⟨hys', hrest⟩)
    hlength hcolumn
  rw [Edit.outputs_insert_of_before hne hbefore, Edit.outputs_insert_of_before hxs hbefore,
    Edit.outputs_insert_of_before hys hbefore', htail, display_before, display_before,
    display_before]
  dsimp only
  rw [← Screen.write_append _ ys, hwrite, Screen.write_append, Screen.write_append]

/-- The row is drawn as if all characters had been typed at once. -/
lemma display_insert_append (c : Console) (h : e.caret ≤ e.buffer.length)
    (hbuffer : ∀ a ∈ e.buffer, StaysInRow a) (xs : List Char) (hys : ∀ a ∈ ys, StaysInRow a)
    (hroom : Terminal.HasRoom
      ⟨c.display ((Edit.insert xs).outputs e), (Edit.insert xs).apply e⟩) :
    c.display ((Edit.insert (xs ++ ys)).outputs e) =
      (c.display ((Edit.insert xs).outputs e)).display
        ((Edit.insert ys).outputs ((Edit.insert xs).apply e)) := by
  by_cases hxs : xs = []
  · subst hxs
    rw [Edit.apply_insert_nil]
    rfl
  by_cases hnil : ys = []
  · subst hnil
    rw [List.append_nil]
    rfl
  by_cases hover : e.overwrite ∨ e.tail = []
  · exact c.display_insert_append_over h hxs hnil hover
  · have hrest : ∀ a ∈ e.tail, StaysInRow a := fun a ha => hbuffer a (List.mem_of_mem_drop ha)
    exact c.display_insert_append_before h hrest hxs hnil hys hover hroom

end Insert

end Console

end LineShell
