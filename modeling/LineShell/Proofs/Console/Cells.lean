import LineShell.Proofs.Console.Row
import LineShell.Proofs.Editor.Edit

/-!
# The cells that are written

Each character that is put out goes into one cell of the screen, or into none if it breaks the row.
`Console.strokes` lists the cells that outputs write, one after the other, with whether the caret
was to be seen then. Unless the screen is emptied, all other cells stay as they are
(`Console.cell?_puts`). Characters that stay in the row go into neighbouring cells, from the column
of the caret on (`Screen.cells_eq`).
-/

namespace LineShell

/-- A character is put into a cell of the screen. -/
structure Stroke where
  /-- The number of rows above the cell. -/
  row : Nat
  column : Nat
  /-- Whether the caret is to be seen meanwhile. -/
  shown : Bool
  deriving DecidableEq, Repr

/-! ### Screens -/

namespace Screen

/-- The character in a cell, if the screen has that cell. -/
def cell? (s : Screen) (row column : Nat) : Option Char :=
  s.rows[row]?.bind (·[column]?)

/-- The cells, by row and column, that characters go into one after the other. -/
def cells (s : Screen) : List Char → List (Nat × Nat)
  | [] => []
  | c :: cs => (if StaysInRow c then [(s.above.length, s.column)] else []) ++ (s.put c).cells cs

variable {s : Screen} {row column : Nat} {a c : Char}

@[simp] lemma cells_nil (s : Screen) : s.cells [] = [] := rfl

lemma rows_eq (s : Screen) : s.rows = s.above.reverse.map Array.toList ++ [s.row.toList] := by
  rw [rows, List.map_cons, List.reverse_cons, List.map_reverse]

lemma getElem?_replaceAt_of_ne {cells : Array Char} {i : Nat} (hi : i < cells.size)
    (hne : i ≠ column) (c : Char) : (replaceAt cells column c)[i]? = cells[i]? := by
  rw [replaceAt]
  split_ifs with hcolumn
  · exact Array.getElem?_set_ne hcolumn hne.symm
  · rw [Array.getElem?_push_lt (by rw [Array.size_append]; omega), Array.getElem_append_left hi,
      Array.getElem?_eq_getElem hi]

/-- A row is begun below, and the ones that were there stay. -/
lemma cell?_put_break (h : s.cell? row column = some a) :
    (s.put '\n').cell? row column = some a := by
  obtain ⟨xs, hrow, hcell⟩ := Option.bind_eq_some_iff.mp h
  have hrows : (s.put '\n').rows = s.rows ++ [[]] := by
    simp [Screen.put, rows]
  refine Option.bind_eq_some_iff.mpr ⟨xs, ?_, hcell⟩
  rw [hrows, List.getElem?_append_left (List.getElem?_eq_some_iff.mp hrow).1, hrow]

lemma cell?_last (s : Screen) (column : Nat) :
    s.cell? s.above.length column = s.row[column]? := by
  have hlength : s.above.length = (s.above.reverse.map Array.toList).length := by simp
  rw [cell?, rows_eq, hlength, List.getElem?_concat_length]
  exact Array.getElem?_toList

/-- The last row is none of those above it. -/
lemma cell?_eq_of_ne {s s' : Screen} (habove : s'.above = s.above) (hrow : row ≠ s.above.length) :
    s'.cell? row column = s.cell? row column := by
  have hrest : ∀ xs : List Char, (s.above.reverse.map Array.toList ++ [xs])[row]? =
      (s.above.reverse.map Array.toList)[row]? := by
    intro xs
    rw [List.getElem?_append]
    split_ifs with hlt
    · rfl
    · rw [List.length_map, List.length_reverse] at hlt ⊢
      rw [List.getElem?_eq_none (by rw [List.length_singleton]; omega),
        List.getElem?_eq_none (by rw [List.length_map, List.length_reverse]; omega)]
  rw [cell?, cell?, rows_eq, rows_eq, habove, hrest, hrest]

/-- A character changes no cell but the one it goes into. -/
lemma cell?_put (h : s.cell? row column = some a) (hother : (row, column) ∉ s.cells [c]) :
    (s.put c).cell? row column = some a := by
  by_cases hc : StaysInRow c
  · rw [cells, if_pos hc, cells_nil, List.append_nil, List.mem_singleton, Prod.mk.injEq] at hother
    rw [put_of_staysInRow hc]
    by_cases hrow : row = s.above.length
    · subst hrow
      rw [cell?_last] at h ⊢
      have hsize := (Array.getElem?_eq_some_iff.mp h).1
      have hcolumn : column ≠ s.column := fun heq => hother ⟨rfl, heq⟩
      rw [getElem?_replaceAt_of_ne hsize hcolumn, h]
    · refine Eq.trans (cell?_eq_of_ne ?_ hrow) h
      rfl
  · by_cases hbreak : c = '\n'
    · subst hbreak
      exact cell?_put_break h
    · have hreturn : c = '\r' := not_not.mp fun hreturn => hc ⟨hbreak, hreturn⟩
      rw [Screen.put, if_neg hbreak, if_pos hreturn]
      exact h

lemma cells_cons (s : Screen) (c : Char) (cs : List Char) :
    s.cells (c :: cs) = s.cells [c] ++ (s.put c).cells cs := by
  rw [cells, cells, cells_nil, List.append_nil]

/-- Characters change no cells but those they go into. -/
lemma cell?_write (h : s.cell? row column = some a) {cs : List Char}
    (hother : (row, column) ∉ s.cells cs) : (s.write cs).cell? row column = some a := by
  induction cs generalizing s with
  | nil => exact h
  | cons c cs ih =>
    rw [cells_cons, List.mem_append, not_or] at hother
    exact ih (cell?_put h hother.1) hother.2

/-- Characters that stay in the row go into neighbouring cells. -/
lemma cells_eq (s : Screen) {cs : List Char} (hcs : ∀ c ∈ cs, StaysInRow c) :
    s.cells cs = (List.range' s.column cs.length).map fun column => (s.above.length, column) := by
  induction cs generalizing s with
  | nil => rfl
  | cons c cs ih =>
    obtain ⟨hc, hcs⟩ := List.forall_mem_cons.mp hcs
    rw [cells, if_pos hc, ih _ hcs, put_of_staysInRow hc, List.length_cons, List.range'_succ]
    rfl

end Screen

/-! ### Consoles -/

namespace Console

/-- The cells that an output writes. -/
def strokesOf (c : Console) : Output → List Stroke
  | .text text => (c.screen.cells text.toList).map fun cell => ⟨cell.1, cell.2, c.caretShown⟩
  | _ => []

/-- The cells that outputs write, one after the other. -/
def strokes (c : Console) : List Output → List Stroke
  | [] => []
  | o :: os => c.strokesOf o ++ (c.puts [o]).strokes os

variable {c : Console}

@[simp] lemma strokes_nil (c : Console) : c.strokes [] = [] := rfl

lemma strokes_append (c : Console) (os os' : List Output) :
    c.strokes (os ++ os') = c.strokes os ++ (c.puts os).strokes os' := by
  induction os generalizing c with
  | nil => rfl
  | cons o os ih => rw [List.cons_append, strokes, ih, strokes, List.append_assoc, ← puts_cons]

/-- Only texts write cells. -/
lemma strokes_eq_nil {os : List Output} (h : ∀ text, .text text ∉ os) : c.strokes os = [] := by
  induction os generalizing c with
  | nil => rfl
  | cons o os ih =>
    rw [strokes, ih fun text htext => h text (List.mem_cons_of_mem _ htext), List.append_nil]
    cases o with
    | text text => exact absurd List.mem_cons_self (h text)
    | _ => rfl

/-- Unless the screen is emptied, outputs change no cells but those they write. -/
theorem cell?_puts {os : List Output} (hclear : .clear ∉ os) {row column : Nat} {a : Char}
    (h : c.screen.cell? row column = some a)
    (hother : ∀ shown, ⟨row, column, shown⟩ ∉ c.strokes os) :
    (c.puts os).screen.cell? row column = some a := by
  induction os generalizing c with
  | nil => exact h
  | cons o os ih =>
    rw [List.mem_cons, not_or] at hclear
    have hnow : ∀ shown, ⟨row, column, shown⟩ ∉ c.strokesOf o :=
      fun shown hmem => hother shown (List.mem_append_left _ hmem)
    have hnext : ∀ shown, ⟨row, column, shown⟩ ∉ (c.puts [o]).strokes os :=
      fun shown hmem => hother shown (List.mem_append_right _ hmem)
    rw [puts_cons]
    refine ih hclear.2 ?_ hnext
    cases o with
    | text text =>
      refine Screen.cell?_write h fun hmem => hnow c.caretShown ?_
      exact List.mem_map.mpr ⟨_, hmem, rfl⟩
    | clear => exact absurd rfl hclear.1
    | errorLine _ | move _ | caretShown _ => exact h

end Console

end LineShell
