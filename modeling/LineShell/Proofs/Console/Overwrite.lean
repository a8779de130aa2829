import LineShell.Proofs.Console.Row

/-!
# Writing over what was written

Characters that break no line lie in the row from the column of the caret on, between what stood
before and behind them (`Screen.write_eq`). So to write at least as many of them over some others,
from the same column, is as good as if the others had never been there (`Screen.write_over`).
-/

namespace LineShell.Screen

/-- The cells of a row before a column, with blanks for those that it does not have. -/
def cellsBefore (row : List Char) (column : Nat) : List Char :=
  row.take column ++ List.replicate (column - row.length) ' '

@[simp] lemma length_cellsBefore (row : List Char) (column : Nat) :
    (cellsBefore row column).length = column := by
  simp only [cellsBefore, List.length_append, List.length_take, List.length_replicate]
  omega

/-- Nothing is missing before a column that the row has. -/
lemma cellsBefore_append {xs : List Char} {column : Nat} (h : xs.length = column)
    (ys : List Char) : cellsBefore (xs ++ ys) column = xs := by
  subst h
  simp [cellsBefore]

lemma toList_replaceAt_eq (row : Array Char) (column : Nat) (c : Char) :
    (replaceAt row column c).toList =
      cellsBefore row.toList column ++ c :: row.toList.drop (column + 1) := by
  by_cases h : column ≤ row.size
  · rw [toList_replaceAt h, cellsBefore, Array.length_toList, Nat.sub_eq_zero_of_le h]
    simp
  · have hlength : row.toList.length ≤ column := by
      rw [Array.length_toList]
      omega
    rw [replaceAt, dif_neg (by omega), cellsBefore, List.take_of_length_le hlength,
      List.drop_of_length_le (by omega)]
    simp

/-- The screen with other cells in its last row, from its column on. -/
def lay (s : Screen) (cs : List Char) : Screen :=
  { s with
    row := (cellsBefore s.row.toList s.column ++ cs ++
      s.row.toList.drop (s.column + cs.length)).toArray
    column := s.column + cs.length }

lemma toList_row_lay (s : Screen) (cs : List Char) :
    (s.lay cs).row.toList = cellsBefore s.row.toList s.column ++ cs ++
      s.row.toList.drop (s.column + cs.length) := rfl

/-- Behind what lies before a column and some cells, the row goes on as it was. -/
lemma drop_cellsBefore_append (row : List Char) {cs : List Char} {column n : Nat}
    (h : column + cs.length ≤ n) :
    (cellsBefore row column ++ cs ++ row.drop (column + cs.length)).drop n = row.drop n := by
  have hlength : (cellsBefore row column ++ cs).length = column + cs.length := by
    rw [List.length_append, length_cellsBefore]
  rw [List.drop_append, List.drop_of_length_le (hlength ▸ h), hlength, List.nil_append,
    List.drop_drop, Nat.add_sub_cancel' h]

lemma lay_lay (s : Screen) (xs ys : List Char) : (s.lay xs).lay ys = s.lay (xs ++ ys) := by
  have hlength : (cellsBefore s.row.toList s.column ++ xs).length = s.column + xs.length := by
    rw [List.length_append, length_cellsBefore]
  have hcolumn : (s.lay xs).column = s.column + xs.length := rfl
  have hbehind := drop_cellsBefore_append s.row.toList
    (Nat.le_add_right (s.column + xs.length) ys.length)
  rw [lay, toList_row_lay, hcolumn, cellsBefore_append hlength, hbehind]
  simp only [lay, List.length_append, Nat.add_assoc, List.append_assoc]

/-- The induction is on what is written: once one character was, no cell is missing before the
caret. -/
lemma write_eq (s : Screen) {cs : List Char} (hcs : ∀ c ∈ cs, StaysInRow c) (hne : cs ≠ []) :
    s.write cs = s.lay cs := by
  induction cs generalizing s with
  | nil => exact absurd rfl hne
  | cons c cs ih =>
    obtain ⟨hc, hcs⟩ := List.forall_mem_cons.mp hcs
    have hput : s.put c = s.lay [c] := by
      rw [put_of_staysInRow hc, lay]
      congr 1
      apply Array.ext'
      simpa using toList_replaceAt_eq s.row s.column c
    rw [write_cons, hput]
    by_cases hend : cs = []
    · rw [hend]
      rfl
    · rw [ih _ hcs hend, lay_lay]
      rfl

lemma column_write (s : Screen) {cs : List Char} (hcs : ∀ c ∈ cs, StaysInRow c) :
    (s.write cs).column = s.column + cs.length := by
  by_cases hempty : cs = []
  · rw [hempty]
    rfl
  · rw [write_eq s hcs hempty]
    rfl

/-- The caret goes back over what lies there, and at least as many characters come over it. -/
lemma lay_over (s : Screen) {xs ys : List Char} (h : xs.length ≤ ys.length) :
    { s.lay xs with column := s.column }.lay ys = s.lay ys := by
  -- what is left of the row is what stood behind the longer text to begin with
  have hbehind := drop_cellsBefore_append s.row.toList (Nat.add_le_add_left h s.column)
  rw [lay]
  dsimp only
  rw [toList_row_lay, hbehind, List.append_assoc (cellsBefore _ _) xs,
    cellsBefore_append (length_cellsBefore s.row.toList s.column)]
  rfl

/-- Characters are written, the caret is brought back, and at least as many characters are written
over them. Columns are counts, so the caret can only be brought back to a column that is one. -/
theorem write_over (s : Screen) {xs ys : List Char} (hxs : ∀ c ∈ xs, StaysInRow c)
    (hys : ∀ c ∈ ys, StaysInRow c) (hlength : xs.length ≤ ys.length)
    (hcolumn : s.column ≤ maxCount) :
    ((s.write xs).move (-xs.length)).write ys = s.write ys := by
  by_cases hempty : xs = []
  · have hback : ((s.write xs).move (-xs.length)) = s := by
      rw [hempty, write_nil, Screen.move]
      congr 1
      show min (s.column + -(0 : Int)).toNat maxCount = s.column
      omega
    rw [hback]
  · have hne : ys ≠ [] := by
      rintro rfl
      exact hempty (List.eq_nil_of_length_eq_zero (Nat.le_zero.mp hlength))
    have hback : ((s.write xs).move (-xs.length)) = { s.lay xs with column := s.column } := by
      rw [write_eq s hxs hempty, Screen.move]
      congr 1
      show min ((s.column + xs.length : Nat) + -(xs.length : Int)).toNat maxCount = s.column
      omega
    rw [hback, write_eq _ hys hne, lay_over s hlength, write_eq s hys hne]

end LineShell.Screen
