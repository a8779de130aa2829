import LineShell.Console.Screen
import Mathlib.Data.List.Basic
import Mathlib.Tactic.Common

/-!
# What stands in the last row

`Screen.Shows` says what the last row of a screen holds up to blanks at its end, and where the caret
is. Characters that break no line go over those from the caret on (`Shows.write`), and the caret can
be moved within the row (`Shows.move`).
-/

namespace LineShell.Screen

/-- Neither a line break nor a carriage return. -/
def StaysInRow (c : Char) : Prop :=
  c ≠ '\n' ∧ c ≠ '\r'

instance (c : Char) : Decidable (StaysInRow c) :=
  inferInstanceAs (Decidable (_ ∧ _))

lemma staysInRow_of_mem_replicate {n : Nat} {a : Char} (h : a ∈ List.replicate n ' ') :
    StaysInRow a := by
  rw [List.eq_of_mem_replicate h]
  decide

/-- Below some rows, the last row holds a text and then only blanks. The caret is in a column. -/
structure Shows (above : List (Array Char)) (text : List Char) (column : Nat) (s : Screen) :
    Prop where
  above_eq : s.above = above
  row_eq : ∃ k, s.row.toList = text ++ List.replicate k ' '
  column_eq : s.column = column

variable {above : List (Array Char)} {text xs ys : List Char} {column : Nat} {s : Screen}

lemma put_of_staysInRow {c : Char} (hc : StaysInRow c) :
    s.put c = { s with row := replaceAt s.row s.column c, column := s.column + 1 } := by
  rw [Screen.put, if_neg hc.1, if_neg hc.2]

lemma toList_replaceAt {row : Array Char} (h : column ≤ row.size) (c : Char) :
    (replaceAt row column c).toList =
      row.toList.take column ++ c :: row.toList.drop (column + 1) := by
  by_cases hlt : column < row.size
  · rw [replaceAt, dif_pos hlt, Array.toList_set, List.set_eq_take_append_cons_drop,
      Array.length_toList, if_pos hlt]
  · have hsize : column = row.toList.length := by
      rw [Array.length_toList]
      omega
    rw [replaceAt, dif_neg hlt, hsize, List.take_length, List.drop_of_length_le (by omega)]
    simp

/-- Blanks at the end of the text are not told from those after it. -/
lemma Shows.of_append_replicate {n : Nat}
    (h : s.Shows above (text ++ List.replicate n ' ') column) : s.Shows above text column := by
  obtain ⟨k, hrow⟩ := h.row_eq
  refine ⟨h.above_eq, ⟨n + k, ?_⟩, h.column_eq⟩
  rw [hrow, List.append_assoc, List.replicate_append_replicate]

lemma Shows.put (h : s.Shows above (xs ++ ys) xs.length) {c : Char} (hc : StaysInRow c) :
    (s.put c).Shows above (xs ++ [c] ++ ys.drop 1) (xs ++ [c]).length := by
  obtain ⟨k, hrow⟩ := h.row_eq
  have hput := put_of_staysInRow (s := s) hc
  have hsize : s.column ≤ s.row.size := by
    rw [h.column_eq, ← Array.length_toList, hrow, List.append_assoc, List.length_append]
    exact Nat.le_add_right _ _
  have hnext : (s.put c).row.toList = xs ++ [c] ++ (ys ++ List.replicate k ' ').drop 1 := by
    calc
      (s.put c).row.toList = (replaceAt s.row xs.length c).toList := by
        rw [hput, h.column_eq]
      _ = (xs ++ (ys ++ List.replicate k ' ')).take xs.length ++
          c :: (xs ++ (ys ++ List.replicate k ' ')).drop (xs.length + 1) := by
        rw [toList_replaceAt (h.column_eq ▸ hsize), hrow, List.append_assoc]
      _ = xs ++ [c] ++ (ys ++ List.replicate k ' ').drop 1 := by
        rw [List.take_left, ← List.drop_drop, List.drop_left, List.append_assoc]
        rfl
  constructor
  · rw [hput]
    exact h.above_eq
  · cases ys with
    | nil => exact ⟨k - 1, by simpa using hnext⟩
    | cons y ys => exact ⟨k, by simpa using hnext⟩
  · rw [hput, List.length_append]
    exact congrArg (· + 1) h.column_eq

/-- The induction is on what is written: each character goes from after the caret to before it. -/
lemma Shows.write (h : s.Shows above (xs ++ ys) xs.length) {cs : List Char}
    (hcs : ∀ c ∈ cs, StaysInRow c) :
    (s.write cs).Shows above (xs ++ cs ++ ys.drop cs.length) (xs ++ cs).length := by
  induction cs generalizing s xs ys with
  | nil => simpa using h
  | cons c cs ih =>
    obtain ⟨hc, hcs⟩ := List.forall_mem_cons.mp hcs
    have hrest := ih (h.put hc) hcs
    rw [List.drop_drop] at hrest
    simpa [Nat.add_comm] using hrest

lemma Shows.move (h : s.Shows above text column) {n : Int} {goal : Nat}
    (hgoal : (goal : Int) = column + n) (hroom : goal ≤ maxCount) :
    (s.move n).Shows above text goal := by
  refine ⟨h.above_eq, h.row_eq, ?_⟩
  rw [Screen.move, h.column_eq, ← hgoal]
  exact Nat.min_eq_left hroom

end LineShell.Screen
