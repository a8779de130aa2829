import LineShell.Count

/-!
# The screen

A screen is a column of rows of which only the last one is written to. A character takes the place
of the one under the caret; past the end of the row blanks fill the gap. A line break starts a new
row, a carriage return brings the caret back to the first column.
-/

namespace LineShell

/-- Rows of characters and a caret in the last one. -/
structure Screen where
  /-- The rows above the last one, the nearest first. -/
  above : List (Array Char) := []
  /-- The last row. -/
  row : Array Char := #[]
  /-- The column of the caret. -/
  column : Nat := 0
  deriving DecidableEq, Repr

namespace Screen

/-- A row with the character in a column replaced. -/
def replaceAt (row : Array Char) (column : Nat) (c : Char) : Array Char :=
  if h : column < row.size then row.set column c h
  else (row ++ Array.replicate (column - row.size) ' ').push c

/-- The screen after one more character. -/
def put (s : Screen) (c : Char) : Screen :=
  if c = '\n' then { above := s.row :: s.above, row := #[], column := 0 }
  else if c = '\r' then { s with column := 0 }
  else { s with row := replaceAt s.row s.column c, column := s.column + 1 }

/-- The screen after some more characters. -/
def write (s : Screen) (cs : List Char) : Screen :=
  cs.foldl put s

/-- The screen with the caret moved to the right, or to the left by a negative number. The column
is never less than zero and never more than the largest count. -/
def move (s : Screen) (n : Int) : Screen :=
  { s with column := min (s.column + n).toNat maxCount }

/-- All rows from the top. -/
def rows (s : Screen) : List (List Char) :=
  ((s.row :: s.above).map Array.toList).reverse

@[simp] theorem write_nil (s : Screen) : s.write [] = s := rfl

@[simp] theorem write_cons (s : Screen) (c : Char) (cs : List Char) :
    s.write (c :: cs) = (s.put c).write cs := rfl

@[simp] theorem write_append (s : Screen) (xs ys : List Char) :
    s.write (xs ++ ys) = (s.write xs).write ys := by
  simp [write]

end Screen

end LineShell
