import LineShell.File
import LineShell.Text.Blank
import LineShell.Text.Lines

/-!
# Command history

A history holds the latest lines entered, the oldest first, up to a capacity. Blank lines and
repetitions of the newest line are not recorded. A cursor walks up and down among them.

A history may have a file, one line for each entry. New lines are added at its end. When the file
has more lines than the capacity it is written anew from the entries. A write that fails is not
reported and changes nothing but the file's share: the file may then lag behind.
-/

namespace LineShell

/-- The latest lines entered. -/
structure History where
  /-- The lines, the oldest first. -/
  entries : List String := []
  /-- The index of the line that the cursor is on, or their number past the newest one. -/
  position : Nat := 0
  /-- How many lines are kept. -/
  capacity : Nat
  /-- The file that the lines are kept in. -/
  file : Option File := none
  /-- How many lines the file is known to have. -/
  fileLines : Nat := 0
  deriving DecidableEq, Repr

namespace History

/-- How many lines are kept when nothing else is said. -/
def defaultCapacity : Nat := 500

/-- A history that keeps so many lines, but at least one, in memory. -/
def inMemory (capacity : Nat) : History :=
  { capacity := max capacity 1 }

/-! ### Recording -/

/-- Whether a line goes on record: it is not blank, and not the newest line again. -/
def records (h : History) (line : String) : Bool :=
  !Text.allBlank line && h.entries.getLast? != some line

/-- The history with a line recorded, and the oldest line given up for it if need be. -/
def push (h : History) (line : String) : History :=
  if h.records line then
    let entries := h.entries ++ [line]
    { h with entries := entries.drop (entries.length - h.capacity) }
  else h

/-- Writes the file anew from the entries. -/
def writeEntries (h : History) : History :=
  match h.file with
  | none => h
  | some file =>
    match file.write (.replace (Text.unlines h.entries)) with
    | (.ok _, file) => { h with file := some file, fileLines := h.entries.length }
    | (.error _, file) => { h with file := some file }

/-- Writes the file anew if it has more lines than are kept. -/
def trimFile (h : History) : History :=
  if h.fileLines > h.capacity then h.writeEntries else h

/-- Adds a line to the file. -/
def appendToFile (h : History) (line : String) : History :=
  match h.file with
  | none => h
  | some file =>
    match file.write (.append (line ++ "\n")) with
    | (.ok _, file) => { h with file := some file, fileLines := h.fileLines + 1 }
    | (.error _, file) => { h with file := some file }

/-- Records a line and puts the cursor past the newest one. -/
def add (h : History) (line : String) : History :=
  let next := h.push line
  let next := { next with position := next.entries.length }
  if h.records line then (next.appendToFile line).trimFile else next

/-- Forgets all lines, in the file too. -/
def clear (h : History) : History :=
  writeEntries { h with entries := [], position := 0 }

/-! ### Opening a file -/

/-- A history of which the file has the given lines. -/
def load (capacity : Nat) (lines : List String) : History :=
  let h := lines.foldl push (inMemory capacity)
  { h with position := h.entries.length, fileLines := lines.length }

/-- A history that keeps its lines in a file, and begins with the latest ones in it. A file that
does not exist yet is as good as an empty one. -/
def withFile (file : File) (capacity : Nat) : Except Failure History :=
  match file.read with
  | .ok content =>
    .ok (trimFile { load capacity (Text.lines content) with file := some file })
  | .error .notFound => .ok { inMemory capacity with file := some file }
  | .error e => .error (.system e)

/-! ### Walking -/

/-- The line before the cursor and the history with the cursor on it. The cursor stays on the
oldest line. -/
def previous (h : History) : Option String × History :=
  if h.entries.isEmpty then (none, h)
  else
    let position := h.position - 1
    (h.entries[position]?, { h with position })

/-- The line after the cursor and the history with the cursor on it. There is none after the newest
one. -/
def next (h : History) : Option String × History :=
  if h.position + 1 < h.entries.length then
    (h.entries[h.position + 1]?, { h with position := h.position + 1 })
  else (none, { h with position := h.entries.length })

end History

end LineShell
