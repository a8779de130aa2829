import LineShell.Proofs.History.Entries
import LineShell.Proofs.Text.Lines

/-!
# Histories over their files

A history that is opened over a file that can be read has the latest of what goes on record of the
lines there (`withFile_eq`).

There is a text in an ordinary file or nothing yet, and no write to it is refused
(`File.IsOrdinary`). A history that is opened over such a file mirrors it: its entries are the
latest of what goes on record of the lines of the file (`Mirrors`). This is kept when the file is
written anew, and when a line is added to a file whose last line is ended. Whether it is ended, and
whether there are more lines in the file than are kept, is left open here.
-/

namespace LineShell

open Text (IsEnded IsLine lines_unlines unlines)

/-! ### Files -/

namespace File

variable {file : File}

/-- The text of the file. It is empty if there is none. -/
def content (file : File) : String :=
  file.text?.getD ""

/-- The lines of the text of a file. -/
def lines (file : File) : List String :=
  file.text?.elim [] Text.lines

lemma lines_eq (file : File) : file.lines = Text.lines file.content := by
  rw [lines, content]
  cases file.text? <;> rfl

/-- The file can be read, or it is not there yet. -/
def IsReadable (file : File) : Prop :=
  ∀ e, file.read = .error e → e = .notFound

lemma isReadable_of_read {content : String} (hread : file.read = .ok content) :
    file.IsReadable := by
  intro e he
  rw [hread] at he
  cases he

/-- There is a text in the file or nothing yet, and no write to it is refused. -/
inductive IsOrdinary : File → Prop
  | absent : IsOrdinary ⟨.absent, []⟩
  | text (content : String) : IsOrdinary ⟨.text content, []⟩

lemma IsOrdinary.isReadable (hfile : file.IsOrdinary) : file.IsReadable := by
  cases hfile with
  | absent =>
    rintro e ⟨⟩
    rfl
  | text content => exact isReadable_of_read rfl

lemma IsOrdinary.replace (hfile : file.IsOrdinary) (content : String) :
    file.write (.replace content) = (.ok (), ⟨.text content, []⟩) := by
  cases hfile <;> rfl

/-- To add to a file that is not there yet is to write one. -/
lemma IsOrdinary.append (hfile : file.IsOrdinary) (more : String) :
    file.write (.append more) = (.ok (), ⟨.text (file.content ++ more), []⟩) := by
  cases hfile with
  | absent =>
    have hcontent : content ⟨.absent, []⟩ ++ more = more := String.empty_append
    rw [hcontent]
    rfl
  | text content => rfl

end File

namespace History

variable {h : History} {file : File} {line : String} {capacity : ℕ}

/-! ### Opening a file that can be read -/

/-- A file that is not there yet is as good as an empty one. -/
lemma withFile_eq (hfile : file.IsReadable) (capacity : ℕ) :
    withFile file capacity =
      .ok (trimFile { load capacity file.lines with file := some file }) := by
  rw [withFile, File.lines, File.text?]
  cases hread : file.read with
  | ok content => rfl
  | error e =>
    obtain rfl := hfile e hread
    rw [trimFile, if_neg (by exact Nat.not_lt_zero _)]
    rfl

/-- A history that is opened over a file has the latest of what goes on record of its lines. -/
lemma exists_withFile_entries (hfile : file.IsReadable) (capacity : ℕ) :
    ∃ opened, withFile file capacity = .ok opened ∧
      opened.entries = (recorded file.lines).rtake (max capacity 1) := by
  refine ⟨_, withFile_eq hfile capacity, ?_⟩
  rw [entries_trimFile]
  exact (keeps_load capacity file.lines).entries_eq

/-! ### Writing to an ordinary file -/

lemma writeEntries_eq (hplace : h.file = some file) (hfile : file.IsOrdinary) :
    h.writeEntries =
      { h with file := some ⟨.text (unlines h.entries), []⟩, fileLines := h.entries.length } := by
  rw [writeEntries, hplace]
  dsimp only
  rw [hfile.replace]

lemma appendToFile_eq (hplace : h.file = some file) (hfile : file.IsOrdinary) (line : String) :
    h.appendToFile line =
      { h with
        file := some ⟨.text (file.content ++ (line ++ "\n")), []⟩
        fileLines := h.fileLines + 1 } := by
  rw [appendToFile, hplace]
  dsimp only
  rw [hfile.append]

/-! ### The invariant -/

/-- The history is over this file and knows how many lines it has, and the entries are the latest of
what goes on record of them. -/
structure Mirrors (h : History) (capacity : ℕ) (file : File) : Prop extends
    h.Keeps capacity file.lines where
  file_eq : h.file = some file
  isOrdinary : file.IsOrdinary
  isLine : ∀ line ∈ file.lines, IsLine line.toList
  fileLines_eq : h.fileLines = file.lines.length

namespace Mirrors

lemma moved (hmirrors : h.Mirrors capacity file) (position : ℕ) :
    ({ h with position } : History).Mirrors capacity file :=
  { hmirrors with }

/-- A file that is written anew has the entries as its lines. -/
lemma lines_anew (hmirrors : h.Mirrors capacity file) :
    File.lines ⟨.text (unlines h.entries), []⟩ = h.entries :=
  lines_unlines fun line hline => hmirrors.isLine line (hmirrors.mem_lines hline)

lemma writeEntries (hmirrors : h.Mirrors capacity file) :
    h.writeEntries.Mirrors capacity ⟨.text (unlines h.entries), []⟩ := by
  have hlines := hmirrors.lines_anew
  rw [writeEntries_eq hmirrors.file_eq hmirrors.isOrdinary]
  refine ⟨?_, rfl, .text _, ?_, ?_⟩
  · rw [hlines]
    exact hmirrors.entries_anew.of_eq rfl rfl
  · rw [hlines]
    exact fun line hline => hmirrors.isLine line (hmirrors.mem_lines hline)
  · rw [hlines]

/-- A file with too many lines is written anew. -/
lemma trimFile (hmirrors : h.Mirrors capacity file) :
    h.trimFile.Mirrors capacity
      (if capacity < file.lines.length then ⟨.text (unlines h.entries), []⟩ else file) := by
  rw [History.trimFile, hmirrors.fileLines_eq, hmirrors.capacity_eq]
  split_ifs
  · exact hmirrors.writeEntries
  · exact hmirrors

/-- A line that goes on record goes to the file, too. It comes after the lines there if the last of
them is ended. -/
lemma appendToFile (hmirrors : h.Mirrors capacity file) (hended : IsEnded file.content)
    (hline : IsLine line.toList) (hrecords : h.records line) (position : ℕ) :
    (({ h.push line with position } : History).appendToFile line).Mirrors capacity
      ⟨.text (file.content ++ (line ++ "\n")), []⟩ := by
  have hpush := hmirrors.push line
  have hlines : File.lines ⟨.text (file.content ++ (line ++ "\n")), []⟩ = file.lines ++ [line] := by
    rw [File.lines_eq file]
    exact Text.lines_append_of_isEnded hended hline
  rw [push_eq, if_pos hrecords] at hpush ⊢
  rw [appendToFile_eq (by exact hmirrors.file_eq) hmirrors.isOrdinary]
  refine ⟨?_, rfl, .text _, ?_, ?_⟩
  · rw [hlines]
    exact hpush.of_eq rfl rfl
  · rw [hlines]
    exact List.forall_mem_append.mpr ⟨hmirrors.isLine, List.forall_mem_singleton.mpr hline⟩
  · rw [hlines, List.length_append, ← hmirrors.fileLines_eq]
    rfl

end Mirrors

lemma mirrors_load (hfile : file.IsOrdinary) (hlines : ∀ line ∈ file.lines, IsLine line.toList)
    (capacity : ℕ) :
    ({ load capacity file.lines with file := some file } : History).Mirrors (max capacity 1) file :=
  ⟨(keeps_load capacity file.lines).of_eq rfl rfl, rfl, hfile, hlines, rfl⟩

end History

end LineShell
