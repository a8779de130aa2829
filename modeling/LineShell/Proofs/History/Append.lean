import LineShell.Proofs.History.Mirror

/-!
# Lines added to a file

A line that goes on record is written at the end of the file, with an end of its own but without a
look at the end of what is there. So it comes after the lines of the file if the last one of them is
ended, and then a history that is opened over the file has the entries of this one. If the last line
is not ended, the new one goes on with it, and the history that is opened has neither of the two as
an entry but both of them in one (`add_extends_iff`). Only a file that somebody else has written can
be so, for a file that is written anew, as one that is too long is, has all its lines ended.
-/

namespace LineShell.History

open Text (IsEnded IsLine unlines)

variable {h : History} {file : File} {line : String} {capacity : ℕ}

lemma getLast?_recorded_concat (lines : List String) (hblank : Text.allBlank line = false) :
    (recorded (lines ++ [line])).getLast? = some line := by
  rw [recorded_concat]
  split_ifs with hnew
  · exact List.getLast?_concat
  · exact not_not.mp fun hlast => hnew ⟨hblank, hlast⟩

/-! ### Histories over a file -/

namespace Mirrors

/-- A line that goes on record is written at the end of a file that has room for it. -/
lemma file_add (hmirrors : h.Mirrors capacity file) (hblank : Text.allBlank line = false)
    (hnew : h.entries.getLast? ≠ some line) (hroom : file.lines.length < capacity) :
    (h.add line).file = some ⟨.text (file.content ++ (line ++ "\n")), []⟩ := by
  have hrecords : h.records line := by simpa [records, hblank] using hnew
  have hpush : (h.push line).file = some file := by
    rw [push_eq, if_pos hrecords]
    exact hmirrors.file_eq
  have hcount : (h.push line).fileLines + 1 ≤ (h.push line).capacity := by
    rw [capacity_push, hmirrors.capacity_eq, push_eq, if_pos hrecords]
    exact hmirrors.fileLines_eq ▸ hroom
  rw [add, if_pos hrecords, appendToFile_eq (by exact hpush) hmirrors.isOrdinary, History.trimFile]
  exact congrArg History.file (if_neg (Nat.not_lt.mpr hcount))

/-- The line is the newest entry of a history that is opened over the file if it comes after the
lines there, and only then. -/
lemma entries_reopened_iff (hmirrors : h.Mirrors capacity file) (hline : IsLine line.toList)
    (hblank : Text.allBlank line = false) :
    (recorded (Text.lines (file.content ++ (line ++ "\n")))).rtake capacity =
        (h.add line).entries ↔ IsEnded file.content := by
  have hpos := hmirrors.capacity_pos
  have hlines : ∀ line ∈ Text.lines file.content, IsLine line.toList := by
    rw [← File.lines_eq]
    exact hmirrors.isLine
  rw [entries_add, (hmirrors.push line).entries_eq, File.lines_eq]
  refine ⟨fun hentries => ?_, fun hended => ?_⟩
  · by_contra hended
    obtain ⟨ls, last, hlast, -, hwritten⟩ :=
      Text.lines_append_of_not_isEnded hlines hended hline
    have hjoined : Text.allBlank (last ++ line) = false := by
      rw [Text.allBlank, String.toList_append, List.all_append, Bool.and_eq_false_iff]
      exact .inr hblank
    have hnewest := congrArg List.getLast? hentries
    rw [hwritten, getLast?_rtake hpos, getLast?_rtake hpos, getLast?_recorded_concat _ hjoined,
      getLast?_recorded_concat _ hblank, Option.some_inj, String.append_eq_right_iff] at hnewest
    exact hlast hnewest
  · rw [Text.lines_append_of_isEnded hended hline]

end Mirrors

/-! ### Adding a line to a file -/

/-- A history that is opened over a text mirrors it. If there are too many lines in the text, it is
written anew first. -/
lemma exists_withFile_text {content : String}
    (hlines : ∀ line ∈ Text.lines content, IsLine line.toList) (capacity : ℕ) :
    ∃ opened kept, withFile ⟨.text content, []⟩ capacity = .ok opened ∧
      opened.Mirrors (max capacity 1) ⟨.text kept, []⟩ ∧
      kept = if max capacity 1 < (Text.lines content).length then unlines opened.entries
        else content := by
  have hordinary := File.IsOrdinary.text content
  have hmirrors := (mirrors_load hordinary hlines capacity).trimFile
  by_cases hlong : max capacity 1 < (Text.lines content).length
  · rw [if_pos (by exact hlong)] at hmirrors
    refine ⟨_, _, withFile_eq hordinary.isReadable capacity, hmirrors, ?_⟩
    rw [if_pos hlong, entries_trimFile]
  · rw [if_neg (by exact hlong)] at hmirrors
    exact ⟨_, _, withFile_eq hordinary.isReadable capacity, hmirrors, (if_neg hlong).symm⟩

/-- A new line comes after the lines of the file, and a history that is opened over the file then
has the same entries, just if the last line of the file was ended. If it was not, the new line goes
on with it. -/
theorem add_extends_iff {content line : String} (hreturn : '\r' ∉ content.toList)
    (hline : IsLine line.toList) (hblank : Text.allBlank line = false) (capacity : ℕ) :
    ∃ opened kept, withFile ⟨.text content, []⟩ capacity = .ok opened ∧
      opened.file = some ⟨.text kept, []⟩ ∧
      (kept = if max capacity 1 < (Text.lines content).length then unlines opened.entries
        else content) ∧
      (opened.entries.getLast? ≠ some line → (Text.lines kept).length < max capacity 1 →
        ∃ written reopened, (opened.add line).file = some ⟨.text written, []⟩ ∧
          withFile ⟨.text written, []⟩ capacity = .ok reopened ∧
          (Text.lines written = Text.lines kept ++ [line] ↔ IsEnded kept) ∧
          (reopened.entries = (opened.add line).entries ↔ IsEnded kept) ∧
          (¬ IsEnded kept → Text.lines written =
            (Text.lines kept).dropLast ++ [(Text.lines kept).getLastD "" ++ line])) := by
  obtain ⟨opened, kept, hopened, hmirrors, hkept⟩ :=
    exists_withFile_text (fun _ => Text.isLine_of_mem_lines hreturn) capacity
  refine ⟨opened, kept, hopened, hmirrors.file_eq, hkept, fun hnew hroom => ?_⟩
  obtain ⟨reopened, hreopened, hentries⟩ :=
    exists_withFile_entries (File.IsOrdinary.text (kept ++ (line ++ "\n"))).isReadable capacity
  refine ⟨kept ++ (line ++ "\n"), reopened, hmirrors.file_add hblank hnew hroom, hreopened,
    Text.lines_append_eq_iff hmirrors.isLine hline, ?_, fun hended => ?_⟩
  · rw [hentries]
    exact hmirrors.entries_reopened_iff hline hblank
  · obtain ⟨ls, last, -, hbefore, hafter⟩ :=
      Text.lines_append_of_not_isEnded hmirrors.isLine hended hline
    rw [hbefore, hafter, List.dropLast_concat, List.getLastD_concat]

/-- A file that is too long is written anew and so ends as it has to. -/
theorem add_extends_iff_too_long :
    ∃ opened kept, withFile ⟨.text "a\na\na\nb", []⟩ 3 = .ok opened ∧
      opened.file = some ⟨.text kept, []⟩ ∧
      (kept = if max 3 1 < (Text.lines "a\na\na\nb").length then unlines opened.entries
        else "a\na\na\nb") ∧
      (opened.entries.getLast? ≠ some "c" → (Text.lines kept).length < max 3 1 →
        ∃ written reopened, (opened.add "c").file = some ⟨.text written, []⟩ ∧
          withFile ⟨.text written, []⟩ 3 = .ok reopened ∧
          (Text.lines written = Text.lines kept ++ ["c"] ↔ IsEnded kept) ∧
          (reopened.entries = (opened.add "c").entries ↔ IsEnded kept) ∧
          (¬ IsEnded kept → Text.lines written =
            (Text.lines kept).dropLast ++ [(Text.lines kept).getLastD "" ++ "c"])) :=
  add_extends_iff (by decide) (by decide) (by decide) 3

/-- The last line of a file that somebody else has written is altered. -/
theorem add_alters_unended_line :
    ∃ opened reopened, withFile ⟨.text "one\ntwo", []⟩ 5 = .ok opened ∧
      opened.file = some ⟨.text "one\ntwo", []⟩ ∧
      opened.entries.getLast? ≠ some "three" ∧ (Text.lines "one\ntwo").length < 5 ∧
      (opened.add "three").file = some ⟨.text "one\ntwothree\n", []⟩ ∧
      Text.lines "one\ntwothree\n" ≠ Text.lines "one\ntwo" ++ ["three"] ∧
      withFile ⟨.text "one\ntwothree\n", []⟩ 5 = .ok reopened ∧
      (opened.add "three").entries = ["one", "two", "three"] ∧
      reopened.entries = ["one", "twothree"] := by
  refine ⟨_, _, rfl, rfl, ?_, ?_, ?_, ?_, rfl, ?_, ?_⟩ <;> decide

end LineShell.History
