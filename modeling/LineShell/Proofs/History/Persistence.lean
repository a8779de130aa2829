import LineShell.Proofs.History.Mirror

/-!
# Histories and their files

As long as no write is refused and nobody else writes to the file, a history and its file agree: a
history that is opened over the file at any time begins with the latest entries of the first one
(`file_agrees`). The file has some lines more than there are entries, for lines that are blank or
repeated are left in it, but not more than are kept.

A history is first added to and then made fit. In between its file may have one line too many, and
so may a file that is opened. What holds even then is that the history mirrors its file. A file that
is tidy when it is opened has all its lines ended from then on, so what is added comes after them.
-/

namespace LineShell

open Text (IsEnded IsLine)

/-! ### Tidy files -/

/-- There is no file yet, or its text is without carriage returns and its last line is ended. -/
def FileState.IsTidy : FileState → Prop
  | .absent => True
  | .text content => '\r' ∉ content.toList ∧ ∀ c ∈ content.toList.getLast?, c = '\n'
  | _ => False

namespace FileState.IsTidy

variable {s : FileState}

lemma isOrdinary (h : s.IsTidy) : File.IsOrdinary ⟨s, []⟩ := by
  cases s with
  | absent => exact .absent
  | text content => exact .text content
  | unreachable | directory | sink | binary => exact h.elim

lemma isLine (h : s.IsTidy) : ∀ line ∈ File.lines ⟨s, []⟩, IsLine line.toList := by
  cases s with
  | absent => exact List.forall_mem_nil _
  | text content => exact fun line => Text.isLine_of_mem_lines h.1
  | unreachable | directory | sink | binary => exact h.elim

lemma isEnded (h : s.IsTidy) : IsEnded (File.content ⟨s, []⟩) := by
  cases s with
  | absent => exact .inl rfl
  | text content =>
    refine Text.isEnded_iff.mpr ?_
    cases hlast : content.toList.getLast? with
    | none => exact .inl (List.getLast?_eq_none_iff.mp hlast)
    | some c => exact .inr (hlast.trans (congrArg some (h.2 c hlast)))
  | unreachable | directory | sink | binary => exact h.elim

end FileState.IsTidy

namespace History

variable {h : History} {file : File} {capacity : ℕ}

/-! ### Agreement -/

/-- The history mirrors its file, the lines of which are all ended and no more than are kept. -/
def Agrees (h : History) (capacity : ℕ) : Prop :=
  ∃ file, h.Mirrors capacity file ∧ IsEnded file.content ∧ file.lines.length ≤ capacity

/-- A file with too many lines is written anew, and then it has not. -/
lemma Mirrors.agrees_trimFile (hmirrors : h.Mirrors capacity file)
    (hended : IsEnded file.content) : h.trimFile.Agrees capacity := by
  have htrimmed := hmirrors.trimFile
  split_ifs at htrimmed with hlong
  · refine ⟨_, htrimmed, Text.isEnded_unlines h.entries, ?_⟩
    rw [hmirrors.lines_anew]
    exact hmirrors.length_entries_le
  · exact ⟨file, htrimmed, hended, Nat.le_of_not_lt hlong⟩

/-! ### What may be done to a history -/

/-- What changes the lines of a history. -/
inductive Change
  /-- Adds a line. -/
  | add (line : String)
  /-- Forgets all lines. -/
  | clear
  deriving DecidableEq, Repr

/-- What a change does to a history. -/
def Change.apply (h : History) : Change → History
  | add line => h.add line
  | clear => h.clear

/-- The history after some changes. -/
def after (h : History) (changes : List Change) : History :=
  changes.foldl Change.apply h

namespace Agrees

/-- If the file has no more lines than are kept, all that is on record is kept. -/
lemma exists_entries_eq (hagrees : h.Agrees capacity) :
    ∃ file, h.file = some file ∧ file.IsOrdinary ∧ file.lines.length ≤ capacity ∧
      h.entries = recorded file.lines := by
  obtain ⟨file, hmirrors, -, hlength⟩ := hagrees
  refine ⟨file, hmirrors.file_eq, hmirrors.isOrdinary, hlength, ?_⟩
  rw [hmirrors.entries_eq]
  exact rtake_of_length_le ((length_recorded_le _).trans hlength)

lemma add (hagrees : h.Agrees capacity) {line : String} (hline : IsLine line.toList) :
    (h.add line).Agrees capacity := by
  obtain ⟨file, hmirrors, hended, hlength⟩ := hagrees
  rw [History.add]
  by_cases hrecords : h.records line
  · rw [if_pos hrecords]
    apply (hmirrors.appendToFile hended hline hrecords _).agrees_trimFile
    exact Text.isEnded_append_lineFeed _ line
  · rw [if_neg hrecords, push_eq, if_neg hrecords]
    exact ⟨file, hmirrors.moved _, hended, hlength⟩

lemma clear (hagrees : h.Agrees capacity) : h.clear.Agrees capacity := by
  obtain ⟨file, hmirrors, -⟩ := hagrees
  rw [History.clear, writeEntries_eq (by exact hmirrors.file_eq) hmirrors.isOrdinary]
  exact ⟨⟨.text "", []⟩, ⟨hmirrors.cleared.of_eq rfl rfl, rfl, .text _, List.forall_mem_nil _, rfl⟩,
    .inl rfl, Nat.zero_le _⟩

lemma apply (hagrees : h.Agrees capacity) {change : Change}
    (hchange : ∀ line, change = .add line → IsLine line.toList) :
    (change.apply h).Agrees capacity := by
  cases change with
  | add line => exact hagrees.add (hchange line rfl)
  | clear => exact hagrees.clear

lemma after (hagrees : h.Agrees capacity) {changes : List Change}
    (hchanges : ∀ line, .add line ∈ changes → IsLine line.toList) :
    (h.after changes).Agrees capacity := by
  induction changes generalizing h with
  | nil => exact hagrees
  | cons change changes ih =>
    apply ih (hagrees.apply fun line hline => hchanges line (hline ▸ List.mem_cons_self))
    exact fun line hline => hchanges line (List.mem_cons_of_mem _ hline)

end Agrees

/-- Whatever is added to a history over a tidy file, its file never has more lines than are kept,
and a history opened over the file has the latest of the entries, as many as that one keeps. -/
theorem file_agrees {s : FileState} (hs : s.IsTidy) {changes : List Change}
    (hchanges : ∀ line, .add line ∈ changes → IsLine line.toList) (capacity : ℕ) :
    ∃ opened file, withFile ⟨s, []⟩ capacity = .ok opened ∧
      (opened.after changes).file = some file ∧
      file.lines.length ≤ max capacity 1 ∧
      ∀ bound, ∃ reopened, withFile file bound = .ok reopened ∧
        reopened.entries = (opened.after changes).entries.rtake (max bound 1) := by
  have hopened := (mirrors_load hs.isOrdinary hs.isLine capacity).agrees_trimFile hs.isEnded
  obtain ⟨file, hfile, hordinary, hlength, hentries⟩ := (hopened.after hchanges).exists_entries_eq
  refine ⟨_, file, withFile_eq hs.isOrdinary.isReadable capacity, hfile, hlength, fun bound => ?_⟩
  rw [hentries]
  exact exists_withFile_entries hordinary.isReadable bound

/-- A file with blank and repeated lines that is too long, and lines of that kind added to it. -/
theorem file_agrees_too_long :
    ∃ opened file, withFile ⟨.text "a\n\nb\nb\n", []⟩ 3 = .ok opened ∧
      (opened.after [.add "b", .add "c\rd", .add " ", .clear, .add "e"]).file = some file ∧
      file.lines.length ≤ max 3 1 ∧
      ∀ bound, ∃ reopened, withFile file bound = .ok reopened ∧
        reopened.entries =
          (opened.after [.add "b", .add "c\rd", .add " ", .clear, .add "e"]).entries.rtake
            (max bound 1) := by
  apply file_agrees
  · have hlast : "a\n\nb\nb\n".toList.getLast? = some '\n' := by decide
    refine ⟨by decide, fun c hc => ?_⟩
    rw [hlast] at hc
    exact (Option.mem_some_iff.mp hc).symm
  · intro line hline
    simp only [List.mem_cons, Change.add.injEq, reduceCtorEq, List.not_mem_nil, or_false,
      false_or] at hline
    rcases hline with rfl | rfl | rfl | rfl <;> decide

end History

end LineShell
