import LineShell.Proofs.History.Operation

/-!
# Histories over files that refuse

A write to the file of a history may be refused, whatever becomes of the writes before and after it.
Nothing of that can be seen of the history: it answers as a history in memory does that begins with
the same entries. The file may have too many lines for a while. But the history never takes it for
shorter than it is (`Counted`), so it sees that the file is too long when the next line is added,
and if the writes go through then, the file has no more lines than are kept (`refusals_unseen`).
-/

namespace LineShell

/-! ### Files -/

namespace File

variable {file : File} {s : FileState} {rest : Refusals} {line : String} {entries : List String}

/-- How a write ends: it goes through whole, or nothing of it does. A refusal that was to come is
not to come any more when it came. -/
inductive Writes (file : File) (w : FileWrite) : Except SystemError Unit × File → Prop
  | whole {s : FileState} {rest : Refusals} (hstate : file.state.write w = .ok s)
    (hrest : rest.length = file.refusals.length) : Writes file w (.ok (), ⟨s, rest⟩)
  | refused {e : SystemError} {rest : Refusals} (hrest : rest.length < file.refusals.length) :
    Writes file w (.error e, ⟨file.state, rest⟩)
  | impossible {e : SystemError} {rest : Refusals} (hstate : file.state.write w = .error e)
    (hrest : rest.length = file.refusals.length) : Writes file w (.error e, ⟨file.state, rest⟩)

lemma length_next (r : Refusals) :
    if r.next.1 then r.next.2.length < r.length else r.next.2.length = r.length := by
  cases r with
  | nil => rfl
  | cons n rest =>
    cases n with
    | zero => exact Nat.lt_succ_self _
    | succ n => rfl

lemma writes (file : File) (w : FileWrite) : file.Writes w (file.write w) := by
  have hlength := length_next file.refusals
  rw [write.eq_def]
  generalize file.refusals.next = next at hlength
  obtain ⟨refused, rest⟩ := next
  cases refused with
  | true => exact .refused hlength
  | false =>
    dsimp only
    cases hstate : file.state.write w with
    | ok s => exact .whole hstate hlength
    | error e => exact .impossible hstate hlength

/-- The lines have nothing to do with the writes to come. -/
lemma lines_withRefusals (file : File) (rest : Refusals) :
    lines ⟨file.state, rest⟩ = file.lines :=
  rfl

lemma IsReadable.append (hfile : file.IsReadable) (hline : '\n' ∉ line.toList)
    (hstate : file.state.write (.append (line ++ "\n")) = .ok s) :
    IsReadable ⟨s, rest⟩ ∧ (lines ⟨s, rest⟩).length ≤ file.lines.length + 1 := by
  obtain ⟨state, refusals⟩ := file
  cases state with
  | text content =>
    obtain rfl := Except.ok.inj hstate
    exact ⟨isReadable_of_read rfl, Text.length_lines_append_le hline content⟩
  | absent =>
    obtain rfl := Except.ok.inj hstate
    have hlength := Text.length_lines_append_le hline ""
    rw [String.empty_append] at hlength
    exact ⟨isReadable_of_read rfl, hlength⟩
  | sink =>
    obtain rfl := Except.ok.inj hstate
    exact ⟨isReadable_of_read rfl, Nat.le_succ _⟩
  | binary => cases hfile _ rfl
  | unreachable reason => cases hstate
  | directory => cases hstate

lemma IsReadable.replace (hfile : file.IsReadable) (hentries : ∀ line ∈ entries, '\n' ∉ line.toList)
    (hstate : file.state.write (.replace (Text.unlines entries)) = .ok s) :
    IsReadable ⟨s, rest⟩ ∧ (lines ⟨s, rest⟩).length ≤ entries.length := by
  obtain ⟨state, refusals⟩ := file
  have hlength := (Text.length_lines_unlines hentries).le
  cases state with
  | text | absent =>
    obtain rfl := Except.ok.inj hstate
    exact ⟨isReadable_of_read rfl, hlength⟩
  | sink =>
    obtain rfl := Except.ok.inj hstate
    exact ⟨isReadable_of_read rfl, Nat.zero_le _⟩
  | binary => cases hfile _ rfl
  | unreachable reason => cases hstate
  | directory => cases hstate

/-- A file that cannot be written although nothing is refused has no lines. -/
lemma IsReadable.lines_eq_nil {w : FileWrite} {e : SystemError} (hfile : file.IsReadable)
    (hstate : file.state.write w = .error e) : file.lines = [] := by
  obtain ⟨state, refusals⟩ := file
  cases state with
  | unreachable reason => rfl
  | directory => rfl
  | text | absent | sink | binary => cases w <;> cases hstate

end File

namespace History

variable {h : History} {file : File} {line : String} {capacity : ℕ}

/-- How many of the writes to come are refused. -/
def pending (h : History) : ℕ :=
  h.file.elim 0 (·.refusals.length)

/-- The answers to some operations. -/
def answers (h : History) : List Operation → List (Option String)
  | [] => []
  | operation :: operations =>
    (operation.apply h).1 :: answers (operation.apply h).2 operations

/-! ### What can be seen -/

lemma Alike.answers {h' : History} (hlike : h.Alike h') (operations : List Operation) :
    h.answers operations = h'.answers operations := by
  induction operations generalizing h h' with
  | nil => rfl
  | cons operation operations ih =>
    obtain ⟨hanswer, hafter⟩ := hlike.apply operation
    rw [History.answers, History.answers, hanswer, ih hafter]

lemma Alike.afterAll {h' : History} (hlike : h.Alike h') (operations : List Operation) :
    (h.afterAll operations).Alike (h'.afterAll operations) := by
  induction operations generalizing h h' with
  | nil => exact hlike
  | cons operation operations ih => exact ih (hlike.apply operation).2

lemma position_afterAll_add (hposition : h.position = h.entries.length) (added : List String) :
    (h.afterAll (added.map .add)).position = (h.afterAll (added.map .add)).entries.length := by
  induction added generalizing h with
  | nil => exact hposition
  | cons line added ih =>
    apply ih
    have hlike := alike_add h line
    exact hlike.position_eq.trans (congrArg List.length hlike.entries_eq).symm

/-- A history in memory that the entries of another one are added to begins as that one does. -/
lemma alike_memory {lines : List String} (hlatest : h.Latest (max capacity 1) lines)
    (hposition : h.position = h.entries.length) :
    h.Alike ((inMemory capacity).afterAll (h.entries.map .add)) := by
  have hmemory := (latest_inMemory capacity).afterAll (h.entries.map .add)
  have hentries : h.entries = ((inMemory capacity).afterAll (h.entries.map .add)).entries := by
    rw [hmemory.entries_eq, foldl_sinceClear_add, List.nil_append]
    exact hlatest.entries_anew.entries_eq
  refine ⟨hentries, ?_, hlatest.capacity_eq.trans hmemory.capacity_eq.symm⟩
  rw [hposition, position_afterAll_add rfl, ← hentries]

/-! ### What is known of the file -/

/-- The file has no more lines than the history takes it to have, and what is written to it are
single lines. -/
structure Counted (h : History) : Prop where
  file : ∃ file, h.file = some file ∧ file.IsReadable ∧ file.lines.length ≤ h.fileLines
  notMem : ∀ line ∈ h.entries, '\n' ∉ line.toList

namespace Counted

lemma of_entries_subset {entries : List String} (hcounted : h.Counted)
    (hentries : ∀ line ∈ entries, '\n' ∉ line.toList) (position : ℕ) :
    Counted { h with entries, position } :=
  ⟨hcounted.file, hentries⟩

/-- A line is written at the end of the file, or nothing is. -/
lemma appendToFile (hcounted : h.Counted) (hline : '\n' ∉ line.toList) :
    (h.appendToFile line).Counted ∧ (h.appendToFile line).pending ≤ h.pending := by
  obtain ⟨⟨file, hfile, hreadable, hlines⟩, hentries⟩ := hcounted
  have hwrites := file.writes (.append (line ++ "\n"))
  rw [pending, pending, hfile, History.appendToFile, hfile]
  dsimp only
  generalize file.write (.append (line ++ "\n")) = written at hwrites
  cases hwrites with
  | whole hstate hrest =>
    obtain ⟨hreadable', hlines'⟩ := hreadable.append hline hstate
    have hcount := hlines'.trans (Nat.succ_le_succ hlines)
    exact ⟨⟨⟨_, rfl, hreadable', hcount⟩, hentries⟩, hrest.le⟩
  | refused hrest => exact ⟨⟨⟨_, rfl, hreadable, hlines⟩, hentries⟩, hrest.le⟩
  | impossible hstate hrest => exact ⟨⟨⟨_, rfl, hreadable, hlines⟩, hentries⟩, hrest.le⟩

/-- The file is written anew and has no more lines than there are entries, or one of the writes to
come was refused. -/
lemma writeEntries (hcounted : h.Counted) :
    h.writeEntries.Counted ∧ h.writeEntries.pending ≤ h.pending ∧
      (h.writeEntries.pending = h.pending →
        ∃ file, h.writeEntries.file = some file ∧ file.lines.length ≤ h.entries.length) := by
  obtain ⟨⟨file, hfile, hreadable, hlines⟩, hentries⟩ := hcounted
  have hwrites := file.writes (.replace (Text.unlines h.entries))
  rw [pending, pending, hfile, History.writeEntries, hfile]
  dsimp only
  generalize file.write (.replace (Text.unlines h.entries)) = written at hwrites
  cases hwrites with
  | whole hstate hrest =>
    obtain ⟨hreadable', hlines'⟩ := hreadable.replace hentries hstate
    exact ⟨⟨⟨_, rfl, hreadable', hlines'⟩, hentries⟩, hrest.le, fun _ => ⟨_, rfl, hlines'⟩⟩
  | refused hrest =>
    exact ⟨⟨⟨_, rfl, hreadable, hlines⟩, hentries⟩, hrest.le, fun heq => absurd heq hrest.ne⟩
  | impossible hstate hrest =>
    refine ⟨⟨⟨_, rfl, hreadable, hlines⟩, hentries⟩, hrest.le, fun _ => ⟨_, rfl, ?_⟩⟩
    rw [File.lines_withRefusals, hreadable.lines_eq_nil hstate]
    exact Nat.zero_le _

/-- A file that is not taken for too long is not. One that is is written anew. -/
lemma trimFile (hcounted : h.Counted) (hlength : h.entries.length ≤ h.capacity) :
    h.trimFile.Counted ∧ h.trimFile.pending ≤ h.pending ∧
      (h.trimFile.pending = h.pending →
        ∃ file, h.trimFile.file = some file ∧ file.lines.length ≤ h.capacity) := by
  rw [History.trimFile]
  split_ifs with hlong
  · obtain ⟨hcounted', hle, hwritten⟩ := hcounted.writeEntries
    refine ⟨hcounted', hle, fun heq => ?_⟩
    obtain ⟨file, hfile, hlines⟩ := hwritten heq
    exact ⟨file, hfile, hlines.trans hlength⟩
  · refine ⟨hcounted, Nat.le_refl _, fun _ => ?_⟩
    obtain ⟨file, hfile, -, hlines⟩ := hcounted.file
    exact ⟨file, hfile, hlines.trans (Nat.le_of_not_lt hlong)⟩

lemma notMem_push (hcounted : h.Counted) (hline : '\n' ∉ line.toList) :
    ∀ text ∈ (h.push line).entries, '\n' ∉ text.toList := by
  intro text htext
  rcases mem_push htext with hmem | rfl
  · exact hcounted.notMem text hmem
  · exact hline

/-- A line is added. If it goes on record and no write is refused, the file is not too long then. -/
lemma add (hcounted : h.Counted) (hline : '\n' ∉ line.toList)
    (hlength : (h.push line).entries.length ≤ h.capacity) :
    (h.add line).Counted ∧
      (h.records line → (h.add line).pending = h.pending →
        ∃ file, (h.add line).file = some file ∧ file.lines.length ≤ h.capacity) := by
  have hnotMem := hcounted.notMem_push hline
  rw [History.add]
  by_cases hrecords : h.records line
  · let entries := (h.push line).entries
    let pushed : History := { h with entries, position := entries.length }
    have hpushed : { h.push line with position := entries.length } = pushed := by
      simp only [pushed, entries]
      rw [push_eq, if_pos hrecords]
    have happend := (hcounted.of_entries_subset hnotMem entries.length).appendToFile hline
    have hlike := alike_appendToFile pushed line
    obtain ⟨hcounted', hle, hwritten⟩ := happend.1.trimFile (by
      rw [hlike.entries_eq, hlike.capacity_eq]
      exact hlength)
    rw [if_pos hrecords, hpushed]
    refine ⟨hcounted', fun _ heq => ?_⟩
    have hmiddle : (pushed.appendToFile line).pending ≤ h.pending := happend.2
    rw [← hlike.capacity_eq]
    exact hwritten (Nat.le_antisymm hle (hmiddle.trans heq.ge))
  · rw [if_neg hrecords]
    rw [push_eq, if_neg hrecords]
    exact ⟨hcounted.of_entries_subset hcounted.notMem _, fun h => absurd h hrecords⟩

/-- The step lemma. -/
lemma apply {lines : List String} (hcounted : h.Counted) (hlatest : h.Latest capacity lines)
    {operation : Operation} (hline : ∀ line, operation = .add line → '\n' ∉ line.toList) :
    (operation.apply h).2.Counted := by
  cases operation with
  | add line =>
    refine (hcounted.add (hline line rfl) ?_).1
    rw [← entries_add, hlatest.capacity_eq]
    exact (hlatest.add line).length_entries_le
  | previous =>
    rw [(hlatest.walks .previous).1]
    exact hcounted.of_entries_subset hcounted.notMem _
  | next =>
    rw [(hlatest.walks .next).1]
    exact hcounted.of_entries_subset hcounted.notMem _
  | clear => exact (hcounted.of_entries_subset (List.forall_mem_nil _) 0).writeEntries.1

/-- The run lemma. -/
lemma afterAll {lines : List String} (hcounted : h.Counted) (hlatest : h.Latest capacity lines)
    {operations : List Operation} (hlines : ∀ line, .add line ∈ operations → '\n' ∉ line.toList) :
    (h.afterAll operations).Counted := by
  induction operations generalizing h lines with
  | nil => exact hcounted
  | cons operation operations ih =>
    have hfirst := hcounted.apply hlatest fun line hline => hlines line (hline ▸ List.mem_cons_self)
    exact ih hfirst (hlatest.apply operation) fun line hline =>
      hlines line (List.mem_cons_of_mem _ hline)

end Counted

lemma exists_withFile_counted (hfile : file.IsReadable) (capacity : ℕ) :
    ∃ opened, withFile file capacity = .ok opened ∧ opened.Counted ∧
      opened.Alike (load capacity file.lines) := by
  have hkeeps := keeps_load capacity file.lines
  have hentries : ∀ line ∈ (load capacity file.lines).entries, '\n' ∉ line.toList := by
    intro line hline
    have hmem := hkeeps.mem_lines hline
    rw [File.lines_eq] at hmem
    exact Text.notMem_of_mem_lines hmem
  have hloaded : Counted { load capacity file.lines with file := some file } :=
    ⟨⟨file, rfl, hfile, Nat.le_refl _⟩, hentries⟩
  refine ⟨_, withFile_eq hfile capacity, (hloaded.trimFile ?_).1,
    (alike_trimFile _).trans ⟨rfl, rfl, rfl⟩⟩
  exact hkeeps.length_entries_le.trans hkeeps.capacity_eq.ge

/-! ### Whatever is refused -/

/-- Open a history over a file that can be read, where any of the writes to it may be refused. It
has the same entries and the same cursor as a history in memory that these entries were added to,
and so it has, and gives the same answers, whatever is done with both. Where only single lines are
added: whenever a line goes on record and none of the writes that come with it is refused, the file
has no more lines then than are kept. -/
theorem refusals_unseen (hfile : file.IsReadable) (capacity : ℕ) :
    ∃ opened, withFile file capacity = .ok opened ∧
      let memory := (inMemory capacity).afterAll (opened.entries.map .add)
      (opened.entries = memory.entries ∧ opened.position = memory.position) ∧
        ∀ operations : List Operation,
          let h := opened.afterAll operations
          let h' := memory.afterAll operations
          opened.answers operations = memory.answers operations ∧
            h.entries = h'.entries ∧ h.position = h'.position ∧
            ∀ line, (∀ text, .add text ∈ operations ++ [.add line] → '\n' ∉ text.toList) →
              h.records line → (h.add line).pending = h.pending →
              ∃ written, (h.add line).file = some written ∧
                written.lines.length ≤ max capacity 1 := by
  obtain ⟨opened, hopened, hcounted, hload⟩ := exists_withFile_counted hfile capacity
  have hlatest := (latest_load capacity file.lines).of_alike hload
  have hposition : opened.position = opened.entries.length :=
    hload.position_eq.trans (congrArg List.length hload.entries_eq).symm
  have hlike := alike_memory hlatest hposition
  refine ⟨opened, hopened, ⟨hlike.entries_eq, hlike.position_eq⟩, fun operations => ?_⟩
  have hafter := hlike.afterAll operations
  refine ⟨hlike.answers operations, hafter.entries_eq, hafter.position_eq, ?_⟩
  intro line hlines hrecords hpending
  have hlatest' := hlatest.afterAll operations
  have hcounted' := hcounted.afterAll hlatest fun text htext =>
    hlines text (List.mem_append_left _ htext)
  have hlength := (hlatest'.add line).length_entries_le
  rw [entries_add, ← hlatest'.capacity_eq] at hlength
  rw [← hlatest'.capacity_eq]
  exact (hcounted'.add (hlines line (by simp)) hlength).2 hrecords hpending

/-- A file that is too long is not written anew when it is opened and when a line is added. The next
line is not written to it. The one after that is, and then the file is written anew. -/
theorem refusals_unseen_thrice :
    let file : File := ⟨.text "a\nb\n\nc\r", [0, 1, 0]⟩
    let operations : List Operation := [.add "d", .previous, .add "e"]
    file.IsReadable ∧
      ∃ opened, withFile file 2 = .ok opened ∧
        opened.answers operations = [none, some "d", none] ∧
        (opened.afterAll operations).file = some ⟨.text "d\ne\n", []⟩ ∧
        ∃ written, ((opened.afterAll operations).add "f").file = some written ∧
          written.lines.length ≤ 2 := by
  intro file operations
  have hfile : file.IsReadable := File.isReadable_of_read rfl
  obtain ⟨opened, hopened, -, hall⟩ := refusals_unseen hfile 2
  obtain rfl := Except.ok.inj hopened
  obtain ⟨-, -, -, hwritten⟩ := hall operations
  refine ⟨hfile, _, hopened, by decide, by decide, hwritten "f" ?_ (by decide) (by decide)⟩
  simp [operations]

end History

end LineShell
