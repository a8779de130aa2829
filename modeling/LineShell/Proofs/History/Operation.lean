import LineShell.Proofs.History.Mirror

/-!
# Walking in a history

Lines are added to a history, somebody walks in it, and it is cleared, in any order. The entries are
the latest of what goes on record of the lines that were added since it was cleared, and the cursor
is on one of them or past the newest one (`Latest`). So whatever was done before, there are not too
many entries, none of them is blank, no two neighbours are equal, and the cursor goes where it has
to (`entries_and_cursor`).

The file has no say in this. To write to it changes nothing that can be seen of the history
(`Alike`).
-/

namespace LineShell.History

variable {h h' : History} {lines : List String} {bound capacity : ℕ}

/-- A history over a file, or in memory if there is no place for one. -/
def opening (place : Option File) (capacity : ℕ) : Except Failure History :=
  match place with
  | none => .ok (inMemory capacity)
  | some file => withFile file capacity

/-! ### What can be done -/

/-- What can be done with a history. -/
inductive Operation
  /-- Adds a line. -/
  | add (line : String)
  /-- Walks to the line before the cursor. -/
  | previous
  /-- Walks to the line after the cursor. -/
  | next
  /-- Forgets all lines. -/
  | clear
  deriving DecidableEq, Repr

namespace Operation

/-- What is answered, and the history then. -/
def apply (h : History) : Operation → Option String × History
  | add line => (none, h.add line)
  | previous => h.previous
  | next => h.next
  | clear => (none, h.clear)

/-- Of some lines that were added before, and what is done now: the lines that were added since the
history was cleared. -/
def sinceClear (lines : List String) : Operation → List String
  | add line => lines ++ [line]
  | clear => []
  | _ => lines

/-- Where the cursor goes, and what is answered. -/
def Walks (h : History) (answer : Option String) (h' : History) : Operation → Prop
  | add _ | clear => h'.position = h'.entries.length ∧ answer = none
  | previous =>
    h' = { h with position := h.position - 1 } ∧ answer = h.entries[h'.position]? ∧
      (h.entries = [] → answer = none ∧ h' = h) ∧ (h.entries ≠ [] → answer.isSome)
  | next =>
    h' = { h with position := min (h.position + 1) h.entries.length } ∧
      answer = h.entries[h'.position]?

end Operation

/-- The history after some operations. -/
def afterAll (h : History) (operations : List Operation) : History :=
  operations.foldl (fun h operation => (operation.apply h).2) h

/-! ### What can be seen -/

/-- Two histories differ at most in their files. -/
structure Alike (h h' : History) : Prop where
  entries_eq : h.entries = h'.entries
  position_eq : h.position = h'.position
  capacity_eq : h.capacity = h'.capacity

@[refl] lemma Alike.refl (h : History) : h.Alike h :=
  ⟨rfl, rfl, rfl⟩

lemma Alike.trans {h'' : History} (hlike : h.Alike h') (hlike' : h'.Alike h'') : h.Alike h'' :=
  ⟨hlike.entries_eq.trans hlike'.entries_eq, hlike.position_eq.trans hlike'.position_eq,
    hlike.capacity_eq.trans hlike'.capacity_eq⟩

lemma Alike.symm (hlike : h.Alike h') : h'.Alike h :=
  ⟨hlike.entries_eq.symm, hlike.position_eq.symm, hlike.capacity_eq.symm⟩

lemma alike_writeEntries (h : History) : h.writeEntries.Alike h := by
  rw [writeEntries]
  split
  · rfl
  · split <;> exact ⟨rfl, rfl, rfl⟩

lemma alike_trimFile (h : History) : h.trimFile.Alike h := by
  rw [trimFile]
  split_ifs
  · exact alike_writeEntries h
  · rfl

lemma alike_appendToFile (h : History) (line : String) : (h.appendToFile line).Alike h := by
  rw [appendToFile]
  split
  · rfl
  · split <;> exact ⟨rfl, rfl, rfl⟩

/-- Apart from its file, the history with a line added. -/
lemma alike_add (h : History) (line : String) :
    (h.add line).Alike { h.push line with position := (h.push line).entries.length } := by
  rw [add]
  split_ifs
  · exact (alike_trimFile _).trans (alike_appendToFile _ line)
  · rfl

lemma Alike.push (hlike : h.Alike h') (line : String) : (h.push line).Alike (h'.push line) := by
  have hrecords : h.records line = h'.records line := by
    rw [records, records, hlike.entries_eq]
  rw [push_eq, push_eq, hrecords]
  split_ifs
  · refine ⟨?_, hlike.position_eq, hlike.capacity_eq⟩
    dsimp only
    rw [hlike.entries_eq, hlike.capacity_eq]
  · exact hlike

/-- The step lemma: the answer of an operation, and what can be seen of the history then, are told
by what can be seen before. -/
lemma Alike.apply (hlike : h.Alike h') (operation : Operation) :
    (operation.apply h).1 = (operation.apply h').1 ∧
      (operation.apply h).2.Alike (operation.apply h').2 := by
  obtain ⟨hentries, hposition, hcapacity⟩ := hlike
  cases operation with
  | add line =>
    have hpush := Alike.push ⟨hentries, hposition, hcapacity⟩ line
    refine ⟨rfl, (alike_add h line).trans (.trans ?_ (alike_add h' line).symm)⟩
    exact ⟨hpush.entries_eq, congrArg List.length hpush.entries_eq, hpush.capacity_eq⟩
  | previous =>
    show h.previous.1 = h'.previous.1 ∧ h.previous.2.Alike h'.previous.2
    rw [History.previous, History.previous, hentries, hposition]
    split_ifs
    · exact ⟨rfl, hentries, hposition, hcapacity⟩
    · exact ⟨rfl, rfl, rfl, hcapacity⟩
  | next =>
    show h.next.1 = h'.next.1 ∧ h.next.2.Alike h'.next.2
    rw [History.next, History.next, hentries, hposition]
    split_ifs <;> exact ⟨rfl, rfl, rfl, hcapacity⟩
  | clear =>
    refine ⟨rfl, (alike_writeEntries _).trans (.trans ?_ (alike_writeEntries _).symm)⟩
    exact ⟨rfl, rfl, hcapacity⟩

/-! ### The latest lines -/

/-- The history has, of what goes on record of some lines, the latest ones, and the cursor on one of
them or past the newest one. -/
structure Latest (h : History) (bound : ℕ) (lines : List String) : Prop extends
    h.Keeps bound lines where
  position_le : h.position ≤ h.entries.length

namespace Latest

lemma of_alike (hlatest : h.Latest bound lines) (hlike : h'.Alike h) : h'.Latest bound lines := by
  refine ⟨hlatest.of_eq hlike.entries_eq hlike.capacity_eq, ?_⟩
  rw [hlike.position_eq, hlike.entries_eq]
  exact hlatest.position_le

lemma moved (hlatest : h.Latest bound lines) {position : ℕ} (hle : position ≤ h.entries.length) :
    ({ h with position } : History).Latest bound lines :=
  ⟨hlatest.of_eq rfl rfl, hle⟩

lemma add (hlatest : h.Latest bound lines) (line : String) :
    (h.add line).Latest bound (lines ++ [line]) := by
  let pushed : History := { h.push line with position := (h.push line).entries.length }
  have hpushed : pushed.Latest bound (lines ++ [line]) :=
    ⟨(hlatest.push line).of_eq rfl rfl, Nat.le_refl _⟩
  exact hpushed.of_alike (alike_add h line)

lemma clear (hlatest : h.Latest bound lines) : h.clear.Latest bound [] := by
  let emptied : History := { h with entries := [], position := 0 }
  have hemptied : emptied.Latest bound [] := ⟨hlatest.cleared.of_eq rfl rfl, Nat.le_refl 0⟩
  exact hemptied.of_alike (alike_writeEntries emptied)

lemma walks_previous (hlatest : h.Latest bound lines) :
    Operation.previous.Walks h h.previous.1 h.previous.2 := by
  have hle := hlatest.position_le
  rw [History.previous]
  by_cases hempty : h.entries = []
  · have hposition : h.position = 0 := by
      simpa [hempty] using hle
    rw [if_pos (by simp [hempty])]
    refine ⟨?_, by simp [hempty], fun _ => ⟨rfl, rfl⟩, fun hne => absurd hempty hne⟩
    rw [hposition, Nat.zero_sub, ← hposition]
  · have hpos : 0 < h.entries.length := List.length_pos_iff.mpr hempty
    rw [if_neg (by simpa using hempty)]
    refine ⟨rfl, rfl, fun h => absurd h hempty, fun _ => ?_⟩
    rw [isSome_getElem?]
    omega

lemma walks_next (hlatest : h.Latest bound lines) :
    Operation.next.Walks h h.next.1 h.next.2 := by
  have hle := hlatest.position_le
  rw [History.next]
  split_ifs with hlt
  · have hmin : min (h.position + 1) h.entries.length = h.position + 1 := by omega
    exact ⟨by rw [hmin], rfl⟩
  · have hmin : min (h.position + 1) h.entries.length = h.entries.length := by omega
    exact ⟨by rw [hmin], by simp⟩

/-- Whatever is done, the cursor goes where it has to. -/
lemma walks (hlatest : h.Latest bound lines) (operation : Operation) :
    operation.Walks h (operation.apply h).1 (operation.apply h).2 := by
  cases operation with
  | add line =>
    have hlike := alike_add h line
    exact ⟨hlike.position_eq.trans (congrArg List.length hlike.entries_eq).symm, rfl⟩
  | previous => exact hlatest.walks_previous
  | next => exact hlatest.walks_next
  | clear =>
    have hlike := alike_writeEntries { h with entries := [], position := 0 }
    exact ⟨hlike.position_eq.trans (congrArg List.length hlike.entries_eq).symm, rfl⟩

/-- The step lemma. -/
lemma apply (hlatest : h.Latest bound lines) (operation : Operation) :
    (operation.apply h).2.Latest bound (operation.sinceClear lines) := by
  have hwalks := hlatest.walks operation
  have hle := hlatest.position_le
  cases operation with
  | add line => exact hlatest.add line
  | previous =>
    rw [hwalks.1]
    exact hlatest.moved (by omega)
  | next =>
    rw [hwalks.1]
    exact hlatest.moved (Nat.min_le_right _ _)
  | clear => exact hlatest.clear

/-- The run lemma. -/
lemma afterAll (hlatest : h.Latest bound lines) (operations : List Operation) :
    (h.afterAll operations).Latest bound (operations.foldl Operation.sinceClear lines) := by
  induction operations generalizing h lines with
  | nil => exact hlatest
  | cons operation operations ih => exact ih (hlatest.apply operation)

end Latest

lemma foldl_sinceClear_add (lines added : List String) :
    (added.map Operation.add).foldl Operation.sinceClear lines = lines ++ added := by
  induction added generalizing lines with
  | nil => exact (List.append_nil lines).symm
  | cons line added ih =>
    rw [List.map_cons, List.foldl_cons, ih, Operation.sinceClear, List.append_assoc]
    rfl

/-! ### Opening a history -/

lemma latest_inMemory (capacity : ℕ) : (inMemory capacity).Latest (max capacity 1) [] :=
  ⟨keeps_inMemory capacity, Nat.le_refl 0⟩

lemma latest_load (capacity : ℕ) (lines : List String) :
    (load capacity lines).Latest (max capacity 1) lines :=
  ⟨keeps_load capacity lines, Nat.le_refl _⟩

/-- A history that is opened begins with the latest lines of its file, and with the cursor past the
newest one. -/
lemma exists_withFile {file : File} (hfile : file.IsReadable) (capacity : ℕ) :
    ∃ opened, withFile file capacity = .ok opened ∧ opened.Alike (load capacity file.lines) :=
  ⟨_, withFile_eq hfile capacity, (alike_trimFile _).trans ⟨rfl, rfl, rfl⟩⟩

lemma exists_opening {place : Option File} (hplace : ∀ file ∈ place, file.IsReadable)
    (capacity : ℕ) :
    ∃ opened, opening place capacity = .ok opened ∧
      opened.Latest (max capacity 1) (place.elim [] File.lines) := by
  cases place with
  | none => exact ⟨_, rfl, latest_inMemory capacity⟩
  | some file =>
    obtain ⟨opened, hopened, hlike⟩ := exists_withFile (hplace file rfl) capacity
    exact ⟨opened, hopened, (latest_load capacity file.lines).of_alike hlike⟩

/-- Begin with no file, or with one that can be read, whatever becomes of the writes to it. After
any operations there are not more entries than are kept, none of them is blank, and no two
neighbours are equal. The cursor is at most at their number. The next operation moves it as it has
to: to add a line and to clear the history puts it at the number of entries, and to walk puts it one
down or one up as long as that is between zero and their number, and answers the entry there, if
there is one. As long as lines are only added, the entries are the latest of the lines of the file
and these, the blank ones left out and a row of equal ones taken for one. -/
theorem entries_and_cursor {place : Option File} (hplace : ∀ file ∈ place, file.IsReadable)
    (capacity : ℕ) :
    ∃ opened, opening place capacity = .ok opened ∧
      (∀ operations : List Operation,
        let h := opened.afterAll operations
        h.entries.length ≤ max capacity 1 ∧
          (∀ line ∈ h.entries, Text.allBlank line = false) ∧
          h.entries.IsChain (· ≠ ·) ∧ h.position ≤ h.entries.length ∧
          ∀ operation : Operation,
            operation.Walks h (operation.apply h).1 (operation.apply h).2) ∧
      ∀ added : List String,
        (opened.afterAll (added.map .add)).entries =
          (recorded (place.elim [] File.lines ++ added)).rtake (max capacity 1) := by
  obtain ⟨opened, hopened, hlatest⟩ := exists_opening hplace capacity
  refine ⟨opened, hopened, fun operations => ?_, fun added => ?_⟩
  · have hafter := hlatest.afterAll operations
    exact ⟨hafter.length_entries_le, hafter.allBlank_eq_false, hafter.isChain_ne,
      hafter.position_le, hafter.walks⟩
  · rw [(hlatest.afterAll _).entries_eq, foldl_sinceClear_add]

/-- A file with a line too many, a blank one and a repeated one among them, that is not written anew
because the first write is refused. -/
theorem entries_and_cursor_overfull :
    let file : File := ⟨.text "a\n\nb\nb\nc", [0]⟩
    let operations := [.previous, .previous, .previous, .add "d", .next, .clear, .next]
    (∀ place ∈ some file, place.IsReadable) ∧
      ∃ opened, opening (some file) 2 = .ok opened ∧
        (opened.afterAll operations).position ≤ (opened.afterAll operations).entries.length ∧
        (opened.afterAll (["c", " ", "d"].map .add)).entries = ["c", "d"] := by
  intro file operations
  have hfile : ∀ place ∈ some file, place.IsReadable := by
    rintro place ⟨⟩ e he
    cases he
  obtain ⟨opened, hopened, hafter, hadded⟩ := entries_and_cursor hfile 2
  refine ⟨hfile, opened, hopened, (hafter operations).2.2.2.1, ?_⟩
  rw [hadded]
  decide

end LineShell.History
