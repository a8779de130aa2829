import LineShell.History
import Mathlib.Data.List.Destutter
import Mathlib.Data.List.DropRight
import Mathlib.Tactic.Common

/-!
# The entries of a history

Of some lines there go on record those that are not blank, and a row of equal ones as one line
(`recorded`). A history that the lines are read into has the latest of these, as many as it keeps
(`Keeps`, `keeps_load`), and still has when one more line is added. To walk in a history, or to
write it to its file, leaves its entries alone.
-/

namespace LineShell.History

variable {h : History} {line text : String} {lines entries : List String}

/-! ### What is not recorded anew -/

@[simp] lemma entries_writeEntries (h : History) : h.writeEntries.entries = h.entries := by
  rw [writeEntries]
  split
  · rfl
  · split <;> rfl

@[simp] lemma entries_trimFile (h : History) : h.trimFile.entries = h.entries := by
  rw [trimFile]
  split_ifs
  · exact entries_writeEntries h
  · rfl

@[simp] lemma entries_appendToFile (h : History) (line : String) :
    (h.appendToFile line).entries = h.entries := by
  rw [appendToFile]
  split
  · rfl
  · split <;> rfl

@[simp] lemma entries_clear (h : History) : h.clear.entries = [] := by
  rw [clear, entries_writeEntries]

@[simp] lemma entries_previous (h : History) : h.previous.2.entries = h.entries := by
  rw [previous]
  split_ifs <;> rfl

@[simp] lemma entries_next (h : History) : h.next.2.entries = h.entries := by
  rw [next]
  split_ifs <;> rfl

lemma mem_of_previous (hline : h.previous.1 = some line) : line ∈ h.entries := by
  rw [previous] at hline
  split_ifs at hline
  exact List.mem_of_getElem? hline

lemma mem_of_next (hline : h.next.1 = some line) : line ∈ h.entries := by
  rw [next] at hline
  split_ifs at hline
  exact List.mem_of_getElem? hline

/-! ### One more line -/

lemma push_eq (h : History) (line : String) :
    h.push line =
      if h.records line then { h with entries := (h.entries ++ [line]).rtake h.capacity } else h :=
  rfl

@[simp] lemma capacity_push (h : History) (line : String) :
    (h.push line).capacity = h.capacity := by
  rw [push_eq]
  split_ifs <;> rfl

lemma mem_push (hmem : text ∈ (h.push line).entries) : text ∈ h.entries ∨ text = line := by
  rw [push] at hmem
  split_ifs at hmem
  · simpa using List.mem_of_mem_drop hmem
  · exact .inl hmem

lemma entries_add (h : History) (line : String) : (h.add line).entries = (h.push line).entries := by
  rw [add]
  split_ifs
  · rw [entries_trimFile, entries_appendToFile]
  · rfl

lemma mem_add (hmem : text ∈ (h.add line).entries) : text ∈ h.entries ∨ text = line := by
  rw [entries_add] at hmem
  exact mem_push hmem

/-! ### Many lines -/

/-- What goes on record of some lines, if all of it is kept: the lines that are not blank, and a row
of equal ones as one line. -/
def recorded (lines : List String) : List String :=
  (lines.filter (!Text.allBlank ·)).destutter (· ≠ ·)

@[simp] lemma recorded_nil : recorded [] = [] := rfl

lemma length_recorded_le (lines : List String) : (recorded lines).length ≤ lines.length :=
  (List.destutter_sublist _ _).length_le.trans (List.length_filter_le _ lines)

section Lists

variable {α : Type*}

lemma destutter'_ne_concat [DecidableEq α] (a : α) (l : List α) (x : α) :
    (l ++ [x]).destutter' (· ≠ ·) a =
      if (l.destutter' (· ≠ ·) a).getLast? = some x then l.destutter' (· ≠ ·) a
      else l.destutter' (· ≠ ·) a ++ [x] := by
  induction l generalizing a with
  | nil =>
    rw [List.nil_append, List.destutter'_singleton]
    by_cases hx : a = x <;> simp [hx]
  | cons b l ih =>
    rw [List.cons_append, List.destutter'_cons, List.destutter'_cons]
    split_ifs with hb hlast hlast
    · rw [ih, if_pos]
      rwa [List.getLast?_cons_of_ne_nil (List.destutter'_ne_nil l _)] at hlast
    · rw [ih, if_neg, List.cons_append]
      rwa [List.getLast?_cons_of_ne_nil (List.destutter'_ne_nil l _)] at hlast
    · rw [ih, if_pos hlast]
    · rw [ih, if_neg hlast]

/-- One more element repeats the last one or comes after it. -/
lemma destutter_ne_concat [DecidableEq α] (l : List α) (x : α) :
    (l ++ [x]).destutter (· ≠ ·) =
      if (l.destutter (· ≠ ·)).getLast? = some x then l.destutter (· ≠ ·)
      else l.destutter (· ≠ ·) ++ [x] := by
  cases l with
  | nil => simp
  | cons a l => exact destutter'_ne_concat a l x

lemma getLast?_rtake {n : ℕ} (hn : 0 < n) (l : List α) : (l.rtake n).getLast? = l.getLast? := by
  obtain ⟨n, rfl⟩ := Nat.exists_eq_succ_of_ne_zero hn.ne'
  rcases l.eq_nil_or_concat with rfl | ⟨l, x, rfl⟩
  · simp
  · simp [List.rtake_concat_succ]

lemma rtake_rtake (l : List α) (m n : ℕ) : (l.rtake n).rtake m = l.rtake (min m n) := by
  rw [List.rtake, List.rtake, List.rtake, List.length_drop, List.drop_drop]
  congr 1
  omega

lemma length_rtake_le (l : List α) (n : ℕ) : (l.rtake n).length ≤ n := by
  rw [List.rtake, List.length_drop]
  omega

lemma rtake_of_length_le {n : ℕ} {l : List α} (hl : l.length ≤ n) : l.rtake n = l := by
  rw [List.rtake, Nat.sub_eq_zero_of_le hl, List.drop_zero]

lemma rtake_rtake_concat (l : List α) (x : α) (n : ℕ) :
    (l.rtake n ++ [x]).rtake n = (l ++ [x]).rtake n := by
  cases n with
  | zero => simp
  | succ n =>
    rw [List.rtake_concat_succ, List.rtake_concat_succ, rtake_rtake,
      Nat.min_eq_left (Nat.le_succ n)]

end Lists

lemma recorded_concat (lines : List String) (line : String) :
    recorded (lines ++ [line]) =
      if Text.allBlank line = false ∧ (recorded lines).getLast? ≠ some line
      then recorded lines ++ [line] else recorded lines := by
  rw [recorded, List.filter_append]
  cases hblank : Text.allBlank line with
  | true => simp [hblank, recorded]
  | false =>
    simp only [hblank, List.filter_cons, List.filter_nil, Bool.not_false, if_true, true_and,
      destutter_ne_concat, ite_not, recorded]

lemma mem_of_mem_recorded (h : line ∈ recorded lines) : line ∈ lines :=
  List.mem_of_mem_filter ((List.destutter_sublist _ _).subset h)

/-- What is on record would be recorded as it is, from any line on. -/
lemma recorded_of_suffix (h : entries <:+ recorded lines) : recorded entries = entries := by
  have hfilter : entries.filter (!Text.allBlank ·) = entries := by
    rw [List.filter_eq_self]
    intro line hline
    exact (List.mem_filter.mp ((List.destutter_sublist _ _).subset (h.subset hline))).2
  rw [recorded, hfilter]
  exact List.destutter_of_isChain _ _ ((List.isChain_destutter _ _).suffix h)

/-! ### The latest lines -/

variable {capacity : ℕ}

/-- The history has, of what goes on record of some lines, the latest ones, as many as it keeps. -/
structure Keeps (h : History) (capacity : ℕ) (lines : List String) : Prop where
  capacity_eq : h.capacity = capacity
  capacity_pos : 0 < capacity
  entries_eq : h.entries = (recorded lines).rtake capacity

namespace Keeps

/-- The cursor and the file have no say in it. -/
lemma of_eq {h' : History} (hkeeps : h.Keeps capacity lines) (hentries : h'.entries = h.entries)
    (hcapacity : h'.capacity = h.capacity) : h'.Keeps capacity lines :=
  ⟨hcapacity.trans hkeeps.capacity_eq, hkeeps.capacity_pos, hentries.trans hkeeps.entries_eq⟩

lemma entries_suffix (hkeeps : h.Keeps capacity lines) : h.entries <:+ recorded lines := by
  rw [hkeeps.entries_eq]
  exact List.drop_suffix _ _

lemma length_entries_le (hkeeps : h.Keeps capacity lines) : h.entries.length ≤ capacity := by
  rw [hkeeps.entries_eq]
  exact length_rtake_le _ _

lemma mem_lines (hkeeps : h.Keeps capacity lines) (hline : line ∈ h.entries) : line ∈ lines :=
  mem_of_mem_recorded (hkeeps.entries_suffix.subset hline)

lemma allBlank_eq_false (hkeeps : h.Keeps capacity lines) :
    ∀ line ∈ h.entries, Text.allBlank line = false := by
  intro line hline
  have hmem := (List.destutter_sublist _ _).subset (hkeeps.entries_suffix.subset hline)
  simpa using (List.mem_filter.mp hmem).2

lemma isChain_ne (hkeeps : h.Keeps capacity lines) : h.entries.IsChain (· ≠ ·) :=
  (List.isChain_destutter _ _).suffix hkeeps.entries_suffix

/-- Of its own entries the history has all. -/
lemma entries_anew (hkeeps : h.Keeps capacity lines) : h.Keeps capacity h.entries := by
  refine ⟨hkeeps.capacity_eq, hkeeps.capacity_pos, ?_⟩
  rw [recorded_of_suffix hkeeps.entries_suffix, rtake_of_length_le hkeeps.length_entries_le]

/-- A line goes on record just if it is one more of all the lines that go on record. -/
lemma push (hkeeps : h.Keeps capacity lines) (line : String) :
    (h.push line).Keeps capacity (lines ++ [line]) := by
  obtain ⟨rfl, hpos, hentries⟩ := hkeeps
  have hrecords : h.records line ↔
      Text.allBlank line = false ∧ (recorded lines).getLast? ≠ some line := by
    rw [records, hentries, getLast?_rtake hpos]
    simp
  refine ⟨capacity_push h line, hpos, ?_⟩
  rw [push_eq, recorded_concat]
  by_cases hline : h.records line
  · rw [if_pos hline, if_pos (hrecords.mp hline)]
    dsimp only
    rw [hentries, rtake_rtake_concat]
  · rw [if_neg hline, if_neg (mt hrecords.mpr hline), hentries]

lemma cleared (hkeeps : h.Keeps capacity lines) :
    Keeps { h with entries := [], position := 0 } capacity [] :=
  ⟨hkeeps.capacity_eq, hkeeps.capacity_pos, (List.rtake_nil _).symm⟩

end Keeps

lemma keeps_inMemory (capacity : ℕ) : (inMemory capacity).Keeps (max capacity 1) [] :=
  ⟨rfl, Nat.le_max_right capacity 1, (List.rtake_nil _).symm⟩

/-- A history begins with the latest of what goes on record of the lines it reads. -/
theorem keeps_load (capacity : ℕ) (lines : List String) :
    (load capacity lines).Keeps (max capacity 1) lines := by
  have hfold : (lines.foldl History.push (inMemory capacity)).Keeps (max capacity 1) lines := by
    induction lines using List.reverseRecOn with
    | nil => exact keeps_inMemory capacity
    | append_singleton lines line ih =>
      rw [List.foldl_append, List.foldl_cons, List.foldl_nil]
      exact ih.push line
  exact hfold.of_eq rfl rfl

end LineShell.History
