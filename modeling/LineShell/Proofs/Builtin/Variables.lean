import LineShell.Builtin.Variables
import Mathlib.Tactic.Common

/-!
# Looking up variables

To insert a variable and to erase one change the value of one name and leave the other names alone,
and the names stay in order.
-/

namespace LineShell.Variables

variable {vars : Variables} {entries : List (String × String)} {name value n : String}

/-- The names are in order, and each of them is there once. -/
def Ordered (vars : Variables) : Prop :=
  vars.names.Pairwise (· < ·)

lemma lookup_cons_eq_ite (m v n : String) (rest : List (String × String)) :
    ((m, v) :: rest).lookup n = if n = m then some v else rest.lookup n := by
  by_cases hn : n = m
  · simp [hn]
  · rw [List.lookup_cons, beq_eq_false_iff_ne.mpr hn, if_neg hn]

/-! ### Inserting -/

lemma mem_map_insertEntry (h : n ∈ (insertEntry name value entries).map (·.1)) :
    n = name ∨ n ∈ entries.map (·.1) := by
  induction entries with
  | nil => exact .inl (List.mem_singleton.mp h)
  | cons entry rest ih =>
    obtain ⟨m, v⟩ := entry
    rw [insertEntry] at h
    split_ifs at h
    · simpa using h
    · simp only [List.map_cons, List.mem_cons] at h ⊢
      tauto
    · simp only [List.map_cons, List.mem_cons] at h ⊢
      tauto

lemma mem_names_insert (h : n ∈ (vars.insert name value).names) : n = name ∨ n ∈ vars.names :=
  mem_map_insertEntry h

lemma lookup_insertEntry (name value n : String) (entries : List (String × String)) :
    (insertEntry name value entries).lookup n =
      if n = name then some value else entries.lookup n := by
  induction entries with
  | nil => exact lookup_cons_eq_ite name value n []
  | cons entry rest ih =>
    obtain ⟨m, v⟩ := entry
    rw [insertEntry]
    by_cases hlt : name < m
    · rw [if_pos hlt, lookup_cons_eq_ite]
    rw [if_neg hlt]
    by_cases heq : name = m
    · rw [if_pos heq, lookup_cons_eq_ite, lookup_cons_eq_ite, heq]
      split_ifs <;> rfl
    · rw [if_neg heq, lookup_cons_eq_ite, lookup_cons_eq_ite, ih]
      split_ifs with hm hname
      · exact absurd (hname.symm.trans hm) heq
      · rfl
      · rfl
      · rfl

@[simp] lemma get?_insert (vars : Variables) (name value n : String) :
    (vars.insert name value).get? n = if n = name then some value else vars.get? n :=
  lookup_insertEntry name value n vars.entries

lemma pairwise_insertEntry (h : (entries.map (·.1)).Pairwise (· < ·)) :
    ((insertEntry name value entries).map (·.1)).Pairwise (· < ·) := by
  induction entries with
  | nil => exact List.pairwise_singleton _ _
  | cons entry rest ih =>
    obtain ⟨m, v⟩ := entry
    rw [List.map_cons] at h
    obtain ⟨hfirst, hrest⟩ := List.pairwise_cons.mp h
    rw [insertEntry]
    split_ifs with hlt heq
    · refine List.pairwise_cons.mpr ⟨?_, h⟩
      refine List.forall_mem_cons.mpr ⟨hlt, fun k hk => ?_⟩
      exact String.lt_trans hlt (hfirst k hk)
    · rwa [heq]
    · refine List.pairwise_cons.mpr ⟨fun k hk => ?_, ih hrest⟩
      rcases mem_map_insertEntry hk with rfl | hk
      · exact Std.lt_of_le_of_ne (String.not_lt.mp hlt) (Ne.symm heq)
      · exact hfirst k hk

lemma Ordered.insert (h : vars.Ordered) (name value : String) :
    (vars.insert name value).Ordered :=
  pairwise_insertEntry h

/-! ### Erasing -/

lemma names_erase_subset (vars : Variables) (name : String) :
    (vars.erase name).names ⊆ vars.names :=
  List.map_subset _ (List.filter_sublist.subset)

lemma lookup_filter (name n : String) (entries : List (String × String)) :
    (entries.filter (·.1 != name)).lookup n = if n = name then none else entries.lookup n := by
  induction entries with
  | nil => simp
  | cons entry rest ih =>
    obtain ⟨m, v⟩ := entry
    rw [List.filter_cons]
    by_cases hm : m = name
    · rw [if_neg (by simpa using hm), ih, lookup_cons_eq_ite, hm]
      split_ifs <;> rfl
    · rw [if_pos (by simpa using hm), lookup_cons_eq_ite, lookup_cons_eq_ite, ih]
      split_ifs with hn hname
      · exact absurd (hn.symm.trans hname) hm
      · rfl
      · rfl
      · rfl

@[simp] lemma get?_erase (vars : Variables) (name n : String) :
    (vars.erase name).get? n = if n = name then none else vars.get? n :=
  lookup_filter name n vars.entries

lemma Ordered.erase (h : vars.Ordered) (name : String) : (vars.erase name).Ordered :=
  h.sublist (List.filter_sublist.map _)

end LineShell.Variables
