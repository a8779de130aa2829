import LineShell.Proofs.Binding.Roles
import LineShell.Proofs.Console.Row
import LineShell.Proofs.Line.Marks

/-!
# Texts that stay in one row

A text without line breaks and carriage returns is written into one row of a screen. So are its
words, their values, and the text with quotes around it.
-/

namespace LineShell

/-- All characters of the text stay in the row. -/
def OneRow (text : String) : Prop :=
  ∀ a ∈ text.toList, Screen.StaysInRow a

instance (text : String) : Decidable (OneRow text) :=
  List.decidableBAll Screen.StaysInRow text.toList

lemma oneRow_ofList {cs : List Char} : OneRow (.ofList cs) ↔ ∀ a ∈ cs, Screen.StaysInRow a := by
  rw [OneRow, String.toList_ofList]

/-! ### Quotes -/

lemma mem_of_mem_escapeQuotes {cs : List Char} {a : Char} (h : a ∈ escapeQuotes cs) :
    a = '\\' ∨ a ∈ cs := by
  induction cs with
  | nil => exact .inr h
  | cons c cs ih =>
    rw [escapeQuotes] at h
    split_ifs at h <;> simp only [List.mem_cons] at h ⊢ <;> tauto

namespace OneRow

variable {text : String}

lemma unquote (h : OneRow text) : OneRow (LineShell.unquote text) :=
  oneRow_ofList.mpr fun a ha => h a ((unquoteFrom_sublist false text.toList).mem ha)

lemma quote (h : OneRow text) : OneRow (LineShell.quote text) := by
  rw [LineShell.quote]
  split_ifs
  · rw [oneRow_ofList]
    intro a ha
    simp only [List.mem_cons, List.mem_append, List.not_mem_nil, or_false] at ha
    rcases ha with (rfl | ha) | rfl
    · decide
    · rcases mem_of_mem_escapeQuotes ha with rfl | ha
      · decide
      · exact h a ha
    · decide
  · exact h

end OneRow

/-! ### Words -/

/-- A word has its characters from the line. -/
lemma Cut.mem_of_mem_chars {p : Nat} {cs : List Char} {ws : List Word} (h : Cut p cs ws) :
    ∀ w ∈ ws, ∀ a ∈ w.chars, a ∈ cs := by
  induction h with
  | blank => exact List.forall_mem_nil _
  | last =>
    intro v hv a ha
    rw [List.mem_singleton.mp hv] at ha
    exact List.mem_append_right _ ha
  | word _ _ _ _ _ _ ih =>
    refine List.forall_mem_cons.mpr ⟨fun a ha => ?_, fun v hv a ha => ?_⟩
    · exact List.mem_append_right _ (List.mem_append_left _ ha)
    · exact List.mem_append_right _
        (List.mem_append_right _ (List.mem_cons_of_mem _ (ih v hv a ha)))

lemma OneRow.of_mem_words {text word : String} (h : OneRow text) {caret : Nat}
    (hword : word ∈ (Line.parse text caret).words) : OneRow word := by
  obtain ⟨w, hw, rfl⟩ := List.mem_map.mp hword
  rw [oneRow_ofList]
  intro a ha
  exact h a ((cut_iff_split_eq.mpr rfl).mem_of_mem_chars w hw a ha)

/-- The values of the arguments of a line. -/
lemma OneRow.of_mem_argumentValues {text value : String} (h : OneRow text) {caret : Nat}
    {g : Grammar} {input : Input} {issues : List Issue}
    (hbind : g.bind (.parse text caret) = .bound input issues)
    (hvalue : value ∈ input.argumentValues) : OneRow value := by
  obtain ⟨e, he, rfl⟩ := List.mem_map.mp hvalue
  obtain ⟨name, hname, -, helements, -⟩ := Grammar.bind_eq_bound hbind
  have hmem : e ∈ input.elements := (List.mem_filter.mp he).1
  rw [helements, Grammar.boundElements_eq_mapIdx (Grammar.matchingName?_eq_some hname).2.2] at hmem
  obtain ⟨i, hi, rfl⟩ := List.mem_mapIdx.mp hmem
  exact (h.of_mem_words (List.getElem_mem hi)).unquote

end LineShell
