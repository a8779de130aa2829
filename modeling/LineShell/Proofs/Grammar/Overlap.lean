import LineShell.Proofs.Binding.Name
import LineShell.Proofs.Line.Quoted
import Mathlib.Data.List.ProdSigma

/-!
# Names that overlap

Two names overlap where one begins the other. Then, and only then, there is a line that begins with
both of them: the longer one of the names, each of its tokens quoted. So an ambiguity is found
between two grammars just when some line is meant for both of them (`ambiguities_exact`).
-/

namespace LineShell.Grammar

/-- One of two names begins the other one up to case. A name without tokens begins none. -/
def Overlapping (name other : List String) : Prop :=
  name ≠ [] ∧ other ≠ [] ∧ (foldName name <+: foldName other ∨ foldName other <+: foldName name)

instance (name other : List String) : Decidable (Overlapping name other) :=
  inferInstanceAs (Decidable (_ ∧ _ ∧ _))

variable {name other : List String}

lemma ne_nil_of_isPrefix_foldName (hne : name ≠ []) (h : foldName name <+: foldName other) :
    other ≠ [] := by
  rintro rfl
  have hnil : foldName name = [] := List.prefix_nil.mp h
  exact hne (List.map_eq_nil_iff.mp hnil)

lemma overlap_iff : overlap name other ↔ Overlapping name other := by
  rw [overlap, Bool.or_eq_true, beginsName_iff, beginsName_iff, Overlapping]
  constructor
  · rintro (⟨hne, h⟩ | ⟨hne, h⟩)
    · exact ⟨hne, ne_nil_of_isPrefix_foldName hne h, .inl h⟩
    · exact ⟨ne_nil_of_isPrefix_foldName hne h, hne, .inr h⟩
  · rintro ⟨hname, hother, h | h⟩
    · exact .inl ⟨hname, h⟩
    · exact .inr ⟨hother, h⟩

/-! ### Lines that begin with both names -/

/-- Names that the same words begin with overlap. -/
lemma Begins.overlapping {words : List String} (h : Begins name words) (h' : Begins other words) :
    Overlapping name other := by
  refine ⟨h.1, h'.1, ?_⟩
  exact List.prefix_or_prefix_of_prefix h.2 h'.2

lemma begins_map_quote (hne : name ≠ []) (h : foldName name <+: foldName other) :
    Begins name (other.map quote) := by
  refine ⟨hne, ?_⟩
  rw [foldWords_map_quote]
  exact h

/-- The line that consists of a name, each token quoted. -/
def nameLine (name : List String) : String :=
  " ".intercalate (name.map quote)

lemma words_parse_nameLine (name : List String) (caret : Nat) :
    (Line.parse (nameLine name) caret).words = name.map quote := by
  apply Line.words_parse_intercalate
  exact List.forall_mem_map.mpr fun token _ => standsAlone_quote token

/-- The longer one of two overlapping names, taken as a line, begins with both. -/
lemma Overlapping.exists_line (h : Overlapping name other) :
    ∃ text, ∀ caret, Begins name (Line.parse text caret).words ∧
      Begins other (Line.parse text caret).words := by
  obtain ⟨hname, hother, h | h⟩ := h
  · refine ⟨nameLine other, fun caret => ?_⟩
    rw [words_parse_nameLine]
    exact ⟨begins_map_quote hname h, begins_map_quote hother (List.prefix_refl _)⟩
  · refine ⟨nameLine name, fun caret => ?_⟩
    rw [words_parse_nameLine]
    exact ⟨begins_map_quote hname (List.prefix_refl _), begins_map_quote hother h⟩

/-! ### What is reported -/

lemma ambiguities_eq_flatMap (registered : List Grammar) (b : Grammar) :
    ambiguities registered b = registered.flatMap fun a => ambiguities [a] b := by
  simp [ambiguities]

lemma ambiguities_singleton (a b : Grammar) :
    ambiguities [a] b =
      ((a.names ×ˢ b.names).filter fun p => Overlapping p.2 p.1).map fun p =>
        .ambiguousName (" ".intercalate p.2) (" ".intercalate p.1) := by
  have hdecide : ∀ other, (overlap · other) = fun name => decide (Overlapping name other) := by
    intro other
    funext name
    rw [Bool.eq_iff_iff, overlap_iff, decide_eq_true_eq]
  simp only [ambiguities, List.flatMap_singleton, SProd.sprod, List.product, List.filter_flatMap,
    List.map_flatMap, List.filter_map, List.map_map, hdecide]
  rfl

lemma ambiguities_ne_nil_iff {a b : Grammar} :
    ambiguities [a] b ≠ [] ↔ ∃ other ∈ a.names, ∃ name ∈ b.names, Overlapping name other := by
  rw [ambiguities_singleton, ne_eq, List.map_eq_nil_iff, List.filter_eq_nil_iff]
  simp only [List.mem_product, decide_eq_true_eq, Prod.forall]
  push Not
  constructor
  · rintro ⟨other, name, ⟨hother, hname⟩, h⟩
    exact ⟨other, hother, name, hname, h⟩
  · rintro ⟨other, hother, name, hname, h⟩
    exact ⟨other, name, ⟨hother, hname⟩, h⟩

lemma not_isMismatch_bind_iff {g : Grammar} {line : Line} :
    (g.bind line).isMismatch = false ↔ ∃ name ∈ g.names, Begins name line.words := by
  rw [← Bool.not_eq_true, isMismatch_bind_iff]
  push Not
  rfl

/-- A blank line is meant for no command. -/
lemma isMismatch_bind_of_allBlank {text : String} (h : Text.allBlank text) (g : Grammar)
    (caret : Nat) : (g.bind (.parse text caret)).isMismatch := by
  apply isMismatch_bind_of_words_eq_nil
  show (Word.split text.toList).map _ = []
  rw [Word.split_of_blank (List.all_eq_true.mp h), List.map_nil]

/-- A line that is meant for two commands makes their grammars ambiguous. -/
lemma ambiguities_ne_nil_of_bind {a b : Grammar} {line : Line}
    (ha : (a.bind line).isMismatch = false) (hb : (b.bind line).isMismatch = false) :
    ambiguities [a] b ≠ [] := by
  obtain ⟨other, hother, hbegins⟩ := not_isMismatch_bind_iff.mp ha
  obtain ⟨name, hname, hbegins'⟩ := not_isMismatch_bind_iff.mp hb
  exact ambiguities_ne_nil_iff.mpr ⟨other, hother, name, hname, hbegins'.overlapping hbegins⟩

lemma exists_line_of_ambiguities_ne_nil {a b : Grammar} (h : ambiguities [a] b ≠ []) :
    ∃ text, ∀ caret, (a.bind (Line.parse text caret)).isMismatch = false ∧
      (b.bind (Line.parse text caret)).isMismatch = false := by
  obtain ⟨other, hother, name, hname, hoverlap⟩ := ambiguities_ne_nil_iff.mp h
  obtain ⟨text, htext⟩ := hoverlap.exists_line
  refine ⟨text, fun caret => ?_⟩
  obtain ⟨hbegins, hbegins'⟩ := htext caret
  exact ⟨not_isMismatch_bind_iff.mpr ⟨other, hother, hbegins'⟩,
    not_isMismatch_bind_iff.mpr ⟨name, hname, hbegins⟩⟩

/-- Two grammars are ambiguous just when some line is meant for both of them, wherever its caret is.
The ambiguities among several grammars are those with each of them, one for each pair of names that
overlap. -/
theorem ambiguities_exact (registered : List Grammar) (a b : Grammar) :
    (ambiguities [a] b ≠ [] ↔ ∃ text, ∀ caret,
      (a.bind (Line.parse text caret)).isMismatch = false ∧
        (b.bind (Line.parse text caret)).isMismatch = false) ∧
    (ambiguities [a] b ≠ [] ↔ ∃ text caret,
      (a.bind (Line.parse text caret)).isMismatch = false ∧
        (b.bind (Line.parse text caret)).isMismatch = false) ∧
    ambiguities registered b = registered.flatMap (fun a => ambiguities [a] b) ∧
    ambiguities [a] b =
      ((a.names ×ˢ b.names).filter fun p => Overlapping p.2 p.1).map fun p =>
        .ambiguousName (" ".intercalate p.2) (" ".intercalate p.1) := by
  refine ⟨⟨exists_line_of_ambiguities_ne_nil, ?_⟩, ⟨?_, ?_⟩, ambiguities_eq_flatMap registered b,
    ambiguities_singleton a b⟩
  · rintro ⟨text, h⟩
    exact ambiguities_ne_nil_of_bind (h 0).1 (h 0).2
  · intro h
    obtain ⟨text, htext⟩ := exists_line_of_ambiguities_ne_nil h
    exact ⟨text, 0, htext 0⟩
  · rintro ⟨text, caret, ha, hb⟩
    exact ambiguities_ne_nil_of_bind ha hb

end LineShell.Grammar
