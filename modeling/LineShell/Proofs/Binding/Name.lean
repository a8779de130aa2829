import LineShell.Grammar.Problem
import LineShell.Proofs.Binding.Read

/-!
# Names at the beginning of a line

Names and words are compared token by token and up to case. Where the characters of both are folded
first, a name stands at the beginning of some words just when it is a prefix of them (`Begins`).
-/

namespace LineShell.Grammar

/-- The tokens of a name up to case. -/
def foldName (name : List String) : List (List Char) :=
  name.map Text.foldCase

/-- The values of words up to case. -/
def foldWords (words : List String) : List (List Char) :=
  words.map fun word => Text.foldCase (unquote word)

/-- A name with tokens stands at the beginning of some words. -/
def Begins (name words : List String) : Prop :=
  name ≠ [] ∧ foldName name <+: foldWords words

instance (name words : List String) : Decidable (Begins name words) :=
  inferInstanceAs (Decidable (_ ∧ _))

lemma foldWords_map_quote (name : List String) : foldWords (name.map quote) = foldName name := by
  simp [foldWords, foldName, unquote_quote]

/-- Two lists agree as far as the first one goes just when it is a prefix, seen through maps. -/
lemma zip_agrees_iff_prefix {α β γ : Type} {f : α → γ} {h : β → γ} {xs : List α} {ys : List β} :
    (xs.length ≤ ys.length ∧ ∀ p ∈ xs.zip ys, f p.1 = h p.2) ↔ xs.map f <+: ys.map h := by
  induction xs generalizing ys with
  | nil => simp
  | cons x xs ih =>
    cases ys with
    | nil => simp
    | cons y ys =>
      rw [List.map_cons, List.map_cons, List.cons_prefix_cons, ← ih]
      simp only [List.length_cons, List.zip_cons_cons, List.forall_mem_cons]
      constructor
      · rintro ⟨hle, hxy, hrest⟩
        exact ⟨hxy, by omega, hrest⟩
      · rintro ⟨hxy, hle, hrest⟩
        exact ⟨by omega, hxy, hrest⟩

lemma nameMatches_iff_begins {words name : List String} :
    nameMatches words name ↔ Begins name words := by
  rw [nameMatches_iff, Begins, foldName, foldWords, ← zip_agrees_iff_prefix]
  simp only [Text.eqIgnoringCase_iff]

lemma beginsName_iff {name other : List String} :
    beginsName name other ↔ name ≠ [] ∧ foldName name <+: foldName other := by
  rw [foldName, foldName, ← zip_agrees_iff_prefix]
  simp [beginsName, and_assoc]

variable {g : Grammar} {line : Line}

lemma matchingName?_eq_none_iff :
    g.matchingName? line = none ↔ ∀ name ∈ g.names, ¬ Begins name line.words := by
  simp only [matchingName?, List.find?_eq_none, nameMatches_iff_begins]

lemma bind_of_matchingName?_eq_none (h : g.matchingName? line = none) :
    g.bind line = .mismatch g.displayName := by
  rw [bind, h]

lemma isMismatch_bind : (g.bind line).isMismatch = (g.matchingName? line).isNone := by
  cases h : g.matchingName? line with
  | none => rw [bind_of_matchingName?_eq_none h]; rfl
  | some name => rw [bind_of_matchingName? h]; rfl

/-- A line is meant for another command just when it begins with no name of this one. -/
lemma isMismatch_bind_iff :
    (g.bind line).isMismatch ↔ ∀ name ∈ g.names, ¬ Begins name line.words := by
  rw [isMismatch_bind, Option.isNone_iff_eq_none, matchingName?_eq_none_iff]

/-- A line without words is meant for no command. -/
lemma isMismatch_bind_of_words_eq_nil (h : line.words = []) : (g.bind line).isMismatch := by
  rw [isMismatch_bind_iff, h]
  rintro name - ⟨hne, hprefix⟩
  exact hne (List.map_eq_nil_iff.mp (List.prefix_nil.mp hprefix))

end LineShell.Grammar
