import Mathlib.Data.List.Basic
import Mathlib.Data.List.Induction
import Mathlib.Order.Defs.Unbundled

/-!
# The first of each kind

Candidates for completion are gathered one after the other, and one that is of the same kind as an
earlier one is left out. What is kept are the first ones of their kinds, in the order in which they
came (`areFirsts_foldl`).
-/

namespace LineShell

variable {α : Type} {r : α → α → Prop} {xs firsts : List α}

/-- Some members of a list are the first ones of their kinds, in order, and every kind has one. -/
structure AreFirsts [BEq α] (r : α → α → Prop) (xs firsts : List α) : Prop where
  exists_before : ∀ x ∈ firsts, ∃ before after, xs = before ++ x :: after ∧ ∀ y ∈ before, ¬ r y x
  exists_first : ∀ y ∈ xs, ∃ x ∈ firsts, r x y
  apart : firsts.Pairwise fun x y => ¬ r x y
  ordered : firsts.Pairwise fun x y => xs.idxOf x < xs.idxOf y

namespace AreFirsts

variable [BEq α]

lemma mem (h : AreFirsts r xs firsts) {x : α} (hx : x ∈ firsts) : x ∈ xs := by
  obtain ⟨before, after, rfl, -⟩ := h.exists_before x hx
  simp

variable [LawfulBEq α]

/-- One more of a kind that was there already. -/
lemma concat_of_known (h : AreFirsts r xs firsts) {x : α} (hx : ∃ y ∈ firsts, r y x) :
    AreFirsts r (xs ++ [x]) firsts where
  exists_before z hz := by
    obtain ⟨before, after, rfl, hbefore⟩ := h.exists_before z hz
    exact ⟨before, after ++ [x], by simp, hbefore⟩
  exists_first y hy := by
    rcases List.mem_append.mp hy with hy | hy
    · exact h.exists_first y hy
    · rwa [List.mem_singleton.mp hy]
  apart := h.apart
  ordered := h.ordered.imp_of_mem fun hy hz hlt => by
    rwa [List.idxOf_append_of_mem (h.mem hy), List.idxOf_append_of_mem (h.mem hz)]

/-- The first one of another kind. -/
lemma concat_of_new [IsTrans α r] [Std.Refl r] (h : AreFirsts r xs firsts) {x : α}
    (hx : ∀ y ∈ firsts, ¬ r y x) : AreFirsts r (xs ++ [x]) (firsts ++ [x]) := by
  have hnew : ∀ y ∈ xs, ¬ r y x := fun y hy hyx => by
    obtain ⟨first, hfirst, hsame⟩ := h.exists_first y hy
    exact hx first hfirst (IsTrans.trans _ _ _ hsame hyx)
  have hnot : x ∉ xs := fun hmem => hnew x hmem (refl x)
  constructor
  · intro z hz
    rcases List.mem_append.mp hz with hz | hz
    · obtain ⟨before, after, rfl, hbefore⟩ := h.exists_before z hz
      exact ⟨before, after ++ [x], by simp, hbefore⟩
    · rw [List.mem_singleton.mp hz]
      exact ⟨xs, [], rfl, hnew⟩
  · intro y hy
    rcases List.mem_append.mp hy with hy | hy
    · obtain ⟨first, hfirst, hsame⟩ := h.exists_first y hy
      exact ⟨first, List.mem_append_left _ hfirst, hsame⟩
    · rw [List.mem_singleton.mp hy]
      exact ⟨x, by simp, refl x⟩
  · rw [List.pairwise_append]
    exact ⟨h.apart, List.pairwise_singleton _ _, by simpa using hx⟩
  · rw [List.pairwise_append]
    refine ⟨h.ordered.imp_of_mem fun hy hz hlt => ?_, List.pairwise_singleton _ _, ?_⟩
    · rwa [List.idxOf_append_of_mem (h.mem hy), List.idxOf_append_of_mem (h.mem hz)]
    · intro y hy z hz
      rw [List.mem_singleton.mp hz, List.idxOf_append_of_mem (h.mem hy),
        List.idxOf_append_of_notMem hnot]
      exact Nat.lt_of_lt_of_le (List.idxOf_lt_length_of_mem (h.mem hy)) (Nat.le_add_right _ _)

end AreFirsts

/-- What is kept of a list that is gone through once, where each member is put to the kept ones
unless they hold one of its kind. -/
lemma areFirsts_foldl [BEq α] [LawfulBEq α] [IsTrans α r] [Std.Refl r]
    {keep : List α → α → List α} (hknown : ∀ kept x, (∃ y ∈ kept, r y x) → keep kept x = kept)
    (hnew : ∀ kept x, (∀ y ∈ kept, ¬ r y x) → keep kept x = kept ++ [x]) (xs : List α) :
    AreFirsts r xs (xs.foldl keep []) := by
  induction xs using List.reverseRecOn with
  | nil => exact ⟨by simp, by simp, .nil, .nil⟩
  | append_singleton xs x ih =>
    rw [List.foldl_concat]
    by_cases hx : ∃ y ∈ xs.foldl keep [], r y x
    · rw [hknown _ x hx]
      exact ih.concat_of_known hx
    · have hx : ∀ y ∈ xs.foldl keep [], ¬ r y x := by simpa using hx
      rw [hnew _ x hx]
      exact ih.concat_of_new hx

end LineShell
