import LineShell.Proofs.Shell.Firsts
import LineShell.Shell.Completion
import Mathlib.Data.List.Nodup

/-!
# Merging what commands offer

What all commands offer at a caret is merged into one list: of texts that are the same up to case
the first one is kept, and the others are put in the order of their lower case, those with the same
lower case in the order in which they came (`Shell.suggestions_merge`). The two maps are not the
same, so there are texts of different kinds with the same lower case.
-/

namespace LineShell

open Text

variable {S : Signature}

/-- The texts are the same up to case. -/
def SameFold (a b : String) : Prop :=
  foldCase a = foldCase b

instance : IsTrans String SameFold := ⟨fun _ _ _ h h' => h.trans h'⟩

instance : Std.Refl SameFold := ⟨fun _ => rfl⟩

/-- What is left of some texts are the first ones up to case. -/
lemma areFirsts_distinctIgnoringCase (texts : List String) :
    AreFirsts SameFold texts (distinctIgnoringCase texts) := by
  refine areFirsts_foldl (fun kept text h => if_pos ?_) (fun kept text h => if_neg ?_) texts
  · simpa [SameFold] using h
  · simpa [SameFold] using h

/-- Of two members of a list, one comes first. -/
lemma pair_sublist_or {xs : List String} {a b : String} (ha : a ∈ xs) (hb : b ∈ xs)
    (hne : a ≠ b) : [a, b].Sublist xs ∨ [b, a].Sublist xs := by
  obtain ⟨before, after, rfl⟩ := List.append_of_mem ha
  rcases List.mem_append.mp hb with hb | hb
  · exact .inr ((List.singleton_sublist.mpr hb).append (by simp))
  · have hb : b ∈ after := (List.mem_cons.mp hb).resolve_left hne.symm
    exact .inl (((List.singleton_sublist.mpr hb).cons_cons a).trans (List.sublist_append_right _ _))

/-- Where no member occurs twice, the one that comes first has the smaller index. -/
lemma idxOf_lt_of_sublist {xs : List String} (hxs : xs.Nodup) {a b : String}
    (h : [a, b].Sublist xs) : xs.idxOf a < xs.idxOf b := by
  obtain ⟨before, after, rfl, ha, hb⟩ := List.cons_sublist_iff.mp h
  have hb : b ∈ after := List.singleton_sublist.mp hb
  have hnot : b ∉ before := fun hmem => List.disjoint_of_nodup_append hxs hmem hb
  rw [List.idxOf_append_of_mem ha, List.idxOf_append_of_notMem hnot]
  exact Nat.lt_of_lt_of_le (List.idxOf_lt_length_of_mem ha) (Nat.le_add_right _ _)

/-- Two members of a list that is sorted by a key have the smaller key first, and with the same key
they stand as in the list before it was sorted. -/
lemma mergeSort_stable {xs : List String} (hxs : xs.Nodup) {key : String → String} {a b : String}
    (h : [a, b].Sublist (xs.mergeSort fun a b => decide (key a ≤ key b))) :
    key a < key b ∨ key a = key b ∧ [a, b].Sublist xs := by
  have htrans : ∀ a b c : String, decide (key a ≤ key b) → decide (key b ≤ key c) →
      decide (key a ≤ key c) := by
    intro a b c hab hbc
    exact decide_eq_true (String.le_trans (of_decide_eq_true hab) (of_decide_eq_true hbc))
  have htotal : ∀ a b : String, decide (key a ≤ key b) || decide (key b ≤ key a) := by
    intro a b
    simpa using String.le_total (key a) (key b)
  have hsorted := List.pairwise_mergeSort htrans htotal xs
  have hle : key a ≤ key b := by
    simpa using List.pairwise_iff_forall_sublist.mp hsorted h
  refine (Std.le_iff_lt_or_eq.mp hle).imp_right fun heq => ⟨heq, ?_⟩
  have hnodup := (List.mergeSort_perm xs fun a b => decide (key a ≤ key b)).nodup_iff.mpr hxs
  have hne : a ≠ b := by simpa using hnodup.sublist h
  have ha : a ∈ xs := List.mem_mergeSort.mp (h.subset (by simp))
  have hb : b ∈ xs := List.mem_mergeSort.mp (h.subset (by simp))
  refine (pair_sublist_or ha hb hne).resolve_right fun hba => ?_
  -- the sort would have left them in the other order
  have hsorted' := List.pair_sublist_mergeSort htrans htotal (decide_eq_true (heq ▸ hle)) hba
  exact Nat.lt_asymm (idxOf_lt_of_sublist hnodup h) (idxOf_lt_of_sublist hnodup hsorted')

namespace Shell

/-- Each text that a shell offers for completion is the first one, up to case, of what all commands
offer in the order of their registration. No other one is the same up to case, and everything that
a command offers is the same up to case as one of them. They stand in the order of their lower case;
where that is the same, the one that came first stands first. -/
theorem suggestions_merge (app : Application S) (shell : Shell S) (line : Line) :
    let all := shell.commands.flatMap fun command => (app.command command).suggest shell line
    let merged := shell.suggestions app line
    merged.Pairwise (fun a b => ¬ eqIgnoringCase a b) ∧
      (∀ a ∈ merged, all.find? (eqIgnoringCase · a) = some a) ∧
      (∀ b ∈ all, ∃ a ∈ merged, eqIgnoringCase a b) ∧
      merged.Pairwise fun a b => lowerText a < lowerText b ∨
        lowerText a = lowerText b ∧ all.idxOf a < all.idxOf b := by
  intro all merged
  have hfirsts := areFirsts_distinctIgnoringCase all
  have hmem : ∀ a, a ∈ merged ↔ a ∈ distinctIgnoringCase all := fun a => List.mem_mergeSort
  have hperm : merged.Perm (distinctIgnoringCase all) := List.mergeSort_perm _ _
  refine ⟨?_, fun a ha => ?_, fun b hb => ?_, ?_⟩
  · have hsymm : ∀ {a b : String}, ¬ SameFold a b → ¬ SameFold b a := fun h h' => h h'.symm
    refine (hperm.symm.pairwise hfirsts.apart hsymm).imp fun h => ?_
    simpa [SameFold] using h
  · obtain ⟨before, after, hall, hbefore⟩ := hfirsts.exists_before a ((hmem a).mp ha)
    refine List.find?_eq_some_iff_append.mpr ⟨by simp, before, after, hall, fun b hb => ?_⟩
    simpa [SameFold, Bool.eq_false_iff] using hbefore b hb
  · obtain ⟨a, ha, hsame⟩ := hfirsts.exists_first b hb
    exact ⟨a, (hmem a).mpr ha, eqIgnoringCase_iff.mpr hsame⟩
  · have hnodup : (distinctIgnoringCase all).Nodup :=
      hfirsts.ordered.imp fun hlt heq => by simp [heq] at hlt
    refine List.pairwise_iff_forall_sublist.mpr fun h => ?_
    refine (mergeSort_stable hnodup h).imp_right fun ⟨heq, hfirst⟩ => ⟨heq, ?_⟩
    exact List.pairwise_iff_forall_sublist.mp hfirsts.ordered hfirst

/-- A capital sigma is another letter than a final one, up to case, but has the same lower case at
the end of a word. -/
example : distinctIgnoringCase ["set", "ΑΣ", "SET", "ας"] = ["set", "ΑΣ", "ας"] ∧
    lowerText "ΑΣ" = lowerText "ας" := by decide +kernel

end Shell

end LineShell
