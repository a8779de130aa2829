import LineShell.Cancellation.BreakScope
import Mathlib.Data.List.TakeDrop
import Mathlib.Tactic.Common

/-!
# Tokens of which none is cancelled

As long as nobody cancels, making, holding, deriving and releasing tokens leaves all of them
uncancelled, and so does opening and closing break scopes.
-/

namespace LineShell

namespace Tokens

/-- No token is cancelled. -/
def Quiet (ts : Tokens) : Prop :=
  ∀ s ∈ ts.states, s.cancelled = false

variable {ts : Tokens}

lemma quiet_empty : ({} : Tokens).Quiet :=
  List.forall_mem_nil _

lemma Quiet.isCancelled (h : ts.Quiet) (t : Token) : ts.isCancelled t = false := by
  rw [Tokens.isCancelled, find?]
  cases hfind : ts.states.find? (·.number == t) with
  | none => rfl
  | some s => exact h s (List.mem_of_find?_eq_some hfind)

lemma Quiet.create (h : ts.Quiet) (keeper : Option Token) : (ts.create keeper).2.Quiet :=
  List.forall_mem_cons.mpr ⟨rfl, h⟩

lemma cancelled_of_mem_update {t : Token} {f : TokenState → TokenState}
    (hf : ∀ s, (f s).cancelled = s.cancelled) {states : List TokenState}
    (h : ∀ s ∈ states, s.cancelled = false) : ∀ s ∈ update t f states, s.cancelled = false := by
  induction states with
  | nil => exact List.forall_mem_nil _
  | cons s older ih =>
    obtain ⟨hs, holder⟩ := List.forall_mem_cons.mp h
    rw [update]
    split_ifs
    · exact List.forall_mem_cons.mpr ⟨(hf s).trans hs, holder⟩
    · exact List.forall_mem_cons.mpr ⟨hs, ih holder⟩

lemma Quiet.hold (h : ts.Quiet) (t : Token) : (ts.hold t).Quiet := by
  apply cancelled_of_mem_update _ h
  intro s
  rfl

lemma Quiet.release (h : ts.Quiet) (t : Token) : (ts.release t).Quiet := by
  apply cancelled_of_mem_update _ h
  intro s
  rfl

lemma cancelled_of_mem_letGo {keepers needed : List Token} {states : List TokenState}
    (h : ∀ s ∈ states, s.cancelled = false) :
    ∀ s ∈ letGo keepers needed states, s.cancelled = false := by
  induction states generalizing needed with
  | nil => exact List.forall_mem_nil _
  | cons s older ih =>
    obtain ⟨hs, holder⟩ := List.forall_mem_cons.mp h
    rw [letGo]
    split
    · exact List.forall_mem_cons.mpr ⟨hs, ih holder⟩
    · split_ifs
      · exact List.forall_mem_cons.mpr ⟨hs, ih holder⟩
      · exact List.forall_mem_cons.mpr ⟨hs, ih holder⟩

lemma Quiet.prune (h : ts.Quiet) (t : Token) : (ts.prune t).Quiet := by
  rw [Tokens.prune, List.span_eq_takeWhile_dropWhile]
  have hnewer : ∀ s ∈ ts.states.takeWhile (t < ·.number), s.cancelled = false :=
    fun s hs => h s (List.takeWhile_subset _ hs)
  have holder : ∀ s ∈ ts.states.dropWhile (t < ·.number), s.cancelled = false :=
    fun s hs => h s ((List.dropWhile_sublist _).subset hs)
  exact List.forall_mem_append.mpr ⟨cancelled_of_mem_letGo hnewer, holder⟩

lemma Quiet.derive (h : ts.Quiet) (t : Token) : (ts.derive t).2.Quiet := by
  have hcreated := (h.prune t).create (some t)
  rw [Tokens.derive]
  dsimp only
  rw [if_neg (Bool.eq_false_iff.mp (hcreated.isCancelled t))]
  exact hcreated

end Tokens

namespace BreakScope

variable {b : BreakScope}

lemma quiet_vacate (h : b.tokens.Quiet) : b.vacate.tokens.Quiet := by
  rw [vacate]
  split
  · exact h
  · exact h.release _

lemma quiet_start (h : b.tokens.Quiet) : b.start.2.tokens.Quiet :=
  ((quiet_vacate h).create none).hold _

lemma quiet_close (h : b.tokens.Quiet) (t : Token) : (b.close t).tokens.Quiet := by
  rw [close]
  dsimp only
  split_ifs
  · exact (quiet_vacate h).release t
  · exact h.release t

end BreakScope

end LineShell
