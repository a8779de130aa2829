import LineShell.Proofs.Editor.Reach
import Mathlib.Data.List.TakeWhile
import Mathlib.Order.Bounds.Basic

/-!
# Word movement

A boundary is an end of the line or a position with a word character on one side and another
character on the other. Word movement goes to the nearest boundary on its side
(`Editor.isLeast_nextBoundary`, `Editor.isGreatest_previousBoundary`), so from a boundary there and
back is nowhere (`Terminal.wordMoves_visit_boundaries`). To go back is to go forward in the mirrored
line, so only the one direction is looked into.
-/

namespace LineShell

namespace Editor

/-- An end of the line, or a position between a word character and another character. -/
inductive IsBoundary (e : Editor) : Nat → Prop
  | start : e.IsBoundary 0
  | stop : e.IsBoundary e.buffer.length
  | between {i : Nat} {c d : Char} (hc : e.buffer[i]? = some c) (hd : e.buffer[i + 1]? = some d)
    (hclass : e.isWordChar c ≠ e.isWordChar d) : e.IsBoundary (i + 1)

variable {e : Editor}

lemma IsBoundary.le_length {i : Nat} (h : e.IsBoundary i) : i ≤ e.buffer.length := by
  cases h with
  | start => exact Nat.zero_le _
  | stop => exact Nat.le_refl _
  | between _ hd _ => exact Nat.le_of_lt (List.getElem?_eq_some_iff.mp hd).1

/-! ### Runs -/

lemma runLength_le (e : Editor) (cs : List Char) : e.runLength cs ≤ cs.length := by
  cases cs with
  | nil => exact Nat.le_refl _
  | cons c cs => exact Nat.succ_le_succ (List.takeWhile_prefix _).length_le

/-- The characters of a run are of one class. -/
lemma isWordChar_of_lt_runLength {c d : Char} {cs : List Char} {i : Nat}
    (hi : i < e.runLength (c :: cs)) (hget : (c :: cs)[i]? = some d) :
    e.isWordChar d = e.isWordChar c := by
  cases i with
  | zero => rw [Option.some.inj hget]
  | succ i =>
    let same : Char → Bool := fun d => e.isWordChar d == e.isWordChar c
    have hlt : i < (cs.takeWhile same).length := Nat.lt_of_succ_lt_succ hi
    have hrun : (cs.takeWhile same)[i]? = some d := by
      rw [List.getElem?_cons_succ] at hget
      rw [← hget, ← List.getElem?_append_left hlt, List.takeWhile_append_dropWhile]
    have hsame : same d = true := List.mem_takeWhile_imp (List.mem_of_getElem? hrun)
    exact beq_iff_eq.mp hsame

/-- The character after a run is of the other class. -/
lemma isWordChar_runLength_ne {c d : Char} {cs : List Char}
    (hget : (c :: cs)[e.runLength (c :: cs)]? = some d) : e.isWordChar d ≠ e.isWordChar c := by
  let same : Char → Bool := fun d => e.isWordChar d == e.isWordChar c
  have hrest : (cs.takeWhile same ++ cs.dropWhile same)[(cs.takeWhile same).length]? = some d := by
    rw [List.takeWhile_append_dropWhile]
    exact hget
  rw [List.getElem?_append_right (Nat.le_refl _), Nat.sub_self, ← List.head?_eq_getElem?] at hrest
  have hother := List.head?_dropWhile_not same cs
  rw [hrest] at hother
  exact beq_eq_false_iff_ne.mp hother

/-! ### The next boundary -/

section Next

variable {i : Nat} {c d : Char}

lemma nextBoundary_le (h : e.caret ≤ e.buffer.length) : e.nextBoundary ≤ e.buffer.length := by
  have hle := e.runLength_le (e.buffer.drop e.caret)
  rw [List.length_drop] at hle
  rw [nextBoundary]
  omega

lemma drop_caret (hc : e.buffer[e.caret]? = some c) :
    e.buffer.drop e.caret = c :: e.buffer.drop (e.caret + 1) := by
  obtain ⟨hlt, hget⟩ := List.getElem?_eq_some_iff.mp hc
  rw [List.drop_eq_getElem_cons hlt, hget]

lemma caret_lt_nextBoundary (hc : e.buffer[e.caret]? = some c) : e.caret < e.nextBoundary := by
  rw [nextBoundary, drop_caret hc]
  exact Nat.lt_add_of_pos_right (Nat.succ_pos _)

/-- From the caret to the next boundary the characters are of one class. -/
lemma isWordChar_of_lt_nextBoundary (hc : e.buffer[e.caret]? = some c) (hcaret : e.caret ≤ i)
    (hi : i < e.nextBoundary) (hd : e.buffer[i]? = some d) : e.isWordChar d = e.isWordChar c := by
  rw [nextBoundary, drop_caret hc] at hi
  rw [← Nat.add_sub_cancel' hcaret, ← List.getElem?_drop, drop_caret hc] at hd
  exact isWordChar_of_lt_runLength (by omega) hd

lemma isWordChar_nextBoundary_ne (hc : e.buffer[e.caret]? = some c)
    (hd : e.buffer[e.nextBoundary]? = some d) : e.isWordChar d ≠ e.isWordChar c := by
  rw [nextBoundary, ← List.getElem?_drop, drop_caret hc] at hd
  exact isWordChar_runLength_ne hd

/-- To the right of the caret, where the run from it on ends is the nearest boundary. -/
theorem isLeast_nextBoundary (h : e.caret < e.buffer.length) :
    IsLeast {i | e.IsBoundary i ∧ e.caret < i} e.nextBoundary := by
  have hc := List.getElem?_eq_getElem h
  have hlt := caret_lt_nextBoundary hc
  have hle := nextBoundary_le (Nat.le_of_lt h)
  constructor
  · refine ⟨?_, hlt⟩
    by_cases hend : e.nextBoundary = e.buffer.length
    · rw [hend]
      exact .stop
    · obtain ⟨n, hn⟩ : ∃ n, e.nextBoundary = n + 1 := ⟨e.nextBoundary - 1, by omega⟩
      obtain ⟨a, hlast⟩ : ∃ a, e.buffer[n]? = some a := ⟨_, List.getElem?_eq_getElem (by omega)⟩
      obtain ⟨b, hnext⟩ : ∃ b, e.buffer[n + 1]? = some b :=
        ⟨_, List.getElem?_eq_getElem (by omega)⟩
      have hsame := isWordChar_of_lt_nextBoundary hc (by omega) (by omega) hlast
      have hother := isWordChar_nextBoundary_ne hc (hn ▸ hnext)
      rw [hn]
      exact .between hlast hnext fun heq => hother (heq.symm.trans hsame)
  · rintro i ⟨hboundary, hcaret⟩
    by_contra hbefore
    cases hboundary with
    | start => omega
    | stop => omega
    | between hleft hright hclass =>
      have hsame := isWordChar_of_lt_nextBoundary hc (by omega) (by omega) hleft
      have hsame' := isWordChar_of_lt_nextBoundary hc (by omega) (by omega) hright
      exact hclass (hsame.trans hsame'.symm)

end Next

/-! ### The mirrored line -/

/-- The line from its other end, with the caret between the same characters. -/
def mirrored (e : Editor) : Editor :=
  { e with buffer := e.buffer.reverse, caret := e.buffer.length - e.caret }

lemma length_mirrored (e : Editor) : e.mirrored.buffer.length = e.buffer.length :=
  List.length_reverse

lemma mirrored_mirrored (h : e.caret ≤ e.buffer.length) : e.mirrored.mirrored = e := by
  rw [mirrored, length_mirrored, mirrored]
  dsimp only
  rw [List.reverse_reverse, Nat.sub_sub_self h]

lemma IsBoundary.of_mirrored {i : Nat} (h : e.mirrored.IsBoundary i) :
    e.IsBoundary (e.buffer.length - i) := by
  cases h with
  | start => exact .stop
  | stop =>
    rw [length_mirrored, Nat.sub_self]
    exact .start
  | @between i c d hc hd hclass =>
    have hlt := (List.getElem?_eq_some_iff.mp hd).1
    rw [length_mirrored] at hlt
    rw [mirrored, List.getElem?_reverse (by omega)] at hc
    rw [mirrored, List.getElem?_reverse (by omega)] at hd
    have hposition : e.buffer.length - (i + 1) = e.buffer.length - 1 - (i + 1) + 1 := by omega
    have hnext : e.buffer.length - 1 - i = e.buffer.length - 1 - (i + 1) + 1 := by omega
    rw [hposition]
    exact .between hd (hnext ▸ hc) hclass.symm

lemma IsBoundary.mirrored {i : Nat} (h : e.IsBoundary i) (hcaret : e.caret ≤ e.buffer.length) :
    e.mirrored.IsBoundary (e.buffer.length - i) := by
  rw [← mirrored_mirrored hcaret] at h
  exact length_mirrored e ▸ h.of_mirrored

lemma previousBoundary_le (e : Editor) : e.previousBoundary ≤ e.caret :=
  Nat.sub_le _ _

lemma nextBoundary_mirrored (h : e.caret ≤ e.buffer.length) :
    e.mirrored.nextBoundary = e.buffer.length - e.previousBoundary := by
  have hle := e.runLength_le (e.buffer.take e.caret).reverse
  rw [List.length_reverse, List.length_take, Nat.min_eq_left h] at hle
  have hrun : ∀ cs, e.mirrored.runLength cs = e.runLength cs := by
    intro cs
    cases cs <;> rfl
  rw [nextBoundary, hrun, mirrored]
  dsimp only
  rw [List.drop_reverse, Nat.sub_sub_self h, previousBoundary]
  omega

/-- To the left of the caret, where the run before it begins is the nearest boundary. -/
theorem isGreatest_previousBoundary (h : e.caret ≤ e.buffer.length) (hcaret : 0 < e.caret) :
    IsGreatest {i | e.IsBoundary i ∧ i < e.caret} e.previousBoundary := by
  have hlt : e.mirrored.caret < e.mirrored.buffer.length := by
    rw [length_mirrored, mirrored]
    dsimp only
    omega
  have hprevious := e.previousBoundary_le
  obtain ⟨⟨hboundary, hnext⟩, hleast⟩ := isLeast_nextBoundary hlt
  rw [nextBoundary_mirrored h] at hboundary hnext hleast
  constructor
  · have hback := hboundary.of_mirrored
    rw [Nat.sub_sub_self (hprevious.trans h)] at hback
    refine ⟨hback, ?_⟩
    rw [mirrored] at hnext
    dsimp only at hnext
    omega
  · rintro i ⟨hi, hbefore⟩
    have hbehind : e.mirrored.caret < e.buffer.length - i := by
      rw [mirrored]
      dsimp only
      omega
    have hnearest := hleast ⟨hi.mirrored h, hbehind⟩
    omega

/-! ### There and back -/

/-- What is a boundary does not depend on the caret. -/
lemma isBoundary_withCaret {position i : Nat} :
    (e.withCaret position).IsBoundary i ↔ e.IsBoundary i := by
  constructor <;> intro h <;> cases h with
  | start => exact .start
  | stop => exact .stop
  | between hc hd hclass => exact .between hc hd hclass

lemma caret_withCaret {position : Nat} (h : position ≤ e.buffer.length) :
    (e.withCaret position).caret = position :=
  Nat.min_eq_left h

/-- From a boundary to the next one and back. -/
lemma previousBoundary_withCaret_nextBoundary (h : e.caret < e.buffer.length)
    (hcaret : e.IsBoundary e.caret) :
    (e.withCaret e.nextBoundary).previousBoundary = e.caret := by
  obtain ⟨⟨hnext, hlt⟩, hleast⟩ := isLeast_nextBoundary h
  have hthere := caret_withCaret hnext.le_length
  have hback : IsGreatest {i | (e.withCaret e.nextBoundary).IsBoundary i ∧
      i < (e.withCaret e.nextBoundary).caret} (e.withCaret e.nextBoundary).previousBoundary :=
    isGreatest_previousBoundary (hthere.trans_le hnext.le_length)
      (hthere.symm ▸ Nat.zero_lt_of_lt hlt)
  simp only [isBoundary_withCaret, hthere] at hback
  refine hback.unique ⟨⟨hcaret, hlt⟩, ?_⟩
  rintro i ⟨hi, hbefore⟩
  by_contra hbehind
  exact absurd (hleast ⟨hi, Nat.lt_of_not_le hbehind⟩) (Nat.not_le_of_lt hbefore)

/-- From a boundary to the one before it and back. -/
lemma nextBoundary_withCaret_previousBoundary (h : e.caret ≤ e.buffer.length) (hpos : 0 < e.caret)
    (hcaret : e.IsBoundary e.caret) :
    (e.withCaret e.previousBoundary).nextBoundary = e.caret := by
  obtain ⟨⟨hprevious, hlt⟩, hgreatest⟩ := isGreatest_previousBoundary h hpos
  have hthere := caret_withCaret hprevious.le_length
  have hback : IsLeast {i | (e.withCaret e.previousBoundary).IsBoundary i ∧
      (e.withCaret e.previousBoundary).caret < i} (e.withCaret e.previousBoundary).nextBoundary :=
    isLeast_nextBoundary (hthere.symm ▸ hlt.trans_le h)
  simp only [isBoundary_withCaret, hthere] at hback
  refine hback.unique ⟨⟨hcaret, hlt⟩, ?_⟩
  rintro i ⟨hi, hbehind⟩
  by_contra hbefore
  exact absurd (hgreatest ⟨hi, Nat.lt_of_not_le hbefore⟩) (Nat.not_le_of_lt hbehind)

lemma nextBoundary_of_caret_eq (h : e.caret = e.buffer.length) : e.nextBoundary = e.caret := by
  rw [nextBoundary, List.drop_of_length_le (Nat.le_of_eq h.symm)]
  rfl

lemma previousBoundary_of_caret_eq (h : e.caret = 0) : e.previousBoundary = e.caret := by
  rw [previousBoundary, h, Nat.zero_sub]

end Editor

namespace Terminal

/-- Begin with the caret within the line, on a console that refuses nothing. Word movement forward
sends the caret to the nearest boundary behind it, and leaves it at the end of the line if it is
there. Word movement back sends it to the nearest boundary before it, and leaves it at the start of
the line if it is there. So from a boundary that is not the end of the line, forward and then back
leads nowhere, and from one that is not the start of the line, back and then forward does. On any
console, neither reaches outside of the line. -/
theorem wordMoves_visit_boundaries {t : Terminal}
    (hcaret : t.editor.caret ≤ t.editor.buffer.length) (hrefusals : t.console.refusals = []) :
    (∃ t', moveWordForward t = .ok () t' ∧
      t'.editor = { t.editor with caret := t'.editor.caret } ∧
      (t.editor.caret < t.editor.buffer.length →
        IsLeast {i | t.editor.IsBoundary i ∧ t.editor.caret < i} t'.editor.caret) ∧
      (t.editor.caret = t.editor.buffer.length → t'.editor.caret = t.editor.caret)) ∧
    (∃ t', moveWordBack t = .ok () t' ∧
      t'.editor = { t.editor with caret := t'.editor.caret } ∧
      (0 < t.editor.caret →
        IsGreatest {i | t.editor.IsBoundary i ∧ i < t.editor.caret} t'.editor.caret) ∧
      (t.editor.caret = 0 → t'.editor.caret = t.editor.caret)) ∧
    (t.editor.IsBoundary t.editor.caret → t.editor.caret < t.editor.buffer.length →
      ∃ t', Edit.runAll [.move .wordForward, .move .wordBack] t = .ok () t' ∧
        t'.editor = t.editor) ∧
    (t.editor.IsBoundary t.editor.caret → 0 < t.editor.caret →
      ∃ t', Edit.runAll [.move .wordBack, .move .wordForward] t = .ok () t' ∧
        t'.editor = t.editor) ∧
    ∀ c, Agrees Careful.moveWordForward moveWordForward ⟨c, t.editor⟩ ∧
      Agrees Careful.moveWordBack moveWordBack ⟨c, t.editor⟩ := by
  obtain ⟨c, e⟩ := t
  dsimp only at hcaret hrefusals ⊢
  have hnext := Editor.caret_withCaret (Editor.nextBoundary_le hcaret)
  have hprevious := Editor.caret_withCaret (e.previousBoundary_le.trans hcaret)
  refine ⟨?forward, ?back, ?forwardBack, ?backForward, ?within⟩
  case forward =>
    refine ⟨_, moveCaret_eq hrefusals .wordForward, rfl, fun hlt => ?_, fun hend => ?_⟩
    · exact hnext.symm ▸ Editor.isLeast_nextBoundary hlt
    · exact hnext.trans (Editor.nextBoundary_of_caret_eq hend)
  case back =>
    refine ⟨_, moveCaret_eq hrefusals .wordBack, rfl, fun hpos => ?_, fun hstart => ?_⟩
    · exact hprevious.symm ▸ Editor.isGreatest_previousBoundary hcaret hpos
    · exact hprevious.trans (Editor.previousBoundary_of_caret_eq hstart)
  case forwardBack =>
    intro hboundary hlt
    refine ⟨_, Edit.runAll_eq hrefusals _, ?_⟩
    show (e.withCaret e.nextBoundary).withCaret (e.withCaret e.nextBoundary).previousBoundary = e
    rw [Editor.previousBoundary_withCaret_nextBoundary hlt hboundary]
    exact congrArg (fun caret => { e with caret }) (Nat.min_eq_left hcaret)
  case backForward =>
    intro hboundary hpos
    refine ⟨_, Edit.runAll_eq hrefusals _, ?_⟩
    show (e.withCaret e.previousBoundary).withCaret
      (e.withCaret e.previousBoundary).nextBoundary = e
    rw [Editor.nextBoundary_withCaret_previousBoundary hcaret hpos hboundary]
    exact congrArg (fun caret => { e with caret }) (Nat.min_eq_left hcaret)
  case within =>
    exact fun _ => ⟨Careful.moveWordForward_agrees hcaret, Careful.moveWordBack_agrees hcaret⟩

/-- At the end of a word amid a line. -/
theorem wordMoves_visit_boundaries_amid :
    let t : Terminal := { editor := { buffer := ['a', 'b', ' ', '-', 'c'], caret := 2 } }
    t.editor.caret ≤ t.editor.buffer.length ∧ t.console.refusals = [] ∧
      t.editor.IsBoundary t.editor.caret ∧ t.editor.caret < t.editor.buffer.length ∧
      0 < t.editor.caret ∧
      (∃ t', moveWordForward t = .ok () t' ∧
        t'.editor = { t.editor with caret := t'.editor.caret } ∧
        IsLeast {i | t.editor.IsBoundary i ∧ t.editor.caret < i} t'.editor.caret) ∧
      (∃ t', moveWordBack t = .ok () t' ∧
        t'.editor = { t.editor with caret := t'.editor.caret } ∧
        IsGreatest {i | t.editor.IsBoundary i ∧ i < t.editor.caret} t'.editor.caret) ∧
      (∃ t', Edit.runAll [.move .wordForward, .move .wordBack] t = .ok () t' ∧
        t'.editor = t.editor) ∧
      (∃ t', Edit.runAll [.move .wordBack, .move .wordForward] t = .ok () t' ∧
        t'.editor = t.editor) ∧
      ∀ c, Agrees Careful.moveWordForward moveWordForward ⟨c, t.editor⟩ ∧
        Agrees Careful.moveWordBack moveWordBack ⟨c, t.editor⟩ := by
  intro t
  have hcaret : t.editor.caret ≤ t.editor.buffer.length := by
    decide
  have hboundary : t.editor.IsBoundary t.editor.caret := by
    have hclass : t.editor.isWordChar 'b' ≠ t.editor.isWordChar ' ' := by
      decide
    exact .between rfl rfl hclass
  have hlt : t.editor.caret < t.editor.buffer.length := by
    decide
  have hpos : 0 < t.editor.caret := by
    decide
  obtain ⟨⟨t₁, hforward, hsame₁, hleast, -⟩, ⟨t₂, hback, hsame₂, hgreatest, -⟩, hthere, hhere,
    hwithin⟩ := wordMoves_visit_boundaries hcaret rfl
  exact ⟨hcaret, rfl, hboundary, hlt, hpos, ⟨t₁, hforward, hsame₁, hleast hlt⟩,
    ⟨t₂, hback, hsame₂, hgreatest hpos⟩, hthere hboundary hlt, hhere hboundary hpos, hwithin⟩

end Terminal

end LineShell
