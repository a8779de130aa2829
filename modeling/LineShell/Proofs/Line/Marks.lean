import LineShell.Proofs.Line.Quoted
import LineShell.Proofs.Line.Slices

/-!
# Marks of quoting

The value of a word is the word without its marks: the quotes on which a reader of the word opens or
closes a span, and the backslashes that it takes to escape a quote or a backslash. `unquote` looks
one character ahead where the reader has a state of its own for what is escaped; that it leaves out
the marks and nothing else is `unquote_leaves_out_marks`.

A text that is its own value has no marks, and so no quotes. Hence `quote` gives back, as they are,
just the texts that are read as one word with themselves as value (`quote_eq_self_iff`).
-/

namespace LineShell

open Text

namespace Quoting

variable {q : Quoting} {c : Char} {cs : List Char} {i : Nat}

/-- For a reader that begins in the given state, the character at a place is there for quoting only.
-/
inductive IsMark (q : Quoting) (cs : List Char) (i : Nat) : Prop
  | opens (hc : cs[i]? = some '"') (hbefore : q.run (cs.take i) = .bare)
      (hafter : q.run (cs.take (i + 1)) = .quoted)
  | closes (hc : cs[i]? = some '"') (hbefore : q.run (cs.take i) = .quoted)
      (hafter : q.run (cs.take (i + 1)) = .bare)
  | escapes (hc : cs[i]? = some '\\') (hafter : q.run (cs.take (i + 1)) = .escaped)
      (hnext : cs[i + 1]? = some '"' ∨ cs[i + 1]? = some '\\')

lemma run_take_succ (hc : cs[i]? = some c) (q : Quoting) :
    q.run (cs.take (i + 1)) = (q.run (cs.take i)).step c := by
  rw [List.take_add_one, hc, run_append]
  rfl

/-- Where a reader stands before a character tells whether it is a mark. -/
lemma isMark_iff : q.IsMark cs i ↔ cs[i]? = some '"' ∧ q.run (cs.take i) ≠ .escaped ∨
    cs[i]? = some '\\' ∧ q.run (cs.take i) = .quoted ∧
      (cs[i + 1]? = some '"' ∨ cs[i + 1]? = some '\\') := by
  constructor
  · rintro (⟨hc, hbefore, -⟩ | ⟨hc, hbefore, -⟩ | ⟨hc, hafter, hnext⟩)
    · exact .inl ⟨hc, by simp [hbefore]⟩
    · exact .inl ⟨hc, by simp [hbefore]⟩
    · rw [run_take_succ hc] at hafter
      have hbefore : q.run (cs.take i) = .quoted := by
        cases h : q.run (cs.take i) <;> simp [h, step] at hafter ⊢
      exact .inr ⟨hc, hbefore, hnext⟩
  · rintro (⟨hc, hne⟩ | ⟨hc, hbefore, hnext⟩)
    · have hafter := run_take_succ hc q
      cases hbefore : q.run (cs.take i) with
      | bare =>
        rw [hbefore] at hafter
        exact .opens hc hbefore hafter
      | quoted =>
        rw [hbefore] at hafter
        exact .closes hc hbefore hafter
      | escaped => exact absurd hbefore hne
    · refine .escapes hc ?_ hnext
      rw [run_take_succ hc, hbefore]
      rfl

instance (q : Quoting) (cs : List Char) (i : Nat) : Decidable (q.IsMark cs i) :=
  decidable_of_iff _ isMark_iff.symm

lemma isMark_zero : q.IsMark (c :: cs) 0 ↔ c = '"' ∧ q ≠ .escaped ∨
    c = '\\' ∧ q = .quoted ∧ (cs.head? = some '"' ∨ cs.head? = some '\\') := by
  simp [isMark_iff, List.head?_eq_getElem?]

lemma isMark_succ : q.IsMark (c :: cs) (i + 1) ↔ (q.step c).IsMark cs i := by
  simp [isMark_iff]

/-! ### Characters without the marks -/

/-- The characters that are no marks, in order. -/
def withoutMarks (q : Quoting) (cs : List Char) : List Char :=
  (cs.zipIdx.filter fun (_, i) => ¬ q.IsMark cs i).map Prod.fst

lemma withoutMarks_cons (q : Quoting) (c : Char) (cs : List Char) :
    q.withoutMarks (c :: cs) =
      if q.IsMark (c :: cs) 0 then (q.step c).withoutMarks cs
      else c :: (q.step c).withoutMarks cs := by
  have hrest : ((cs.zipIdx 1).filter fun (_, i) => ¬ q.IsMark (c :: cs) i).map Prod.fst =
      (q.step c).withoutMarks cs := by
    rw [List.zipIdx_succ, List.filter_map, List.map_map]
    simp [withoutMarks, Function.comp_def, isMark_succ]
  rw [← hrest, withoutMarks, List.zipIdx_cons, List.filter_cons]
  by_cases hmark : q.IsMark (c :: cs) 0 <;> simp [hmark]

lemma withoutMarks_sublist (q : Quoting) (cs : List Char) : (q.withoutMarks cs).Sublist cs := by
  have h := (List.filter_sublist (l := cs.zipIdx) (p := fun (_, i) => ¬ q.IsMark cs i)).map Prod.fst
  rwa [List.zipIdx_map_fst] at h

lemma withoutMarks_quote (hq : q ≠ .escaped) (cs : List Char) :
    q.withoutMarks ('"' :: cs) = (q.step '"').withoutMarks cs := by
  rw [withoutMarks_cons, if_pos (isMark_zero.mpr (.inl ⟨rfl, hq⟩))]

lemma withoutMarks_escape (hc : c = '"' ∨ c = '\\') (cs : List Char) :
    Quoting.quoted.withoutMarks ('\\' :: c :: cs) = c :: Quoting.quoted.withoutMarks cs := by
  have hmark : Quoting.quoted.IsMark ('\\' :: c :: cs) 0 :=
    isMark_zero.mpr (.inr ⟨rfl, rfl, by simpa using hc⟩)
  have hescaped : ¬ Quoting.escaped.IsMark (c :: cs) 0 := by simp [isMark_zero]
  have hstep : Quoting.quoted.step '\\' = .escaped := rfl
  rw [withoutMarks_cons, if_pos hmark, hstep, withoutMarks_cons, if_neg hescaped, step]

/-- A reader that has taken a backslash to escape what needs no escape reads on as if it had not. -/
lemma withoutMarks_escaped (h : ∀ c ∈ cs.head?, c ≠ '"' ∧ c ≠ '\\') :
    Quoting.escaped.withoutMarks cs = Quoting.quoted.withoutMarks cs := by
  cases cs with
  | nil => rfl
  | cons c cs =>
    obtain ⟨hq, hb⟩ := h c rfl
    have hescaped : ¬ Quoting.escaped.IsMark (c :: cs) 0 := by simp [isMark_zero]
    have hquoted : ¬ Quoting.quoted.IsMark (c :: cs) 0 := by simp [isMark_zero, hq, hb]
    rw [withoutMarks_cons, withoutMarks_cons, if_neg hescaped, if_neg hquoted]
    simp [step, hq, hb]

/-- A text that is the same without its marks has no quotes: the first one would open a span. -/
lemma notMem_of_withoutMarks_eq (h : Quoting.bare.withoutMarks cs = cs) : '"' ∉ cs := by
  induction cs with
  | nil => exact List.not_mem_nil
  | cons c cs ih =>
    have hc : c ≠ '"' := by
      rintro rfl
      rw [withoutMarks_quote (by decide)] at h
      have hlength := (withoutMarks_sublist (Quoting.bare.step '"') cs).length_le
      rw [h, List.length_cons] at hlength
      omega
    have hmark : ¬ Quoting.bare.IsMark (c :: cs) 0 := by simp [isMark_zero, hc]
    have hstep : Quoting.bare.step c = .bare := by simp [step, hc]
    rw [withoutMarks_cons, if_neg hmark, hstep, List.cons.injEq] at h
    exact List.not_mem_cons_of_ne_of_not_mem hc.symm (ih h.2)

/-- A text without quotes that no blank breaks has no blanks. -/
lemma isBlank_eq_false_of_unbroken (h : Quoting.bare.Unbroken cs) (hquote : '"' ∉ cs) :
    ∀ c ∈ cs, isBlank c = false := by
  induction cs with
  | nil => exact List.forall_mem_nil _
  | cons c cs ih =>
    rw [List.mem_cons, not_or] at hquote
    obtain ⟨hc, hquote⟩ := hquote
    obtain ⟨hblank, hcs⟩ := unbroken_cons.mp h
    have hstep : Quoting.bare.step c = .bare := by simp [step, Ne.symm hc]
    exact List.forall_mem_cons.mpr ⟨hblank rfl, ih (hstep ▸ hcs) hquote⟩

/-- A reader outside all spans, or within one. -/
def within (inside : Bool) : Quoting :=
  if inside then .quoted else .bare

end Quoting

/-! ### The value of a word -/

open Quoting

lemma unquoteFrom_eq_withoutMarks (inside : Bool) (cs : List Char) :
    unquoteFrom inside cs = (within inside).withoutMarks cs := by
  fun_induction unquoteFrom inside cs with
  | case1 inside => rfl
  | case2 inside cs ih =>
    rw [withoutMarks_quote (by cases inside <;> decide), ih]
    cases inside <;> rfl
  | case3 cs ih => exact (congrArg _ ih).trans (withoutMarks_escape (.inl rfl) cs).symm
  | case4 cs ih => exact (congrArg _ ih).trans (withoutMarks_escape (.inr rfl) cs).symm
  | case5 inside c cs hq hquote hbackslash ih =>
    -- what is escaped here, if anything, is neither a quote nor a backslash
    have hplain (hinside : inside = true) (hc : c = '\\') :
        ∀ d ∈ cs.head?, d ≠ '"' ∧ d ≠ '\\' := by
      intro d hd
      obtain ⟨rest, hrest⟩ := List.head?_eq_some_iff.mp hd
      refine ⟨?_, ?_⟩ <;> rintro rfl
      · exact hquote rest hinside hc hrest
      · exact hbackslash rest hinside hc hrest
    have hmark : ¬ (within inside).IsMark (c :: cs) 0 := by
      rw [isMark_zero]
      rintro (⟨hc, -⟩ | ⟨hc, hstate, hnext⟩)
      · exact hq hc
      · have hinside : inside = true := by cases inside <;> simp [within] at hstate ⊢
        rcases hnext with hd | hd
        · exact (hplain hinside hc _ hd).1 rfl
        · exact (hplain hinside hc _ hd).2 rfl
    rw [withoutMarks_cons, if_neg hmark, ih]
    by_cases hescape : inside = true ∧ c = '\\'
    · obtain ⟨rfl, rfl⟩ := hescape
      exact congrArg _ (withoutMarks_escaped (hplain rfl rfl)).symm
    · have hstep : (within inside).step c = within inside := by
        cases inside <;> simp_all [within, step]
      rw [hstep]

lemma unquoteFrom_sublist (inside : Bool) (cs : List Char) :
    (unquoteFrom inside cs).Sublist cs := by
  rw [unquoteFrom_eq_withoutMarks]
  exact withoutMarks_sublist _ cs

lemma toList_unquote (word : String) :
    (unquote word).toList = Quoting.bare.withoutMarks word.toList := by
  rw [unquote, String.toList_ofList, unquoteFrom_eq_withoutMarks]
  rfl

/-- The value of a word is the word without its marks. Blanks are no marks, nor is a backslash
outside all spans, nor a character that is escaped, nor a backslash with something else than a quote
or a backslash after it, or with nothing. -/
theorem unquote_leaves_out_marks (word : String) :
    (unquote word).toList =
        (word.toList.zipIdx.filter fun (_, i) => ¬ Quoting.bare.IsMark word.toList i).map Prod.fst ∧
      ∀ i c, word.toList[i]? = some c →
        (isBlank c ∨
          c = '\\' ∧ Quoting.bare.run (word.toList.take i) = .bare ∨
          Quoting.bare.run (word.toList.take i) = .escaped ∨
          c = '\\' ∧ word.toList[i + 1]? ≠ some '"' ∧ word.toList[i + 1]? ≠ some '\\') →
        ¬ Quoting.bare.IsMark word.toList i := by
  refine ⟨toList_unquote word, fun i c hc hkept => ?_⟩
  rw [isMark_iff, hc]
  rintro (⟨hquote, hunescaped⟩ | ⟨hbackslash, hquoted, hnext⟩)
  · obtain rfl : c = '"' := Option.some.inj hquote
    rcases hkept with hblank | ⟨hc, -⟩ | hescaped | ⟨hc, -⟩
    · simp at hblank
    · simp at hc
    · exact hunescaped hescaped
    · simp at hc
  · obtain rfl : c = '\\' := Option.some.inj hbackslash
    rcases hkept with hblank | ⟨-, hbare⟩ | hescaped | ⟨-, hq, hb⟩
    · simp at hblank
    · simp [hbare] at hquoted
    · simp [hescaped] at hquoted
    · exact hnext.elim hq hb

/-- The marks of a word whose last span is left open, with a backslash at its end. -/
example : let cs := "x\"a\\\"b\\n\\".toList
    cs = ['x', '"', 'a', '\\', '"', 'b', '\\', 'n', '\\'] ∧
      (List.range 9).filter (fun i => Quoting.bare.IsMark cs i) = [1, 3] := by decide

/-- A text is given back as it is, without quotes around it, just if it is read as a single word
and this word has the text as its value. -/
theorem quote_eq_self_iff (text : String) (caret : Nat) :
    quote text = text ↔ (Line.parse text caret).words = [text] ∧ unquote text = text := by
  constructor
  · intro h
    have halone := standsAlone_quote text
    have hvalue := unquote_quote text
    rw [h] at halone hvalue
    have hne : text ≠ "" := by simpa using halone.ne_nil
    exact ⟨Line.words_parse_eq_singleton_iff.mpr ⟨hne, halone.unbroken⟩, hvalue⟩
  · rintro ⟨hwords, hvalue⟩
    obtain ⟨hne, hunbroken⟩ := Line.words_parse_eq_singleton_iff.mp hwords
    have hquote : '"' ∉ text.toList := by
      refine notMem_of_withoutMarks_eq ?_
      rw [← toList_unquote, hvalue]
    have hblank := isBlank_eq_false_of_unbroken hunbroken hquote
    have hplain : needsQuotes text = false :=
      needsQuotes_eq_false_iff.mpr ⟨by simpa using hne,
        fun c hc => ⟨hblank c hc, ne_of_mem_of_not_mem hc hquote⟩⟩
    rw [quote, hplain, if_neg Bool.false_ne_true]

end LineShell
