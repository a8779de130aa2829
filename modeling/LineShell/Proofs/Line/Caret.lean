import LineShell.Proofs.Line.Slices
import LineShell.Proofs.Line.Slot
import Mathlib.Logic.Basic

/-!
# The place of the caret

A caret stands in exactly one place of a line (`Line.caret_in_one_place`). Either one word touches
it, and no other one does, for words stand apart from each other; its place is then in this word. Or
no word touches it; then there are blanks on both sides of it, and its place is told by the number
of words before it.
-/

namespace LineShell

open Text

/-! ### Words that touch the caret -/

variable {p caret : Nat} {before old after : List Char} {vs us : List Word}

/-- No word but the one in the slot touches the caret. -/
lemma Slot.not_touches (h : Slot p caret before old after vs us) :
    ∀ w ∈ vs ++ us, ¬ (w.start ≤ caret ∧ caret ≤ w.stop) := by
  refine List.forall_mem_append.mpr ⟨fun v hv => ?_, fun u hu => ?_⟩
  · have := h.stop_lt_caret v hv
    omega
  · have := h.lt_start u hu
    omega

/-- The words before the slot are those that end before the caret. -/
lemma Slot.countP_stop_lt (h : Slot p caret before old after vs us) :
    (vs ++ us).countP (fun w => decide (w.stop < caret)) = vs.length := by
  have hbefore : vs.countP (fun w => decide (w.stop < caret)) = vs.length :=
    List.countP_eq_length.mpr fun v hv => decide_eq_true (h.stop_lt_caret v hv)
  have hafter : us.countP (fun w => decide (w.stop < caret)) = 0 := by
    refine List.countP_eq_zero.mpr fun u hu => ?_
    have hstart : u.start ≤ u.stop := Nat.le_add_right _ _
    have := h.lt_start u hu
    simp only [decide_eq_true_eq]
    omega
  rw [List.countP_append, hbefore, hafter, Nat.add_zero]

namespace Line

/-- The word of an index touches the caret, which stands at its start, within it or at its end. -/
def Touches (line : Line) (i : Nat) : Prop :=
  i < line.words.length ∧ line.wordStart i ≤ line.caret ∧
    line.caret ≤ line.wordStart i + line.wordLength i

/-- The place of the caret is in the word of an index. -/
structure CaretInWord (line : Line) (i : Nat) : Prop where
  touches_iff : ∀ j, line.Touches j ↔ j = i
  startsWord : line.startsWord = false
  selected : line.selected = i
  caretInWord : line.caretInWord = line.caret - line.wordStart i
  /-- The fragment is what stands between the start of the word and the caret. -/
  fragment : line.fragment.toList = (line.text.toList.take line.caret).drop (line.wordStart i)

/-- The place of the caret is outside all words. -/
structure CaretOutside (line : Line) : Prop where
  not_touches : ∀ j, ¬ line.Touches j
  startsWord : line.startsWord = true
  caretInWord : line.caretInWord = 0
  fragment : line.fragment = ""
  /-- The index is the number of words that end before the caret. -/
  selected : line.selected =
    (line.starts.zip line.words).countP fun (start, word) => start + word.length < line.caret
  /-- The other words start after the caret. -/
  lt_start : ∀ j, line.selected ≤ j → j < line.words.length → line.caret < line.wordStart j
  isBlank_before : ∀ i c, i + 1 = line.caret → line.text.toList[i]? = some c → isBlank c
  isBlank_after : ∀ c, line.text.toList[line.caret]? = some c → isBlank c

variable {text : String}

lemma wordStart_parse {i : Nat} {w : Word} (h : (Word.split text.toList)[i]? = some w)
    (caret : Nat) : (parse text caret).wordStart i = w.start := by
  simp [wordStart, parse, h]

lemma wordLength_parse {i : Nat} {w : Word} (h : (Word.split text.toList)[i]? = some w)
    (caret : Nat) : (parse text caret).wordLength i = w.chars.length := by
  simp [wordLength, parse, h]

lemma length_words_parse (text : String) (caret : Nat) :
    (parse text caret).words.length = (Word.split text.toList).length := by
  simp only [parse, List.length_map]

lemma touches_parse_iff {i : Nat} : (parse text caret).Touches i ↔
    ∃ w, (Word.split text.toList)[i]? = some w ∧ w.start ≤ min caret text.length ∧
      min caret text.length ≤ w.stop := by
  rw [Touches, length_words_parse]
  constructor
  · rintro ⟨hi, hplace⟩
    have hw := List.getElem?_eq_getElem hi
    rw [wordStart_parse hw, wordLength_parse hw] at hplace
    exact ⟨_, hw, hplace⟩
  · rintro ⟨w, hw, hplace⟩
    refine ⟨(List.getElem?_eq_some_iff.mp hw).1, ?_⟩
    rw [wordStart_parse hw, wordLength_parse hw]
    exact hplace

lemma spot_parse {spot : Spot}
    (h : Spot.find (min caret text.length) 0 (Word.split text.toList) = spot) :
    (parse text caret).selected = spot.index ∧ (parse text caret).caretInWord = spot.offset ∧
      (parse text caret).startsWord = spot.outside := by
  simp only [parse, h, and_self]

/-- What stands anywhere but in the middle stands before it or after it. -/
private lemma mem_of_getElem?_of_ne {w v : Word} {j : Nat} (hj : j ≠ vs.length)
    (h : (vs ++ w :: us)[j]? = some v) : v ∈ vs ++ us := by
  have hmem : v ∈ (vs ++ w :: us).eraseIdx vs.length :=
    List.mem_eraseIdx_iff_getElem?.mpr ⟨j, hj, h⟩
  rwa [List.eraseIdx_append_of_length_le le_rfl, Nat.sub_self, List.eraseIdx_cons_zero] at hmem

/-- The slot of the caret is taken by a word: the place of the caret is there. -/
lemma caretInWord_of_slot (hsplit : Word.split text.toList = vs ++ ⟨before.length, old⟩ :: us)
    (htext : text.toList = before ++ (old ++ after)) (hold : old ≠ [])
    (h : Slot 0 (min caret text.length) before old after vs us) :
    (parse text caret).CaretInWord vs.length := by
  have hword : (Word.split text.toList)[vs.length]? = some ⟨before.length, old⟩ := by
    rw [hsplit, List.getElem?_append_right le_rfl, Nat.sub_self, List.getElem?_cons_zero]
  have hstart := h.le_caret
  have hstop := h.caret_le
  have hfind := h.find_eq 0
  simp only [Nat.zero_add] at hstart hstop hfind
  rw [slotWord, if_neg hold, if_neg hold, List.singleton_append, ← hsplit] at hfind
  obtain ⟨hselected, hoffset, hinside⟩ := spot_parse hfind
  refine ⟨fun j => ?_, hinside, hselected, ?_, ?_⟩
  · rw [touches_parse_iff]
    constructor
    · rintro ⟨w, hw, htouches⟩
      by_contra hj
      exact h.not_touches w (mem_of_getElem?_of_ne hj (hsplit ▸ hw)) htouches
    · rintro rfl
      exact ⟨_, hword, hstart, hstop⟩
  · rw [wordStart_parse hword]
    exact hoffset
  · have hchars : (parse text caret).words[vs.length]? = some (.ofList old) := by
      simp only [parse, List.getElem?_map, hword, Option.map_some]
    have hfragment : (parse text caret).fragment.toList =
        old.take (min caret text.length - before.length) := by
      rw [fragment, selectedWord, hinside, if_neg Bool.false_ne_true, hselected, hchars, hoffset]
      simp only [String.toList_ofList]
    have htake : (text.toList.take (min caret text.length)).drop before.length =
        old.take (min caret text.length - before.length) := by
      rw [htext, List.drop_take, List.drop_left, List.take_append_of_le_length (by omega)]
    rw [hfragment, wordStart_parse hword]
    exact htake.symm

/-- The slot of the caret is empty: its place is outside all words. -/
lemma caretOutside_of_slot (hsplit : Word.split text.toList = vs ++ us)
    (h : Slot 0 (min caret text.length) before [] after vs us) :
    (parse text caret).CaretOutside := by
  have hnot : ∀ w ∈ Word.split text.toList,
      ¬ (w.start ≤ min caret text.length ∧ min caret text.length ≤ w.stop) :=
    hsplit ▸ h.not_touches
  have hcaret : (parse text caret).caret = min caret text.length := rfl
  have hfind := h.find_eq 0
  rw [slotWord, if_pos rfl, if_pos rfl, Nat.zero_add, List.nil_append, ← hsplit] at hfind
  obtain ⟨hselected, hoffset, hstarts⟩ := spot_parse hfind
  refine ⟨fun j htouches => ?_, hstarts, hoffset, ?_, ?_, fun j hj hlt => ?_, fun i c hi hc => ?_,
    fun c hc => ?_⟩
  · obtain ⟨w, hw, htouches⟩ := touches_parse_iff.mp htouches
    exact hnot w (List.mem_of_getElem? hw) htouches
  · rw [fragment, selectedWord, hstarts, if_pos rfl]
  · have hzip : (parse text caret).starts.zip (parse text caret).words =
        (vs ++ us).map fun w => (w.start, String.ofList w.chars) := by
      rw [← hsplit]
      exact List.zip_map'
    rw [hzip, List.countP_map, hselected, hcaret, ← h.countP_stop_lt]
    simp only [Function.comp_def, String.length_ofList]
    rfl
  · rw [length_words_parse] at hlt
    have hw := List.getElem?_eq_getElem hlt
    have hmem : (vs ++ us)[j]? = some (Word.split text.toList)[j] := hsplit ▸ hw
    rw [List.getElem?_append_right (hselected.ge.trans hj)] at hmem
    rw [wordStart_parse hw, hcaret]
    exact h.lt_start _ (List.mem_of_getElem? hmem)
  -- no word reaches to either side of the caret, for it would touch the caret
  · refine (wordSlices_split text.toList).outside i c hc fun w hw hin => ?_
    have := hnot w hw
    rw [hcaret] at hi
    omega
  · refine (wordSlices_split text.toList).outside _ c hc fun w hw hin => ?_
    have := hnot w hw
    rw [hcaret] at hin
    omega

/-- A caret stands in one place of a line, at the end if it is past it. That is in the one word that
touches it or, if there is none, outside all words. -/
theorem caret_in_one_place (text : String) (caret : Nat) :
    (parse text caret).caret = min caret text.length ∧
      Xor (∃ i, (parse text caret).CaretInWord i) (parse text caret).CaretOutside := by
  refine ⟨rfl, ?_⟩
  obtain ⟨ws, hcut⟩ := exists_cut 0 text.toList
  have hsplit : Word.split text.toList = ws := cut_iff_split_eq.mp hcut
  have hcaret : min caret text.length ≤ 0 + text.toList.length := by
    rw [String.length_toList]
    omega
  obtain ⟨before, old, after, vs, us, htext, rfl, hslot⟩ :=
    hcut.exists_slot (Nat.zero_le _) hcaret
  rw [Nat.zero_add] at hsplit
  by_cases hold : old = []
  · subst hold
    have houtside := caretOutside_of_slot hsplit hslot
    refine .inr ⟨houtside, fun ⟨i, hin⟩ => ?_⟩
    exact houtside.not_touches i ((hin.touches_iff i).mpr rfl)
  · rw [slotWord, if_neg hold] at hsplit
    have hin := caretInWord_of_slot hsplit htext hold hslot
    refine .inl ⟨⟨_, hin⟩, fun houtside => ?_⟩
    exact houtside.not_touches _ ((hin.touches_iff _).mpr rfl)

end Line

end LineShell
