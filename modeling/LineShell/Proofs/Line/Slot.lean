import LineShell.Proofs.Line.Quoted
import Mathlib.Tactic.SplitIfs

/-!
# The slot of a caret

A caret marks a slot of the line, for one word: it is taken by the word that holds the caret, and it
is empty where the caret lies between words. Whatever stands alone as a word can be put there
(`Line.fill`). The words before the slot and after it stay what they were, and a caret after the new
word is at its end: `words_fill`, `spot_fill`.
-/

namespace LineShell

open Text

/-! ### Cuts in parts -/

/-- No word begins right there: the characters are used up or go on with a blank. -/
def StartsApart (cs : List Char) : Prop :=
  ∀ c ∈ cs.head?, isBlank c

/-- The characters from a place on are cut into the same words whatever comes after them. -/
def Delimits (p : Nat) (before : List Char) (vs : List Word) : Prop :=
  ∀ rest ws, Cut (p + before.length) rest ws → Cut p (before ++ rest) (vs ++ ws)

variable {p caret : Nat} {cs gap w before old after : List Char} {vs us ws : List Word}

lemma startsApart_nil : StartsApart [] := by
  simp [StartsApart]

lemma startsApart_of_gap (hne : gap ≠ []) (hgap : ∀ c ∈ gap, isBlank c) (rest : List Char) :
    StartsApart (gap ++ rest) := by
  cases gap with
  | nil => exact absurd rfl hne
  | cons b gap =>
    intro c hc
    obtain rfl : b = c := by simpa using hc
    exact hgap b List.mem_cons_self

lemma Cut.unique (h : Cut p cs vs) (h' : Cut p cs ws) : vs = ws :=
  congrArg Prod.snd (h.scan_eq.symm.trans h'.scan_eq)

/-- Blanks in front make no difference. -/
lemma delimits_gap (hgap : ∀ c ∈ gap, isBlank c) (p : Nat) : Delimits p gap [] := by
  intro rest ws h
  obtain ⟨vs, hvs⟩ := exists_cut p (gap ++ rest)
  have heq := hvs.scan_eq
  rw [Word.scan_gap hgap, h.scan_eq] at heq
  have hws : ws = vs := congrArg Prod.snd heq
  rw [List.nil_append, hws]
  exact hvs

lemma Cut.of_gap (hgap : ∀ c ∈ gap, isBlank c) (h : Cut p (gap ++ cs) ws) :
    Cut (p + gap.length) cs ws := by
  obtain ⟨vs, hvs⟩ := exists_cut (p + gap.length) cs
  rw [h.unique (delimits_gap hgap p cs vs hvs)]
  exact hvs

lemma Delimits.trans (h : Delimits p before vs) (h' : Delimits (p + before.length) w us) :
    Delimits p (before ++ w) (vs ++ us) := by
  intro rest ws hrest
  rw [List.append_assoc, List.append_assoc]
  apply h
  apply h'
  rw [Nat.add_assoc, ← List.length_append]
  exact hrest

/-- A word is over where a blank comes. -/
lemma delimits_word (hne : w ≠ []) (hw : Quoting.bare.Unbroken w) (hclosed : SpansClosed w)
    {b : Char} (hb : isBlank b) (p : Nat) : Delimits p (w ++ [b]) [⟨p, w⟩] := by
  intro rest ws hrest
  have hgap : ∀ c ∈ ([] : List Char), isBlank c := List.forall_mem_nil _
  have hafter : Cut (p + ([] : List Char).length + w.length + 1) rest ws := by
    simpa [Nat.add_assoc] using hrest
  simpa using Cut.word hgap hne hw hclosed hb hafter

/-- A word that stands alone is one of the words wherever it is put. -/
lemma StandsAlone.cut (hw : StandsAlone w) (hafter : StartsApart after)
    (h : Cut (p + w.length) after us) : Cut p (w ++ after) (⟨p, w⟩ :: us) := by
  cases after with
  | nil =>
    have hgap : ∀ c ∈ ([] : List Char), isBlank c := List.forall_mem_nil _
    obtain rfl := h.unique (.blank hgap)
    have hcut : Cut p _ _ := Cut.last hgap hw.ne_nil hw.unbroken
    simpa using hcut
  | cons b after =>
    have hb : isBlank b := hafter b rfl
    have hgap : ∀ c ∈ [b], isBlank c := by simpa using hb
    have hrest : Cut (p + w.length + 1) after us := Cut.of_gap hgap h
    simpa using delimits_word hw.ne_nil hw.unbroken hw.closed hb p after us
      (by simpa [Nat.add_assoc] using hrest)

lemma Cut.le_start (h : Cut p cs ws) : ∀ v ∈ ws, p ≤ v.start := by
  induction h with
  | blank => simp
  | last => simp
  | word _ _ _ _ _ _ ih =>
    intro v hv
    rcases List.mem_cons.mp hv with rfl | hv
    · exact Nat.le_add_right _ _
    · have := ih v hv
      omega

/-- The word further to the right. -/
def Word.shift (n : Nat) (w : Word) : Word :=
  ⟨w.start + n, w.chars⟩

/-- Characters that stand further to the right are cut into words that do so too. -/
lemma Cut.shift (h : Cut p cs ws) (n : Nat) : Cut (p + n) cs (ws.map (Word.shift n)) := by
  induction h with
  | blank hgap => exact .blank hgap
  | @last p gap w hgap hne hw =>
    have hplace : p + gap.length + n = p + n + gap.length := by omega
    rw [List.map_singleton, Word.shift, hplace]
    exact .last hgap hne hw
  | @word p gap w b rest ws hgap hne hw hclosed hb _ ih =>
    have hplace : p + gap.length + n = p + n + gap.length := by omega
    have hrest : p + gap.length + w.length + 1 + n = p + n + gap.length + w.length + 1 := by omega
    rw [hrest] at ih
    rw [List.map_cons, Word.shift, hplace]
    exact .word hgap hne hw hclosed hb ih

/-- The words are the same wherever the characters stand. -/
lemma Cut.moved (h : Cut p cs ws) (q : Nat) :
    ∃ vs, Cut q cs vs ∧ vs.map Word.chars = ws.map Word.chars := by
  obtain ⟨us, hus⟩ := exists_cut 0 cs
  have hp := hus.shift p
  have hq := hus.shift q
  rw [Nat.zero_add] at hp hq
  refine ⟨_, hq, ?_⟩
  rw [h.unique hp, List.map_map, List.map_map]
  rfl

/-- Words with a space after each are cut into these words. -/
lemma exists_delimits_spaced {words : List String} (hwords : ∀ w ∈ words, StandsAlone w.toList)
    (p : Nat) : ∃ vs, Delimits p (String.join (words.map (· ++ " "))).toList vs ∧
      vs.map (fun w => String.ofList w.chars) = words := by
  induction words generalizing p with
  | nil => exact ⟨[], delimits_gap (List.forall_mem_nil _) p, rfl⟩
  | cons word words ih =>
    obtain ⟨hword, hwords⟩ := List.forall_mem_cons.mp hwords
    have hspace : isBlank ' ' := by decide
    have hfirst := delimits_word hword.ne_nil hword.unbroken hword.closed hspace p
    obtain ⟨vs, hvs, hchars⟩ := ih hwords (p + (word.toList ++ [' ']).length)
    refine ⟨⟨p, word.toList⟩ :: vs, ?_, ?_⟩
    · rw [List.map_cons, String.join_cons, String.toList_append, String.toList_append]
      exact hfirst.trans hvs
    · rw [List.map_cons, hchars, String.ofList_toList]

/-! ### Slots -/

/-- The characters from a place on, parted at the slot of a caret. -/
structure Slot (p caret : Nat) (before old after : List Char) (vs us : List Word) : Prop where
  delimits : Delimits p before vs
  stop_lt : ∀ v ∈ vs, v.stop < p + before.length
  apart : StartsApart after
  rest : Cut (p + before.length + old.length) after us
  le_caret : p + before.length ≤ caret
  caret_le : caret ≤ p + before.length + old.length
  lt_start : ∀ u ∈ us, caret < u.start

/-- The word in the slot, if there is one. -/
def slotWord (start : Nat) (old : List Char) : List Word :=
  if old = [] then [] else [⟨start, old⟩]

/-- More words in front leave the slot where it is. -/
lemma Slot.prepend {q : Nat} {first : List Char} {fs : List Word}
    (h : Slot q caret before old after vs us) (hq : q = p + first.length)
    (hfirst : Delimits p first fs) (hstop : ∀ v ∈ fs, v.stop < q) :
    Slot p caret (first ++ before) old after (fs ++ vs) us := by
  subst hq
  have hlength : p + (first ++ before).length = p + first.length + before.length := by
    rw [List.length_append, Nat.add_assoc]
  constructor
  · exact hfirst.trans h.delimits
  · rw [hlength]
    intro v hv
    rcases List.mem_append.mp hv with hv | hv
    · exact Nat.lt_of_lt_of_le (hstop v hv) (Nat.le_add_right _ _)
    · exact h.stop_lt v hv
  · exact h.apart
  · rw [hlength]
    exact h.rest
  · rw [hlength]
    exact h.le_caret
  · rw [hlength]
    exact h.caret_le
  · exact h.lt_start

/-- Before the end of a gap the slot is empty. -/
lemma exists_slot_of_gap (hgap : ∀ c ∈ gap, isBlank c) (h : Cut p (gap ++ cs) ws) (hle : p ≤ caret)
    (hlt : caret < p + gap.length ∨ cs = [] ∧ caret = p + gap.length) :
    ∃ before after, gap ++ cs = before ++ after ∧ Slot p caret before [] after [] ws := by
  have hlength : (gap.take (caret - p)).length = caret - p := by
    rw [List.length_take]
    omega
  have hplace : p + (gap.take (caret - p)).length = caret := by
    omega
  have hbefore : ∀ c ∈ gap.take (caret - p), isBlank c :=
    fun c hc => hgap c (List.mem_of_mem_take hc)
  have hsplit : gap ++ cs = gap.take (caret - p) ++ (gap.drop (caret - p) ++ cs) := by
    rw [← List.append_assoc, List.take_append_drop]
  refine ⟨_, _, hsplit, delimits_gap hbefore p, List.forall_mem_nil _, ?_, ?_, hplace.le, hplace.ge,
    ?_⟩
  · rcases hlt with hlt | ⟨rfl, hend⟩
    · refine startsApart_of_gap ?_ (fun c hc => hgap c (List.mem_of_mem_drop hc)) cs
      rw [Ne, List.drop_eq_nil_iff]
      omega
    · rw [List.drop_of_length_le (by omega)]
      exact startsApart_nil
  · rw [hsplit] at h
    show Cut (p + (gap.take (caret - p)).length) _ _
    exact h.of_gap hbefore
  · intro u hu
    have hstart := (h.of_gap hgap).le_start u hu
    rcases hlt with hlt | ⟨rfl, -⟩
    · omega
    · rw [(h.of_gap hgap).unique (.blank (List.forall_mem_nil _))] at hu
      exact absurd hu List.not_mem_nil

/-- A word with blanks before it that holds the caret is the slot. -/
lemma slot_of_word (hgap : ∀ c ∈ gap, isBlank c) (hafter : StartsApart after)
    (h : Cut (p + gap.length + w.length) after us) (hle : p + gap.length ≤ caret)
    (hcaret : caret ≤ p + gap.length + w.length)
    (hlt : ∀ u ∈ us, p + gap.length + w.length < u.start) :
    Slot p caret gap w after [] us where
  delimits := delimits_gap hgap p
  stop_lt := List.forall_mem_nil _
  apart := hafter
  rest := h
  le_caret := hle
  caret_le := hcaret
  lt_start u hu := Nat.lt_of_le_of_lt hcaret (hlt u hu)

/-- Every caret has a slot. The induction is on the words: the slot is in the gap before the first
word, it is that word, or it comes further on. -/
lemma Cut.exists_slot (h : Cut p cs ws) (hle : p ≤ caret) (hcaret : caret ≤ p + cs.length) :
    ∃ before old after vs us, cs = before ++ (old ++ after) ∧
      ws = vs ++ (slotWord (p + before.length) old ++ us) ∧
        Slot p caret before old after vs us := by
  induction h with
  | @blank p gap hgap =>
    have hcut : Cut p (gap ++ []) [] := by simpa using Cut.blank hgap
    obtain ⟨before, after, hsplit, hslot⟩ := exists_slot_of_gap hgap hcut hle
      ((Nat.lt_or_eq_of_le hcaret).imp_right fun hend => ⟨rfl, hend⟩)
    rw [List.append_nil] at hsplit
    exact ⟨before, [], after, [], [], hsplit, rfl, hslot⟩
  | @last p gap w hgap hne hw =>
    rw [List.length_append] at hcaret
    by_cases hlt : caret < p + gap.length
    · obtain ⟨before, after, hsplit, hslot⟩ := exists_slot_of_gap hgap (.last hgap hne hw) hle
        (.inl hlt)
      exact ⟨before, [], after, [], _, hsplit, rfl, hslot⟩
    · refine ⟨gap, w, [], [], [], by rw [List.append_nil], by simp [slotWord, hne], ?_⟩
      exact slot_of_word hgap startsApart_nil (.blank (List.forall_mem_nil _)) (by omega) (by omega)
        (List.forall_mem_nil _)
  | @word p gap w b rest ws hgap hne hw hclosed hb hrest ih =>
    have hword := Cut.word hgap hne hw hclosed hb hrest
    rw [List.length_append, List.length_append, List.length_cons] at hcaret
    by_cases hlt : caret < p + gap.length
    · obtain ⟨before, after, hsplit, hslot⟩ := exists_slot_of_gap hgap hword hle (.inl hlt)
      exact ⟨before, [], after, [], _, hsplit, rfl, hslot⟩
    by_cases hin : caret ≤ p + gap.length + w.length
    · have hblank : ∀ c ∈ [b], isBlank c := by simpa using hb
      refine ⟨gap, w, b :: rest, [], ws, rfl, by simp [slotWord, hne], ?_⟩
      exact slot_of_word hgap (startsApart_of_gap (List.cons_ne_nil b []) hblank rest)
        (delimits_gap hblank _ _ _ hrest) (by omega) hin
        fun u hu => Nat.lt_of_succ_le (hrest.le_start u hu)
    · obtain ⟨before, old, after, vs, us, hsplit, hws, hslot⟩ := ih (by omega) (by omega)
      have hfirst := (delimits_gap hgap p).trans (delimits_word hne hw hclosed hb _)
      have hq : p + gap.length + w.length + 1 = p + (gap ++ (w ++ [b])).length := by
        simp only [List.length_append, List.length_singleton]
        omega
      refine ⟨gap ++ (w ++ [b]) ++ before, old, after, ⟨p + gap.length, w⟩ :: vs, us, ?_, ?_,
        hslot.prepend hq hfirst ?_⟩
      · rw [hsplit]
        simp
      · have hplace : p + (gap ++ (w ++ [b]) ++ before).length =
            p + (gap ++ (w ++ [b])).length + before.length := by
          rw [List.length_append, Nat.add_assoc]
        rw [hws, hq, hplace]
        rfl
      · simp [Word.stop]

/-- Another word in the slot: the words before it and after it are the same. -/
lemma Slot.cut (h : Slot p caret before old after vs us) (hw : StandsAlone w) :
    ∃ us', Cut p (before ++ (w ++ after)) (vs ++ ⟨p + before.length, w⟩ :: us') ∧
      us'.map Word.chars = us.map Word.chars := by
  obtain ⟨us', hus', hchars⟩ := h.rest.moved (p + before.length + w.length)
  exact ⟨us', h.delimits _ _ (hw.cut h.apart hus'), hchars⟩

/-! ### The place of the caret -/

namespace Spot

lemma find_append (i : Nat) (hvs : ∀ v ∈ vs, v.stop < caret) (ws : List Word) :
    find caret i (vs ++ ws) = find caret (i + vs.length) ws := by
  induction vs generalizing i with
  | nil => rfl
  | cons v vs ih =>
    obtain ⟨hv, hvs⟩ := List.forall_mem_cons.mp hvs
    have hstart : v.start ≤ v.stop := Nat.le_add_right _ _
    rw [List.cons_append, find, if_neg (by omega), if_neg (by omega), ih (i + 1) hvs,
      List.length_cons, Nat.add_assoc, Nat.add_comm 1]

lemma find_within {v : Word} (i : Nat) (hle : v.start ≤ caret) (hcaret : caret ≤ v.stop)
    (ws : List Word) : find caret i (v :: ws) = ⟨i, caret - v.start, false⟩ := by
  rw [find, if_neg (by omega), if_pos hcaret]

lemma find_before (i : Nat) (hus : ∀ u ∈ us, caret < u.start) : find caret i us = ⟨i, 0, true⟩ := by
  cases us with
  | nil => rfl
  | cons u us => rw [find, if_pos (hus u List.mem_cons_self)]

end Spot

lemma Slot.stop_lt_caret (h : Slot p caret before old after vs us) : ∀ v ∈ vs, v.stop < caret :=
  fun v hv => Nat.lt_of_lt_of_le (h.stop_lt v hv) h.le_caret

/-- Where the caret stands among the words. -/
lemma Slot.find_eq (h : Slot p caret before old after vs us) (i : Nat) :
    Spot.find caret i (vs ++ (slotWord (p + before.length) old ++ us)) =
      if old = [] then ⟨i + vs.length, 0, true⟩
      else ⟨i + vs.length, caret - (p + before.length), false⟩ := by
  rw [Spot.find_append i h.stop_lt_caret, slotWord]
  by_cases hold : old = []
  · rw [if_pos hold, if_pos hold]
    exact Spot.find_before _ h.lt_start
  · rw [if_neg hold, if_neg hold]
    exact Spot.find_within _ h.le_caret h.caret_le us

/-! ### Lines -/

namespace Line

/-- Where the slot of the caret begins. -/
def slotStart (line : Line) : Nat :=
  if line.startsWord then line.caret else line.wordStart line.selected

/-- Where the slot of the caret ends. -/
def slotStop (line : Line) : Nat :=
  if line.startsWord then line.caret
  else line.wordStart line.selected + line.wordLength line.selected

/-- The text of the line with a word put into the slot of the caret. -/
def fill (line : Line) (word : String) : String :=
  .ofList (line.text.toList.take line.slotStart ++ word.toList ++
    line.text.toList.drop line.slotStop)

/-- The words of the line with a word put into the slot of the caret. -/
def fillWords (line : Line) (word : String) : List String :=
  if line.startsWord then line.words.insertIdx line.selected word
  else line.words.set line.selected word

private lemma insertIdx_length_append (xs ys : List String) (word : String) :
    (xs ++ ys).insertIdx xs.length word = xs ++ word :: ys := by
  induction xs with
  | nil => rfl
  | cons x xs ih => rw [List.cons_append, List.length_cons, List.insertIdx_succ_cons, ih]; rfl

/-- The slot of a line, with the words before it and after it. -/
structure IsSlot (line : Line) (before old after : List Char) (vs us : List Word) : Prop where
  slot : Slot 0 line.caret before old after vs us
  text_eq : line.text.toList = before ++ (old ++ after)
  words_eq : line.words =
    (vs ++ (slotWord before.length old ++ us)).map fun w => String.ofList w.chars
  starts_eq : line.starts = (vs ++ (slotWord before.length old ++ us)).map Word.start
  selected_eq : line.selected = vs.length
  startsWord_eq : line.startsWord = decide (old = [])

/-- The words of a text, parted at the slot of a caret. -/
lemma exists_slot_split (text : String) (caret : Nat) :
    ∃ before old after vs us, Slot 0 (min caret text.length) before old after vs us ∧
      text.toList = before ++ (old ++ after) ∧
      Word.split text.toList = vs ++ (slotWord before.length old ++ us) := by
  obtain ⟨ws, hcut⟩ := exists_cut 0 text.toList
  have hcaret : min caret text.length ≤ 0 + text.toList.length := by
    rw [String.length_toList]
    omega
  obtain ⟨before, old, after, vs, us, htext, rfl, hslot⟩ :=
    hcut.exists_slot (Nat.zero_le _) hcaret
  rw [Nat.zero_add] at hcut
  exact ⟨before, old, after, vs, us, hslot, htext, cut_iff_split_eq.mp hcut⟩

/-- Every line has a slot. -/
theorem exists_isSlot (text : String) (caret : Nat) :
    ∃ before old after vs us, (parse text caret).IsSlot before old after vs us := by
  obtain ⟨before, old, after, vs, us, hslot, htext, hsplit⟩ := exists_slot_split text caret
  have hfind := hslot.find_eq 0
  simp only [Nat.zero_add] at hfind
  refine ⟨before, old, after, vs, us, hslot, htext, ?_, ?_, ?_, ?_⟩
  · simp only [parse, hsplit]
  · simp only [parse, hsplit]
  · simp only [parse, hsplit, hfind]
    split_ifs <;> rfl
  · simp only [parse, hsplit, hfind]
    by_cases hold : old = [] <;> simp [hold]

namespace IsSlot

variable {line : Line}

lemma slotStart_eq (h : line.IsSlot before old after vs us) : line.slotStart = before.length := by
  have hle := h.slot.le_caret
  have hcaret := h.slot.caret_le
  rw [slotStart, h.startsWord_eq]
  by_cases hold : old = []
  · rw [if_pos (decide_eq_true hold)]
    simp only [hold, List.length_nil] at hcaret
    omega
  · rw [if_neg (by simpa using hold), wordStart, h.starts_eq, h.selected_eq]
    simp [slotWord, hold]

lemma slotStop_eq (h : line.IsSlot before old after vs us) :
    line.slotStop = before.length + old.length := by
  have hstart := h.slotStart_eq
  rw [slotStart, h.startsWord_eq] at hstart
  rw [slotStop, h.startsWord_eq]
  by_cases hold : old = []
  · rw [if_pos (decide_eq_true hold)] at hstart ⊢
    rw [hstart, hold]
    rfl
  · rw [if_neg (by simpa using hold)] at hstart ⊢
    rw [hstart, wordLength, h.words_eq, h.selected_eq]
    simp [slotWord, hold]

lemma fill_eq (h : line.IsSlot before old after vs us) (word : String) :
    line.fill word = .ofList (before ++ (word.toList ++ after)) := by
  rw [fill, h.slotStart_eq, h.slotStop_eq, h.text_eq, List.take_left, ← List.drop_drop,
    List.drop_left, List.drop_left, List.append_assoc]

lemma fillWords_eq (h : line.IsSlot before old after vs us) (word : String) :
    line.fillWords word = vs.map (fun w => String.ofList w.chars) ++
      word :: us.map fun w => String.ofList w.chars := by
  have hlength : line.selected = (vs.map fun w => String.ofList w.chars).length := by
    rw [h.selected_eq, List.length_map]
  rw [fillWords, h.words_eq, hlength, h.startsWord_eq, List.map_append]
  by_cases hold : old = []
  · rw [if_pos (decide_eq_true hold), slotWord, if_pos hold, insertIdx_length_append]
    rfl
  · rw [if_neg (by simpa using hold)]
    simp [slotWord, hold]

/-- The slot lies within the line. -/
lemma slotStop_le (h : line.IsSlot before old after vs us) :
    line.slotStart ≤ line.slotStop ∧ line.slotStop ≤ line.text.toList.length := by
  rw [h.slotStart_eq, h.slotStop_eq, h.text_eq]
  simp only [List.length_append]
  omega

end IsSlot

variable {text word : String} {caret : Nat}

/-- The words before the slot, the word in it if there is one, and the words after it. -/
lemma exists_parts (text : String) (caret : Nat) :
    ∃ xs ys, xs.length = (parse text caret).selected ∧
      (parse text caret).words = xs ++ ((parse text caret).selectedWord.toList ++ ys) ∧
      (∀ word, (parse text caret).fillWords word = xs ++ word :: ys) ∧
      ((parse text caret).startsWord = false →
        ∃ word, (parse text caret).selectedWord = some word ∧ word ≠ "") := by
  obtain ⟨before, old, after, vs, us, h⟩ := exists_isSlot text caret
  refine ⟨_, _, ?_, ?_, h.fillWords_eq, ?_⟩
  · rw [h.selected_eq, List.length_map]
  · rw [selectedWord, h.startsWord_eq, h.words_eq, h.selected_eq]
    by_cases hold : old = [] <;> simp [slotWord, hold]
  · intro hstarts
    have hold : old ≠ [] := by simpa [h.startsWord_eq] using hstarts
    refine ⟨.ofList old, ?_, ?_⟩
    · rw [selectedWord, hstarts, h.words_eq, h.selected_eq]
      simp [slotWord, hold]
    · rw [Ne, ← String.toList_inj, String.toList_ofList]
      exact hold

/-- A word put into the slot takes the place of what was there, and the other words stay. -/
lemma words_fill (hword : StandsAlone word.toList) (text : String) (caret caret' : Nat) :
    (parse ((parse text caret).fill word) caret').words = (parse text caret).fillWords word := by
  obtain ⟨before, old, after, vs, us, h⟩ := exists_isSlot text caret
  obtain ⟨us', hcut, hchars⟩ := h.slot.cut hword
  have htext : ((parse text caret).fill word).toList = before ++ (word.toList ++ after) := by
    rw [h.fill_eq, String.toList_ofList]
  have hus : us'.map (fun w => String.ofList w.chars) =
      us.map fun w => String.ofList w.chars := by
    have := congrArg (List.map String.ofList) hchars
    rwa [List.map_map, List.map_map] at this
  rw [← htext] at hcut
  rw [words_parse_of_cut hcut, h.fillWords_eq, List.map_append, List.map_cons, hus,
    String.ofList_toList]

/-- The word put into the slot has the index of the slot. -/
lemma getElem?_fillWords (text : String) (caret : Nat) (word : String) :
    ((parse text caret).fillWords word)[(parse text caret).selected]? = some word := by
  obtain ⟨before, old, after, vs, us, h⟩ := exists_isSlot text caret
  rw [h.fillWords_eq, h.selected_eq]
  simp

lemma length_take_slotStart (text : String) (caret : Nat) :
    (text.toList.take (parse text caret).slotStart).length = (parse text caret).slotStart := by
  obtain ⟨before, old, after, vs, us, h⟩ := exists_isSlot text caret
  exact List.length_take_of_le (h.slotStop_le.1.trans h.slotStop_le.2)

/-- A caret after the word in the slot is at the end of this word, whose index is that of the slot.
-/
lemma spot_fill (hword : StandsAlone word.toList) (text : String) (caret : Nat) :
    let line := parse text caret
    let filled := parse (line.fill word) (line.slotStart + word.length)
    filled.selected = line.selected ∧ filled.caretInWord = word.length ∧
      filled.startsWord = false := by
  intro line filled
  obtain ⟨before, old, after, vs, us, h⟩ := exists_isSlot text caret
  obtain ⟨us', hcut, -⟩ := h.slot.cut hword
  have htext : (line.fill word).toList = before ++ (word.toList ++ after) := by
    rw [h.fill_eq, String.toList_ofList]
  have hsplit : Word.split (line.fill word).toList =
      vs ++ ⟨before.length, word.toList⟩ :: us' := by
    rw [htext, cut_iff_split_eq.mp hcut, Nat.zero_add]
  have hcaret : min (line.slotStart + word.length) (line.fill word).length =
      before.length + word.toList.length := by
    rw [h.slotStart_eq, ← String.length_toList (s := line.fill word), htext,
      ← String.length_toList (s := word)]
    simp only [List.length_append]
    omega
  have hbefore : ∀ v ∈ vs, v.stop < before.length + word.toList.length := by
    intro v hv
    have := h.slot.stop_lt v hv
    omega
  have hspot : Spot.find (min (line.slotStart + word.length) (line.fill word).length) 0
      (Word.split (line.fill word).toList) = ⟨vs.length, word.length, false⟩ := by
    rw [hcaret, hsplit, Spot.find_append 0 hbefore, Nat.zero_add, Spot.find, if_neg (by simp),
      if_pos (by simp [Word.stop]), Nat.add_sub_cancel_left, String.length_toList]
  have hselected : line.selected = vs.length := h.selected_eq
  rw [hselected]
  simp only [filled, parse, hspot, and_self]

end Line

end LineShell
