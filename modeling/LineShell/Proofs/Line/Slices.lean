import LineShell.Line.Basic
import LineShell.Proofs.Line.Cut
import Mathlib.Data.List.Chain

/-!
# The words of a line as slices of it

`WordSlices` says by places alone which slices of a text are its words, with no mention of how they
are found. It holds of one list of words only, and that list is the one that `Line.parse` gives
(`Line.parse_slices_unique`).
-/

namespace LineShell

open Text

/-- A word that is a slice of a text, cut where words are cut. -/
structure IsSlice (text : List Char) (w : Word) : Prop where
  ne_nil : w.chars ≠ []
  eq_take : w.chars = (text.drop w.start).take w.chars.length
  /-- It does not begin with a blank. -/
  head : ∀ c, w.chars.head? = some c → isBlank c = false
  /-- Its blanks stand where a span has been opened and not closed again. -/
  inside : ∀ i c, w.chars[i]? = some c → isBlank c → ¬ SpansClosed (w.chars.take i)
  /-- If its last span is never closed, it ends with the text. -/
  stop : ¬ SpansClosed w.chars → w.stop = text.length

/-- All the words of a text, in order. -/
structure WordSlices (text : List Char) (ws : List Word) : Prop where
  increasing : (ws.map Word.start).Pairwise (· < ·)
  slices : ∀ w ∈ ws, IsSlice text w
  /-- What belongs to no word is a blank. -/
  outside : ∀ i c, text[i]? = some c → (∀ w ∈ ws, ¬ (w.start ≤ i ∧ i < w.stop)) → isBlank c
  /-- Something stands between a word and the next one. -/
  apart : ws.IsChain fun v w => v.stop < w.start

/-! ### One slice -/

lemma IsSlice.unbroken {text : List Char} {w : Word} (h : IsSlice text w) :
    Quoting.bare.Unbroken w.chars :=
  Quoting.unbroken_iff.mpr h.inside

lemma IsSlice.start_lt {text : List Char} {w : Word} (h : IsSlice text w) :
    w.start < text.length := by
  by_contra hlt
  have hnil := h.eq_take
  rw [List.drop_eq_nil_of_le (by omega), List.take_nil] at hnil
  exact h.ne_nil hnil

lemma IsSlice.drop_start {text : List Char} {w : Word} (h : IsSlice text w) :
    text.drop w.start = w.chars ++ text.drop w.stop := by
  conv_lhs => rw [← List.take_append_drop w.chars.length (text.drop w.start)]
  rw [← h.eq_take, List.drop_drop, Word.stop]

/-- With nothing but blanks before a slice, the text is these blanks, the slice, and the rest. -/
lemma IsSlice.exists_gap {text : List Char} {w : Word} {p : Nat} (h : IsSlice text w)
    (hp : p ≤ w.start)
    (hgap : ∀ i c, p ≤ i → i < w.start → text[i]? = some c → isBlank c) :
    ∃ gap, (∀ c ∈ gap, isBlank c) ∧ text.drop p = gap ++ (w.chars ++ text.drop w.stop) ∧
      w.start = p + gap.length := by
  refine ⟨(text.drop p).take (w.start - p), fun c hc => ?_, ?_, ?_⟩
  · obtain ⟨i, hi⟩ := List.mem_iff_getElem?.mp hc
    rw [List.getElem?_take] at hi
    split at hi
    · rename_i hlt
      rw [List.getElem?_drop] at hi
      exact hgap (p + i) c (Nat.le_add_right _ _) (by omega) hi
    · cases hi
  · rw [← h.drop_start]
    conv_lhs => rw [← List.take_append_drop (w.start - p) (text.drop p)]
    rw [List.drop_drop, Nat.add_sub_cancel' hp]
  · have := h.start_lt
    simp only [List.length_take, List.length_drop]
    omega

/-- An unbroken part of a text is a slice of it, if it is closed or the last one. -/
lemma isSlice_of_drop_eq {text w rest : List Char} {p : Nat} (htext : text.drop p = w ++ rest)
    (hne : w ≠ []) (hw : Quoting.bare.Unbroken w) (hend : SpansClosed w ∨ rest = []) :
    IsSlice text ⟨p, w⟩ where
  ne_nil := hne
  eq_take := by simp [htext]
  head c hc := by
    obtain ⟨r, rfl⟩ : ∃ r, w = c :: r := by simpa [List.head?_eq_some_iff] using hc
    exact (Quoting.unbroken_cons.mp hw).1 rfl
  inside := Quoting.unbroken_iff.mp hw
  stop hopen := by
    obtain rfl := hend.resolve_left hopen
    have hlen := congrArg List.length htext
    have hpos := List.length_pos_iff.mpr hne
    simp only [List.length_drop, List.append_nil] at hlen
    simp only [Word.stop]
    omega

/-! ### Slices from some place on -/

/-- The words of what stands in a text from a place on. -/
private structure SlicesFrom (text : List Char) (p : Nat) (ws : List Word) : Prop where
  le_start : ∀ w ∈ ws, p ≤ w.start
  slices : ∀ w ∈ ws, IsSlice text w
  outside : ∀ i c, p ≤ i → text[i]? = some c → (∀ w ∈ ws, ¬ (w.start ≤ i ∧ i < w.stop)) →
    isBlank c
  apart : ws.IsChain fun v w => v.stop < w.start

/-- The places of all words in a chain come after the end of the first one. -/
private lemma stop_lt_start {w : Word} {ws : List Word}
    (h : (w :: ws).IsChain fun v w => v.stop < w.start) : ∀ v ∈ ws, w.stop < v.start := by
  induction ws generalizing w with
  | nil => simp
  | cons u ws ih =>
    obtain ⟨hwu, hu⟩ := List.isChain_cons_cons.mp h
    intro v hv
    rcases List.mem_cons.mp hv with rfl | hv
    · exact hwu
    · have huv := ih hu v hv
      simp only [Word.stop] at *
      omega

private lemma wordSlices_iff {text : List Char} {ws : List Word} :
    WordSlices text ws ↔ SlicesFrom text 0 ws := by
  constructor
  · intro h
    exact ⟨fun _ _ => Nat.zero_le _, h.slices, fun i c _ => h.outside i c, h.apart⟩
  · intro h
    refine ⟨?_, h.slices, fun i c => h.outside i c (Nat.zero_le i), h.apart⟩
    have hlt : (ws.map Word.start).IsChain (· < ·) := by
      rw [List.isChain_map]
      exact h.apart.imp fun v w hvw => by simp only [Word.stop] at hvw; omega
    exact List.isChain_iff_pairwise.mp hlt

private lemma slicesFrom_nil_iff {text : List Char} {p : Nat} :
    SlicesFrom text p [] ↔ ∀ i c, p ≤ i → text[i]? = some c → isBlank c := by
  constructor
  · intro h i c hi hc
    exact h.outside i c hi hc (by simp)
  · intro h
    exact ⟨by simp, by simp, fun i c hi hc _ => h i c hi hc, .nil⟩

/-- The first word has blanks before it and a blank after it, and the other words come after that
one. -/
private lemma slicesFrom_cons_iff {text : List Char} {p : Nat} {w : Word} {ws : List Word} :
    SlicesFrom text p (w :: ws) ↔ p ≤ w.start ∧ IsSlice text w ∧
      (∀ i c, p ≤ i → i < w.start → text[i]? = some c → isBlank c) ∧
      (∀ c, text[w.stop]? = some c → isBlank c) ∧ SlicesFrom text (w.stop + 1) ws := by
  have hle : w.start ≤ w.stop := Nat.le_add_right _ _
  constructor
  · intro h
    obtain ⟨hp, -⟩ := List.forall_mem_cons.mp h.le_start
    obtain ⟨hw, hws⟩ := List.forall_mem_cons.mp h.slices
    have hafter := stop_lt_start h.apart
    refine ⟨hp, hw, fun i c hi hlt hc => ?_, fun c hc => ?_, hafter, hws,
      fun i c hi hc hout => ?_, (List.isChain_cons.mp h.apart).2⟩
    · refine h.outside i c hi hc (List.forall_mem_cons.mpr ⟨by omega, fun v hv => ?_⟩)
      have := hafter v hv
      omega
    · refine h.outside w.stop c (by omega) hc (List.forall_mem_cons.mpr ⟨by omega, fun v hv => ?_⟩)
      have := hafter v hv
      omega
    · exact h.outside i c (by omega) hc (List.forall_mem_cons.mpr ⟨by omega, hout⟩)
  · rintro ⟨hp, hw, hgap, hstop, hrest⟩
    refine ⟨List.forall_mem_cons.mpr ⟨hp, fun v hv => ?_⟩,
      List.forall_mem_cons.mpr ⟨hw, hrest.slices⟩, fun i c hi hc hout => ?_,
      List.isChain_cons.mpr ⟨fun v hv => hrest.le_start v (List.mem_of_mem_head? hv), hrest.apart⟩⟩
    · have := hrest.le_start v hv
      omega
    · -- the place lies before the word, right after it or further on
      obtain ⟨hnot, hout⟩ := List.forall_mem_cons.mp hout
      by_cases hbefore : i < w.start
      · exact hgap i c hi hbefore hc
      · rcases Nat.eq_or_lt_of_le (show w.stop ≤ i by omega) with rfl | hlt
        · exact hstop c hc
        · exact hrest.outside i c hlt hc hout

/-! ### Cuts and slices -/

/-- What stands at a place of a text, where the text is known from an earlier place on. -/
private lemma getElem?_of_drop_eq {text cs : List Char} {p i : Nat} (h : text.drop p = cs)
    (hi : p ≤ i) : text[i]? = cs[i - p]? := by
  rw [← h, List.getElem?_drop, Nat.add_sub_cancel' hi]

private lemma mem_of_drop_eq {text gap rest : List Char} {p i : Nat} {c : Char}
    (h : text.drop p = gap ++ rest) (hi : p ≤ i) (hlt : i < p + gap.length)
    (hc : text[i]? = some c) : c ∈ gap := by
  rw [getElem?_of_drop_eq h hi, List.getElem?_append_left (by omega)] at hc
  exact List.mem_of_getElem? hc

/-- A cut gives slices. -/
private lemma Cut.slicesFrom {text cs : List Char} {p : Nat} {ws : List Word} (h : Cut p cs ws)
    (htext : text.drop p = cs) : SlicesFrom text p ws := by
  induction h with
  | @blank p gap hgap =>
    refine slicesFrom_nil_iff.mpr fun i c hi hc => hgap c ?_
    rw [getElem?_of_drop_eq htext hi] at hc
    exact List.mem_of_getElem? hc
  | @last p gap w hgap hne hw =>
    have hdrop : text.drop (p + gap.length) = w ++ [] := by
      rw [← List.drop_drop, htext, List.drop_left, List.append_nil]
    have hend : text.drop (p + gap.length + w.length) = [] := by
      rw [← List.drop_drop, hdrop, List.drop_left]
    have hnone : ∀ i c, p + gap.length + w.length ≤ i → text[i]? = some c → isBlank c := by
      intro i c hi hc
      rw [getElem?_of_drop_eq hend hi] at hc
      cases hc
    exact slicesFrom_cons_iff.mpr ⟨Nat.le_add_right _ _, isSlice_of_drop_eq hdrop hne hw (.inr rfl),
      fun i c hi hlt hc => hgap c (mem_of_drop_eq htext hi hlt hc), fun c => hnone _ c le_rfl,
      slicesFrom_nil_iff.mpr fun i c hi => hnone i c (Nat.le_of_succ_le hi)⟩
  | @word p gap w b rest ws hgap hne hw hclosed hb _ ih =>
    have hdrop : text.drop (p + gap.length) = w ++ b :: rest := by
      rw [← List.drop_drop, htext, List.drop_left]
    have hstop : text.drop (p + gap.length + w.length) = b :: rest := by
      rw [← List.drop_drop, hdrop, List.drop_left]
    have hrest : text.drop (p + gap.length + w.length + 1) = rest := by
      rw [← List.drop_drop, hstop, List.drop_succ_cons, List.drop_zero]
    refine slicesFrom_cons_iff.mpr ⟨Nat.le_add_right _ _,
      isSlice_of_drop_eq hdrop hne hw (.inl hclosed),
      fun i c hi hlt hc => hgap c (mem_of_drop_eq htext hi hlt hc), fun c hc => ?_, ih hrest⟩
    rw [Word.stop, getElem?_of_drop_eq hstop le_rfl, Nat.sub_self] at hc
    obtain rfl : b = c := by simpa using hc
    exact hb

/-- Slices give a cut. -/
private lemma SlicesFrom.cut {text : List Char} {p : Nat} {ws : List Word}
    (h : SlicesFrom text p ws) : Cut p (text.drop p) ws := by
  induction ws generalizing p with
  | nil =>
    refine .blank fun c hc => ?_
    obtain ⟨i, hi⟩ := List.mem_iff_getElem?.mp hc
    rw [List.getElem?_drop] at hi
    exact slicesFrom_nil_iff.mp h (p + i) c (Nat.le_add_right _ _) hi
  | cons w ws ih =>
    obtain ⟨hp, hw, hbefore, hstop, hrest⟩ := slicesFrom_cons_iff.mp h
    obtain ⟨gap, hgap, hdrop, hstart⟩ := hw.exists_gap hp hbefore
    obtain ⟨start, w⟩ := w
    obtain rfl : start = p + gap.length := hstart
    rw [hdrop]
    cases hafter : text.drop (p + gap.length + w.length) with
    | nil =>
      -- a further word would start past the end
      have hnil : ws = [] := by
        refine List.eq_nil_iff_forall_not_mem.mpr fun v hv => ?_
        have hlt := (hrest.slices v hv).start_lt
        have hle := List.drop_eq_nil_iff.mp hafter
        have := hrest.le_start v hv
        simp only [Word.stop] at this
        omega
      subst hnil
      rw [Word.stop, hafter, List.append_nil]
      exact .last hgap hw.ne_nil hw.unbroken
    | cons b rest =>
      have hb : text[p + gap.length + w.length]? = some b := by
        rw [getElem?_of_drop_eq hafter le_rfl, Nat.sub_self, List.getElem?_cons_zero]
      have hclosed : SpansClosed w := by
        by_contra hopen
        have hend := hw.stop hopen
        rw [Word.stop] at hend
        simp [hend] at hafter
      have hcut := ih hrest
      rw [Word.stop, ← List.drop_drop, hafter, List.drop_succ_cons, List.drop_zero] at hcut
      rw [Word.stop, hafter]
      exact .word hgap hw.ne_nil hw.unbroken hclosed (hstop b hb) hcut

/-- The words that a line is cut into are slices of it. -/
lemma wordSlices_split (text : List Char) : WordSlices text (Word.split text) :=
  wordSlices_iff.mpr ((cut_iff_split_eq.mpr rfl).slicesFrom rfl)

/-- The words of a line and their places make up the only list of slices of it that are words with
nothing but blanks around them. -/
theorem Line.parse_slices_unique (text : String) (caret : Nat) :
    ∃ ws : List Word, (Line.parse text caret).starts = ws.map Word.start ∧
      (Line.parse text caret).words = ws.map (fun w => String.ofList w.chars) ∧
      ∀ vs, WordSlices text.toList vs ↔ vs = ws := by
  refine ⟨Word.split text.toList, rfl, rfl, fun vs => ?_⟩
  rw [wordSlices_iff, eq_comm, ← cut_iff_split_eq]
  exact ⟨fun h => h.cut, fun h => h.slicesFrom rfl⟩

/-! ### Texts that are one word -/

namespace Line

variable {text word : String} {caret : Nat}

/-- A word of a line is not empty, and no blank breaks it. -/
lemma unbroken_of_mem_words (h : word ∈ (parse text caret).words) :
    word ≠ "" ∧ Quoting.bare.Unbroken word.toList := by
  obtain ⟨w, hw, rfl⟩ := List.mem_map.mp h
  have hslice := (wordSlices_split text.toList).slices w hw
  rw [Ne, ← String.toList_inj, String.toList_ofList]
  exact ⟨hslice.ne_nil, hslice.unbroken⟩

/-- A text is its own and only word just if it is not empty and no blank breaks it. -/
theorem words_parse_eq_singleton_iff :
    (parse text caret).words = [text] ↔ text ≠ "" ∧ Quoting.bare.Unbroken text.toList := by
  constructor
  · intro h
    exact unbroken_of_mem_words (h ▸ List.mem_singleton_self text)
  · rintro ⟨hne, hunbroken⟩
    have hcut : Cut 0 ([] ++ text.toList) [⟨0 + ([] : List Char).length, text.toList⟩] :=
      .last (List.forall_mem_nil _) (by simpa using hne) hunbroken
    have hsplit : Word.split text.toList = [⟨0, text.toList⟩] := cut_iff_split_eq.mp hcut
    simp only [parse, hsplit, List.map_cons, List.map_nil, String.ofList_toList]

end Line

end LineShell
