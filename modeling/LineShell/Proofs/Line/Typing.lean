import LineShell.Proofs.Line.Caret

/-!
# Typing at the caret

Where the caret lies outside all words, a word that is typed there becomes the word of the selected
index, and all others stay, those after it further to the right (`Line.parse_typed`).

While a word is typed, what comes after the caret plays no part: the words before the selected one,
its index and what stands in it before the caret are those of a line that ends at the caret
(`Line.front_eq_of_take_eq`).
-/

namespace LineShell

variable {p caret : Nat} {w before old after : List Char} {vs us : List Word}

/-- A word typed into an empty slot: the words after it move by its length. -/
lemma Slot.cut_typed (h : Slot p caret before [] after vs us) (hw : StandsAlone w) :
    Cut p (before ++ (w ++ after))
      (vs ++ ⟨p + before.length, w⟩ :: us.map (Word.shift w.length)) :=
  h.delimits _ _ (hw.cut h.apart (h.rest.shift w.length))

/-- The characters up to the caret have their slot where it was, and nothing after it. -/
lemma Slot.cutOff (h : Slot p caret before old after vs us) :
    Slot p caret before (old.take (caret - (p + before.length))) [] vs [] where
  delimits := h.delimits
  stop_lt := h.stop_lt
  apart := startsApart_nil
  rest := .blank (List.forall_mem_nil _)
  le_caret := h.le_caret
  caret_le := by
    have hle := h.le_caret
    have hcaret := h.caret_le
    rw [List.length_take]
    omega
  lt_start := List.forall_mem_nil _

/-- What no blank breaks is one word, if there is something. -/
lemma cut_slotWord (hw : Quoting.bare.Unbroken w) (p : Nat) : Cut p w (slotWord p w) := by
  rw [slotWord]
  split
  · rename_i hnil
    rw [hnil]
    exact .blank (List.forall_mem_nil _)
  · rename_i hne
    exact .last (List.forall_mem_nil _) hne hw

namespace Line

variable {text text' word : String}

/-! ### A word typed between words -/

/-- A text is a word wherever it is put if it is its own only word and opens no span that it does
not close. -/
lemma standsAlone_of_words_parse (h : (parse word caret).words = [word])
    (hclosed : SpansClosed word.toList) : StandsAlone word.toList := by
  obtain ⟨hne, hunbroken⟩ := words_parse_eq_singleton_iff.mp h
  exact ⟨by simpa using hne, hunbroken, hclosed⟩

/-- The text with a word put in where the caret is. -/
def typed (line : Line) (word : String) : String :=
  .ofList (line.text.toList.take line.caret ++ word.toList ++ line.text.toList.drop line.caret)

lemma fill_of_startsWord {line : Line} (h : line.startsWord = true) (word : String) :
    line.fill word = line.typed word := by
  rw [fill, slotStart, slotStop, if_pos h, if_pos h, typed]

/-- A word that is typed outside all words gets the selected index. It stands where the caret was,
and the caret stands at its end. The words before it stay as they are; those after it do too, but
for their places, which move by its length. -/
theorem parse_typed {caret' : Nat} (hstarts : (parse text caret).startsWord = true)
    (hword : (parse word caret').words = [word]) (hclosed : SpansClosed word.toList) :
    let line := parse text caret
    let line' := parse (line.typed word) (line.caret + word.length)
    line'.words = line.words.take line.selected ++ word :: line.words.drop line.selected ∧
      line'.starts = line.starts.take line.selected ++
        line.caret :: (line.starts.drop line.selected).map (· + word.length) ∧
      line'.selected = line.selected ∧ line'.caretInWord = word.length ∧
      line'.startsWord = false := by
  intro line line'
  have hword := standsAlone_of_words_parse hword hclosed
  obtain ⟨before, old, after, vs, us, h⟩ := exists_isSlot text caret
  obtain rfl : old = [] := of_decide_eq_true (h.startsWord_eq.symm.trans hstarts)
  have hstart : line.caret = before.length := by
    rw [← h.slotStart_eq, slotStart, if_pos hstarts]
  have hsplit : Word.split (line.typed word).toList =
      vs ++ ⟨before.length, word.toList⟩ :: us.map (Word.shift word.length) := by
    rw [← fill_of_startsWord hstarts, h.fill_eq, String.toList_ofList,
      cut_iff_split_eq.mp (h.slot.cut_typed hword), Nat.zero_add, String.length_toList]
  have hwords : line.words = vs.map (fun w => String.ofList w.chars) ++
      us.map fun w => String.ofList w.chars := h.words_eq.trans List.map_append
  have hplaces : line.starts = vs.map Word.start ++ us.map Word.start :=
    h.starts_eq.trans List.map_append
  have hselected : line.selected = vs.length := h.selected_eq
  refine ⟨?_, ?_, ?_⟩
  · rw [hwords, hselected, List.take_left' (List.length_map _), List.drop_left' (List.length_map _)]
    simp only [line', parse, hsplit, List.map_append, List.map_cons, List.map_map,
      String.ofList_toList]
    rfl
  · rw [hplaces, hselected, List.take_left' (List.length_map _),
      List.drop_left' (List.length_map _), hstart]
    simp only [line', parse, hsplit, List.map_append, List.map_cons, List.map_map]
    rfl
  · have hspot := spot_fill hword text caret
    dsimp only at hspot
    rw [fill_of_startsWord hstarts, slotStart, if_pos hstarts] at hspot
    exact hspot

/-- A word with a span in it, typed between two words. -/
theorem parse_typed_between :
    let line := parse "say  \"a b\" x" 4
    let line' := parse (line.typed "\"p q\"r") 10
    line.startsWord = true ∧ (parse "\"p q\"r" 0).words = ["\"p q\"r"] ∧
      SpansClosed "\"p q\"r".toList ∧ line.selected = 1 ∧
      line'.words = ["say", "\"p q\"r", "\"a b\"", "x"] ∧ line'.starts = [0, 4, 11, 17] ∧
      line'.selected = 1 ∧ line'.caretInWord = 6 ∧ line'.startsWord = false := by
  intro line line'
  have hstarts : line.startsWord = true := by decide
  have hword : (parse "\"p q\"r" 0).words = ["\"p q\"r"] := by decide
  have hclosed : SpansClosed "\"p q\"r".toList := Quoting.run_eq_bare_iff.mp (by decide)
  obtain ⟨hwords, hplaces, hselected, hoffset, hinside⟩ := parse_typed hstarts hword hclosed
  exact ⟨hstarts, hword, hclosed, by decide, hwords.trans (by decide), hplaces.trans (by decide),
    hselected.trans (by decide), hoffset, hinside⟩

/-! ### What comes after the caret -/

/-- What a line shows of the part before the caret: the words before the selected one and their
places, the index that is selected, and what stands in this word before the caret. -/
structure Front where
  words : List String
  starts : List Nat
  selected : Nat
  caretInWord : Nat
  fragment : String
  deriving DecidableEq

/-- The part before the caret. -/
def front (line : Line) : Front where
  words := line.words.take line.selected
  starts := line.starts.take line.selected
  selected := line.selected
  caretInWord := line.caretInWord
  fragment := line.fragment

/-- The index that the caret selects is that of the slot, and what stands in the word before the
caret is what stands between the start of the slot and the caret. -/
lemma fragment_parse (hsplit : Word.split text.toList = vs ++ (slotWord before.length old ++ us))
    (htext : text.toList = before ++ (old ++ after))
    (h : Slot 0 (min caret text.length) before old after vs us) :
    (parse text caret).selected = vs.length ∧
      (parse text caret).caretInWord = min caret text.length - before.length ∧
      (parse text caret).fragment =
        .ofList ((text.toList.take caret).drop before.length) := by
  have htake : text.toList.take caret = text.toList.take (min caret text.length) := by
    rw [List.take_eq_take_min, String.length_toList]
  by_cases hold : old = []
  · subst hold
    have houtside := caretOutside_of_slot hsplit h
    have hfind := h.find_eq 0
    rw [if_pos rfl, Nat.zero_add, Nat.zero_add, ← hsplit] at hfind
    have hcaret : min caret text.length = before.length := by
      have hle := h.le_caret
      have hplace := h.caret_le
      simp only [Nat.zero_add, List.length_nil, Nat.add_zero] at hle hplace
      omega
    refine ⟨(spot_parse hfind).1, ?_, ?_⟩
    · rw [houtside.caretInWord, hcaret, Nat.sub_self]
    · rw [houtside.fragment, htake, hcaret, List.drop_of_length_le (List.length_take_le _ _),
        String.ofList_nil]
  · have hword : Word.split text.toList = vs ++ ⟨before.length, old⟩ :: us := by
      rw [hsplit, slotWord, if_neg hold, List.singleton_append]
    have hinside := caretInWord_of_slot hword htext hold h
    have hstart : (parse text caret).wordStart vs.length = before.length := by
      refine wordStart_parse (w := ⟨before.length, old⟩) ?_ caret
      rw [hword, List.getElem?_append_right le_rfl, Nat.sub_self, List.getElem?_cons_zero]
    refine ⟨hinside.selected, ?_, ?_⟩
    · rw [hinside.caretInWord, hstart]
      rfl
    · rw [← String.toList_inj, String.toList_ofList, hinside.fragment, hstart, htake]
      rfl

/-- The part before the caret is told by the words before the slot, by where the slot begins and by
the characters up to the caret. -/
lemma front_parse (hsplit : Word.split text.toList = vs ++ (slotWord before.length old ++ us))
    (htext : text.toList = before ++ (old ++ after))
    (h : Slot 0 (min caret text.length) before old after vs us) :
    (parse text caret).front =
      { words := vs.map fun w => String.ofList w.chars
        starts := vs.map Word.start
        selected := vs.length
        caretInWord := min caret text.length - before.length
        fragment := .ofList ((text.toList.take caret).drop before.length) } := by
  obtain ⟨hselected, hoffset, hfragment⟩ := fragment_parse hsplit htext h
  rw [front, hselected, hoffset, hfragment]
  simp only [parse, hsplit, List.map_append, List.take_left' (List.length_map _)]

/-- What stands in the slot is not broken. -/
lemma unbroken_of_split
    (hsplit : Word.split text.toList = vs ++ (slotWord before.length old ++ us)) :
    Quoting.bare.Unbroken old := by
  by_cases hold : old = []
  · rw [hold]
    exact Quoting.unbroken_nil _
  · have hmem : (⟨before.length, old⟩ : Word) ∈ Word.split text.toList := by
      rw [hsplit, slotWord, if_neg hold]
      simp
    exact ((wordSlices_split text.toList).slices _ hmem).unbroken

/-- With its end at the caret, a text has the slot where it was, and the words before it. -/
lemma exists_slot_take (hsplit : Word.split text.toList = vs ++ (slotWord before.length old ++ us))
    (htext : text.toList = before ++ (old ++ after))
    (h : Slot 0 (min caret text.length) before old after vs us) :
    ∃ kept, Slot 0 (min caret text.length) before kept [] vs [] ∧
      text.toList.take caret = before ++ (kept ++ []) ∧
      Word.split (text.toList.take caret) = vs ++ (slotWord before.length kept ++ []) := by
  have hle := h.le_caret
  have hcaret := h.caret_le
  have hslot := h.cutOff
  have hunbroken := unbroken_of_split hsplit
  rw [Nat.zero_add] at hle hcaret hslot
  -- what is kept of the word is no more broken than the word itself
  rw [← List.take_append_drop (min caret text.length - before.length) old,
    Quoting.unbroken_append] at hunbroken
  have htake : text.toList.take caret =
      before ++ old.take (min caret text.length - before.length) := by
    rw [List.take_eq_take_min, String.length_toList, htext, List.take_append,
      List.take_of_length_le hle, List.take_append_of_le_length (by omega)]
  refine ⟨_, hslot, by rw [htake, List.append_nil], ?_⟩
  have hcut := h.delimits _ _ (cut_slotWord hunbroken.1 _)
  rw [Nat.zero_add] at hcut
  rw [htake, List.append_nil, cut_iff_split_eq.mp hcut]

/-- The same part is before the caret if the line ends there, and what stands before the caret in
the selected word is then the last word. -/
lemma front_parse_take (text : String) (caret : Nat) :
    let line := parse (.ofList (text.toList.take caret)) caret
    (parse text caret).front = line.front ∧
      (line.fragment ≠ "" → line.words.getLast? = some line.fragment) := by
  intro line
  obtain ⟨before, old, after, vs, us, hslot, htext, hsplit⟩ := exists_slot_split text caret
  obtain ⟨kept, hslot', htake, hsplit'⟩ := exists_slot_take hsplit htext hslot
  have hcaret : min caret (String.ofList (text.toList.take caret)).length =
      min caret text.length := by
    rw [String.length_ofList, List.length_take, String.length_toList]
    omega
  rw [← hcaret] at hslot'
  rw [← String.toList_ofList (l := text.toList.take caret)] at htake hsplit'
  have hfront := front_parse hsplit htext hslot
  have hfront' := front_parse hsplit' htake hslot'
  rw [hcaret, String.toList_ofList, List.take_take, Nat.min_self] at hfront'
  refine ⟨hfront.trans hfront'.symm, fun hne => ?_⟩
  have hfragment : line.fragment = .ofList kept := by
    rw [(fragment_parse hsplit' htake hslot').2.2, String.toList_ofList, List.take_take,
      Nat.min_self, ← String.toList_ofList (l := text.toList.take caret), htake, List.append_nil,
      List.drop_left]
  have hkept : kept ≠ [] := by
    rintro rfl
    exact hne (hfragment.trans String.ofList_nil)
  have hwords : line.words = vs.map (fun w => String.ofList w.chars) ++ [.ofList kept] := by
    simp only [line, parse, hsplit', slotWord, if_neg hkept, List.append_nil, List.map_append,
      List.map_singleton]
  rw [hwords, hfragment, List.getLast?_concat]

/-- What comes after the caret cannot be seen in the part before it, which is that of the line that
ends at the caret. What stands before the caret in the selected word, if anything, is the last word
of that line. -/
theorem front_eq_of_take_eq (h : text.toList.take caret = text'.toList.take caret) :
    let line := parse (.ofList (text.toList.take caret)) caret
    (parse text caret).front = (parse text' caret).front ∧ (parse text caret).front = line.front ∧
      (line.fragment ≠ "" → line.words.getLast? = some line.fragment) := by
  intro line
  obtain ⟨hfront, hlast⟩ := front_parse_take text caret
  obtain ⟨hfront', -⟩ := front_parse_take text' caret
  rw [← h] at hfront'
  exact ⟨hfront.trans hfront'.symm, hfront, hlast⟩

/-- The span around the caret is closed in one text and left open in the other. -/
theorem front_eq_of_take_eq_quoted :
    let text := "say \"a b\" x"
    let text' := "say \"acd e"
    let line := parse "say \"a" 6
    text.toList.take 6 = text'.toList.take 6 ∧ (parse text 6).words = ["say", "\"a b\"", "x"] ∧
      (parse text' 6).words = ["say", "\"acd e"] ∧ line.words = ["say", "\"a"] ∧
      (parse text 6).front = (parse text' 6).front ∧ (parse text 6).front = line.front ∧
      line.fragment = "\"a" ∧ line.words.getLast? = some line.fragment := by
  intro text text' line
  have htake : text.toList.take 6 = text'.toList.take 6 := by decide
  have hends : String.ofList (text.toList.take 6) = "say \"a" := by decide
  obtain ⟨hfront, hfront', hlast⟩ := front_eq_of_take_eq htake
  rw [hends] at hfront' hlast
  have hfragment : line.fragment = "\"a" := by decide
  exact ⟨htake, by decide, by decide, by decide, hfront, hfront', hfragment,
    hlast (hfragment ▸ by decide)⟩

end Line

end LineShell
