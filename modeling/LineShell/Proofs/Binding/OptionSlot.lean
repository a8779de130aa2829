import LineShell.Proofs.Binding.Name
import LineShell.Proofs.Binding.Roles
import LineShell.Proofs.Grammar.WellFormed
import LineShell.Proofs.Line.Slot
import LineShell.Shell.Structured
import Mathlib.Data.List.Find

/-!
# Another word at the caret of a bound line

A line whose word at the caret is replaced, or which gets one more word there, keeps the name that
it begins with where no name could go on at the caret (`matchingName?_congr`), and the words before
the new one settle its role (`bind_fill`). An empty slot has the role of the word that would be
typed there (`slotRole_eq`). And an option occurs as often as it does in the other words, and once
more if the new word is one of its forms, since what words count as options does not depend on the
words around them (`countP_elementsAfter`).
-/

namespace LineShell.Grammar

open Text

variable {g : Grammar} {line line' : Line} {words name : List String} {k : Nat}

/-! ### The name -/

lemma namePartMatches_iff (hk : k ≤ words.length) :
    namePartMatches words name k ↔ foldName (name.take k) <+: foldWords words := by
  have hle : (name.take k).length ≤ words.length := by
    rw [List.length_take]
    omega
  rw [foldName, foldWords, ← zip_agrees_iff_prefix, and_iff_right hle]
  simp [namePartMatches, eqIgnoringCase_iff]

/-- Whether a name with no more tokens than so many words stands at the beginning is settled by
these words. -/
lemma begins_iff_begins_take (words : List String) (hname : name.length ≤ k) :
    Begins name words ↔ Begins name (words.take k) := by
  have hfold : foldWords (words.take k) = (foldWords words).take k := List.map_take
  have hlength : (foldName name).length ≤ k := by rwa [foldName, List.length_map]
  rw [Begins, Begins, hfold, List.prefix_take_iff, and_iff_left hlength]

/-- A longer name than so many words agrees with these words where it stands at the beginning. -/
lemma Begins.namePartMatches (h : Begins name words) (hk : k ≤ words.length) :
    namePartMatches words name k := by
  have htake : foldName (name.take k) = (foldName name).take k := List.map_take
  rw [namePartMatches_iff hk, htake]
  exact (List.take_prefix k _).trans h.2

lemma namePartMatches_congr {words' : List String} (hk : k ≤ words.length)
    (hk' : k ≤ words'.length) (htake : words'.take k = words.take k) :
    namePartMatches words' name k ↔ namePartMatches words name k := by
  have hfold : ∀ ws : List String, (foldWords ws).take k = foldWords (ws.take k) :=
    fun ws => List.map_take.symm
  have hlength : (foldName (name.take k)).length ≤ k := by
    rw [foldName, List.length_map, List.length_take]
    exact Nat.min_le_left _ _
  rw [namePartMatches_iff hk, namePartMatches_iff hk', ← and_iff_left (a := _ <+: foldWords words')
    hlength, ← and_iff_left (a := _ <+: foldWords words) hlength, ← List.prefix_take_iff,
    ← List.prefix_take_iff, hfold, hfold, htake]

lemma nameSuggestions_eq_none_iff : g.nameSuggestions line = none ↔ g.openNames line = [] := by
  rw [nameSuggestions]
  cases g.openNames line <;> simp

lemma openNames_eq_nil_iff : g.openNames line = [] ↔
    ∀ name ∈ g.names, line.selected < name.length →
      ¬ namePartMatches line.words name line.selected := by
  simp [openNames, List.filter_eq_nil_iff]

/-- Where no name goes on at the caret, the words before the caret settle with which name a line
begins. -/
lemma matchingName?_congr (hopen : g.openNames line = [])
    (hle : line.selected ≤ line.words.length) (hle' : line.selected ≤ line'.words.length)
    (htake : line'.words.take line.selected = line.words.take line.selected) :
    g.matchingName? line' = g.matchingName? line := by
  refine List.find?_congr fun name hname => Bool.eq_iff_iff.mpr ?_
  rw [nameMatches_iff_begins, nameMatches_iff_begins]
  by_cases hlt : line.selected < name.length
  · have hnot := openNames_eq_nil_iff.mp hopen name hname hlt
    have hnot' := (namePartMatches_congr hle hle' htake).not.mpr hnot
    exact iff_of_false (fun h => hnot' (h.namePartMatches hle'))
      fun h => hnot (h.namePartMatches hle)
  · have hshort : name.length ≤ line.selected := by omega
    rw [begins_iff_begins_take line'.words hshort, begins_iff_begins_take line.words hshort,
      htake]

/-- Where no name goes on at the caret, the caret is past the name that the line begins with. -/
lemma length_le_selected (hopen : g.openNames line = []) (hle : line.selected ≤ line.words.length)
    (hname : g.matchingName? line = some name) : name.length ≤ line.selected := by
  by_contra hlt
  have hbegins := nameMatches_iff_begins.mp (List.find?_some hname)
  exact openNames_eq_nil_iff.mp hopen name (matchingName?_eq_some hname).1 (by omega)
    (hbegins.namePartMatches hle)

/-! ### Occurrences of options -/

/-- Whether a word is an occurrence of the option of an id, wherever it stands after the name. -/
def isOccurrence (g : Grammar) (id word : String) : Bool :=
  g.isOptionLike word && (g.optionWithForm? word).map (·.id) == some id

lemma roleAfter_beq_option (before : Option String) (word id : String) :
    (g.roleAfter before word == .option (some id)) = g.isOccurrence id word := by
  rw [roleAfter, isOccurrence]
  by_cases hlike : g.isOptionLike word
  · rw [if_pos hlike, hlike, Bool.true_and, Bool.eq_iff_iff, beq_iff_eq, beq_iff_eq,
      Role.option.injEq]
  · rw [if_neg hlike, Bool.eq_false_iff.mpr hlike, Bool.false_and]
    cases before.bind g.valueTaker? <;> rfl

lemma countP_elementsAfter (id : String) (before : Option String) (i : Nat) (words : List String) :
    (g.elementsAfter before i words).countP (·.role == .option (some id)) =
      words.countP (g.isOccurrence id) := by
  induction words generalizing before i with
  | nil => simp
  | cons word words ih =>
    rw [elementsAfter_cons, List.countP_cons, List.countP_cons, ih, roleAfter_beq_option]

/-- Indices beyond the words do not matter. -/
lemma countP_elementsAfter_of_lt (id : String) (before : Option String) {i : Nat} (hk : k < i)
    (words : List String) :
    (g.elementsAfter before i words).countP
      (fun e => e.role == .option (some id) && e.index != k) =
        words.countP (g.isOccurrence id) := by
  induction words generalizing before i with
  | nil => simp
  | cons word words ih =>
    have hne : (i != k) = true := by simpa using Nat.ne_of_gt hk
    rw [elementsAfter_cons, List.countP_cons, List.countP_cons, ih _ (Nat.lt_succ_of_lt hk),
      roleAfter_beq_option, hne, Bool.and_true]

lemma countP_elementsAfter_apart (id : String) (before : Option String) (i k : Nat)
    (words : List String) :
    (g.elementsAfter before i words).countP
      (fun e => e.role == .option (some id) && e.index != i + k) =
        (words.eraseIdx k).countP (g.isOccurrence id) := by
  induction words generalizing before i k with
  | nil => simp
  | cons word words ih =>
    cases k with
    | zero =>
      rw [elementsAfter_cons, List.countP_cons, Nat.add_zero,
        countP_elementsAfter_of_lt id _ (Nat.lt_succ_self i)]
      simp
    | succ k =>
      have hne : (i != i + (k + 1)) = true := by simp
      have hindex : i + (k + 1) = i + 1 + k := by omega
      rw [elementsAfter_cons, List.countP_cons, roleAfter_beq_option, hne, Bool.and_true, hindex,
        ih, List.eraseIdx_cons_succ, List.countP_cons]

/-- The elements that make up the name are no options. -/
lemma countP_nameElements (words : List String) {p : Element → Bool} (id : String)
    (hp : ∀ e, p e → e.role = .option (some id)) : (nameElements words).countP p = 0 := by
  refine List.countP_eq_zero.mpr fun e he hpe => ?_
  obtain ⟨i, hi, rfl⟩ := List.mem_mapIdx.mp he
  simpa using hp _ hpe

lemma countP_boundElements (line : Line) (n : Nat) (id : String) :
    (g.boundElements line n).countP (·.role == .option (some id)) =
      (line.words.drop n).countP (g.isOccurrence id) := by
  rw [boundElements, List.countP_append, countP_nameElements _ id fun e he => by simpa using he,
    Nat.zero_add, elements_read, countP_elementsAfter]

lemma countP_boundElements_apart (line : Line) {n : Nat} (hk : n ≤ k) (id : String) :
    (g.boundElements line n).countP (fun e => e.role == .option (some id) && e.index != k) =
      ((line.words.drop n).eraseIdx (k - n)).countP (g.isOccurrence id) := by
  obtain ⟨j, rfl⟩ := Nat.exists_eq_add_of_le hk
  rw [boundElements, List.countP_append, countP_nameElements _ id fun e he => by simp_all,
    Nat.zero_add, elements_read, countP_elementsAfter_apart, Nat.add_sub_cancel_left]

/-! ### The element at the caret -/

/-- Where each element is in the place of its index, it is found there. -/
lemma elementAt?_eq_getElem? {elements : List Element}
    (h : ∀ (i : Nat) (e : Element), elements[i]? = some e → e.index = i) (k : Nat) :
    elementAt? elements k = elements[k]? := by
  cases hk : elements[k]? with
  | none =>
    refine List.find?_eq_none.mpr fun e he hindex => ?_
    obtain ⟨i, hi⟩ := List.mem_iff_getElem?.mp he
    obtain rfl : i = k := (h i e hi).symm.trans (by simpa using hindex)
    rw [hk] at hi
    cases hi
  | some e =>
    obtain ⟨hlt, rfl⟩ := List.getElem?_eq_some_iff.mp hk
    refine List.find?_eq_some_iff_getElem.mpr ⟨by simp [h k _ hk], k, hlt, rfl, fun j hj => ?_⟩
    have hindex := h j _ (List.getElem?_eq_getElem (by omega))
    simp only [hindex, Bool.not_eq_true', beq_eq_false_iff_ne]
    omega

lemma getElem?_boundElements {n : Nat} (hn : n ≤ line.words.length) (k : Nat) :
    (g.boundElements line n)[k]? =
      line.words[k]?.map fun word => ⟨g.roleAt n line.words k word, word, k⟩ := by
  rw [boundElements_eq_mapIdx hn, List.getElem?_mapIdx]

lemma elementAt?_boundElements {n : Nat} (hn : n ≤ line.words.length) (k : Nat) :
    elementAt? (g.boundElements line n) k =
      line.words[k]?.map fun word => ⟨g.roleAt n line.words k word, word, k⟩ := by
  rw [elementAt?_eq_getElem? (fun i e he => ?_), getElem?_boundElements hn]
  rw [getElem?_boundElements hn] at he
  obtain ⟨word, -, rfl⟩ := Option.map_eq_some_iff.mp he
  rfl

/-- A word that is still to be typed is no option. -/
lemma slotRole_ne_option (g : Grammar) (line : Line) (elements : List Element)
    (owner : Option String) : g.slotRole line elements ≠ .option owner := by
  rw [slotRole]
  repeat' split
  all_goals nofun

/-! ### A word that is still to be typed -/

/-- The caret is between words, and the next word is the value of an option. -/
def PrecedesValue (line : Line) (elements : List Element) : Prop :=
  line.isBetweenWords ∧ ∃ id word i, elementAt? elements line.selected = some ⟨.value id, word, i⟩

/-- The option that takes the word after an element as its value. -/
def takerAt? (g : Grammar) : Option Element → Option OptionGrammar
  | some ⟨.option (some id), _, _⟩ => (g.option? id).filter (·.acceptsValue)
  | _ => none

/-- The role of a word that is no option, by the option that takes it as its value if there is
one. -/
def roleOf : Option OptionGrammar → Role
  | some o => .value o.id
  | none => .argument

lemma roleAfter_of_not_isOptionLike {word : String} (h : g.isOptionLike word = false)
    (before : Option String) : g.roleAfter before word = roleOf (before.bind g.valueTaker?) := by
  rw [roleAfter, h, if_neg Bool.false_ne_true]
  cases before.bind g.valueTaker? <;> rfl

/-- An element takes a value just where its word does. -/
lemma takerAt?_roleAfter (hg : g.WellFormed) (before : Option String) (word : String) (i : Nat) :
    g.takerAt? (some ⟨g.roleAfter before word, word, i⟩) = g.valueTaker? word := by
  by_cases hlike : g.isOptionLike word
  · rw [roleAfter_of_isOptionLike hlike, valueTaker?_of_isOptionLike hlike]
    cases ho : g.optionWithForm? word with
    | none => rfl
    | some o =>
      rw [Option.map_some, takerAt?, hg.option?_eq (List.mem_of_find?_eq_some ho)]
  · have hlike : g.isOptionLike word = false := by simpa using hlike
    rw [valueTaker?_of_not_isOptionLike hlike, roleAfter_of_not_isOptionLike hlike]
    cases before.bind g.valueTaker? <;> rfl

lemma slotRole_of_not_precedesValue {elements : List Element}
    (h : ¬ PrecedesValue line elements) :
    g.slotRole line elements = roleOf (g.takerAt?
      (if line.selected = 0 then none else elementAt? elements (line.selected - 1))) := by
  rw [slotRole]
  generalize (if line.selected = 0 then none else elementAt? elements (line.selected - 1)) = before
  match before with
  | some ⟨.option (some id), _, _⟩ =>
    simp only [takerAt?]
    cases g.option? id with
    | none => rfl
    | some o =>
      cases ha : o.acceptsValue with
      | false => simp [Option.filter, ha, roleOf]
      | true =>
        simp only [Bool.true_and, Option.filter, ha, if_true]
        refine if_pos ?_
        rw [Bool.not_eq_true', Bool.and_eq_false_imp]
        intro hbetween
        split
        · rename_i id word i he
          exact absurd ⟨hbetween, id, word, i, he⟩ h
        · rfl
  | none | some ⟨.option none, _, _⟩ | some ⟨.name, _, _⟩ | some ⟨.argument, _, _⟩
  | some ⟨.value _, _, _⟩ => rfl

lemma slotRole_of_precedesValue {elements : List Element} (h : PrecedesValue line elements) :
    g.slotRole line elements = .argument := by
  obtain ⟨hbetween, id, word, i, he⟩ := h
  rw [slotRole, he, hbetween]
  -- whatever comes before, its value is there already
  split
  · split
    · simp
    · rfl
  · rfl

/-- Past the name, a word that is still to be typed has the role that any word which is no option
would have there, unless the next word is the value of the word before. -/
lemma slotRole_eq (hg : g.WellFormed) {n : Nat} {word : String} (hn : n ≤ line.words.length)
    (hle : n ≤ line.selected) (hfree : ¬ PrecedesValue line (g.boundElements line n))
    (hword : g.isOptionLike word = false) :
    g.slotRole line (g.boundElements line n) = g.roleAt n line.words line.selected word := by
  have htaker : g.takerAt? (if line.selected = 0 then none
        else elementAt? (g.boundElements line n) (line.selected - 1)) =
      (if n < line.selected then line.words[line.selected - 1]? else none).bind g.valueTaker? := by
    by_cases hlt : n < line.selected
    · rw [if_neg (by omega), if_pos hlt, elementAt?_boundElements hn]
      cases line.words[line.selected - 1]? with
      | none => rfl
      | some before =>
        rw [Option.map_some, roleAt, if_neg (by omega), takerAt?_roleAfter hg, Option.bind_some]
    · -- the word before the slot, if there is one, is the last one of the name
      rw [if_neg hlt, elementAt?_boundElements hn]
      split
      · rfl
      · cases line.words[line.selected - 1]? with
        | none => rfl
        | some before =>
          rw [Option.map_some, roleAt, if_pos (by omega)]
          rfl
  rw [slotRole_of_not_precedesValue hfree, htaker, roleAt, if_neg (Nat.not_lt.mpr hle),
    roleAfter_of_not_isOptionLike hword]

/-! ### How often an option occurs in the other words -/

/-- How often an option occurs in the words of a bound line other than the word at the caret. -/
def occurrencesApart (line : Line) (input : Input) (id : String) : Nat :=
  input.elements.countP fun e =>
    e.role == .option (some id) && (line.startsWord || e.index != line.selected)

lemma otherOccurrences_of_selected {input : Input} {e : Element} (h : input.selected = some e)
    (o : OptionGrammar) : otherOccurrences input o =
      if e.role == .option (some o.id) then input.optionCount o.id - 1
      else input.optionCount o.id := by
  obtain ⟨role, text, index⟩ := e
  rw [otherOccurrences, h]
  match role with
  | .option (some id) => simp
  | .option none | .name | .argument | .value id => rfl

section

variable {input : Input} {issues : List Issue} {n : Nat} {xs ys : List String} {word : String}

/-- The count of an option on a line with a word among others. -/
lemma countP_boundElements_of_words (hwords : line.words = xs ++ word :: ys) (hn : n ≤ xs.length)
    (id : String) :
    (g.boundElements line n).countP (·.role == .option (some id)) =
      (xs.drop n ++ ys).countP (g.isOccurrence id) + if g.isOccurrence id word then 1 else 0 := by
  rw [countP_boundElements, hwords, List.drop_append_of_le_length hn]
  simp only [List.countP_append, List.countP_cons]
  omega

lemma countP_boundElements_apart_of_words (hwords : line.words = xs ++ word :: ys)
    (hn : n ≤ xs.length) (hk : k = xs.length) (id : String) :
    (g.boundElements line n).countP (fun e => e.role == .option (some id) && e.index != k) =
      (xs.drop n ++ ys).countP (g.isOccurrence id) := by
  subst hk
  have hlength : (xs.drop n).length = xs.length - n := List.length_drop
  rw [countP_boundElements_apart line hn, hwords, List.drop_append_of_le_length hn, ← hlength,
    List.eraseIdx_append_of_length_le le_rfl, Nat.sub_self]
  rfl

lemma selected_of_bind (hbind : g.bind line = .bound input issues) :
    input.selected = g.selectedElement line input.elements input.nameLength := by
  obtain ⟨name, hname, -⟩ := bind_eq_bound hbind
  rw [bind_of_matchingName? hname] at hbind
  obtain ⟨rfl, -⟩ := Binding.bound.inj hbind
  rfl

/-- The word at the caret is the element that is selected. -/
lemma selected_of_not_startsWord (hbind : g.bind line = .bound input issues)
    (hstarts : line.startsWord = false) :
    input.selected = line.words[line.selected]?.map fun word =>
      ⟨g.roleAt input.nameLength line.words line.selected word, word, line.selected⟩ := by
  obtain ⟨name, hname, hlength, helements, -⟩ := bind_eq_bound hbind
  rw [selected_of_bind hbind, selectedElement, hstarts, if_pos Bool.not_false, helements,
    elementAt?_boundElements (matchingName?_eq_some hname).2.2, hlength]

/-- Between words past the name, the element that is selected is a word still to be typed. -/
lemma selected_of_startsWord (hbind : g.bind line = .bound input issues)
    (hstarts : line.startsWord) (hle : input.nameLength ≤ line.selected) :
    input.selected = some ⟨g.slotRole line input.elements, "", line.selected⟩ := by
  rw [selected_of_bind hbind, selectedElement, hstarts, if_neg (by simp), if_neg (by omega)]

/-- The role of the word at the caret is the one that the word before it gives it. -/
lemma selected_of_inside (hbind : g.bind line = .bound input issues)
    (hstarts : line.startsWord = false) (hle : input.nameLength ≤ xs.length)
    (hselected : line.selected = xs.length) (hwords : line.words = xs ++ word :: ys) :
    ∃ before, input.selected = some ⟨g.roleAfter before word, word, line.selected⟩ := by
  have hword : line.words[line.selected]? = some word := by
    rw [hwords, hselected, List.getElem?_append_right le_rfl, Nat.sub_self, List.getElem?_cons_zero]
  rw [selected_of_not_startsWord hbind hstarts, hword, Option.map_some, roleAt, if_neg (by omega)]
  exact ⟨_, rfl⟩

/-- What is left out in the adjusted count of an option is the word at the caret. -/
lemma otherOccurrences_eq (hbind : g.bind line = .bound input issues)
    (hle : input.nameLength ≤ line.selected)
    (hinside : line.startsWord = false →
      ∃ xs word ys, line.words = xs ++ word :: ys ∧ line.selected = xs.length)
    (o : OptionGrammar) :
    otherOccurrences input o = occurrencesApart line input o.id := by
  obtain ⟨name, hname, hlength, helements, -⟩ := bind_eq_bound hbind
  by_cases hstarts : line.startsWord
  · have hselected := selected_of_startsWord hbind hstarts hle
    rw [otherOccurrences_of_selected hselected, if_neg, occurrencesApart, hstarts]
    · simp [Input.optionCount]
    · simpa using slotRole_ne_option g line input.elements (some o.id)
  · have hstarts : line.startsWord = false := by simpa using hstarts
    obtain ⟨xs, word, ys, hwords, hxs⟩ := hinside hstarts
    have hn : name.length ≤ xs.length := by omega
    obtain ⟨before, hselected⟩ := selected_of_inside hbind hstarts (by omega) hxs hwords
    rw [otherOccurrences_of_selected hselected, roleAfter_beq_option, occurrencesApart, hstarts,
      Input.optionCount, helements, countP_boundElements_of_words hwords hn]
    simp only [Bool.false_or]
    rw [countP_boundElements_apart_of_words hwords hn hxs]
    split_ifs <;> simp

/-- The other words are those before the slot of the caret and those after it. -/
lemma occurrencesApart_eq (hbind : g.bind line = .bound input issues)
    (hle : input.nameLength ≤ xs.length) (hxs : line.selected = xs.length)
    (hwords : line.words = xs ++ (line.selectedWord.toList ++ ys))
    (hinside : line.startsWord = false → ∃ word, line.selectedWord = some word) (id : String) :
    occurrencesApart line input id =
      (xs.drop input.nameLength ++ ys).countP (g.isOccurrence id) := by
  obtain ⟨name, hname, hlength, helements, -⟩ := bind_eq_bound hbind
  rw [occurrencesApart, helements, hlength]
  rw [hlength] at hle
  cases hstarts : line.startsWord with
  | true =>
    have hnone : line.selectedWord = none := by rw [Line.selectedWord, if_pos hstarts]
    rw [hnone, Option.toList_none, List.nil_append] at hwords
    simp only [Bool.true_or, Bool.and_true]
    rw [countP_boundElements, hwords, List.drop_append_of_le_length hle]
  | false =>
    obtain ⟨word, hword⟩ := hinside hstarts
    rw [hword] at hwords
    simp only [Bool.false_or]
    exact countP_boundElements_apart_of_words hwords hle hxs id

end

/-! ### A word in the slot of the caret -/

section

variable {input : Input} {issues : List Issue} {text word : String} {caret : Nat}

/-- Where no name goes on at the caret, the caret is past the name. -/
lemma nameLength_le_selected (hpast : g.nameSuggestions (.parse text caret) = none)
    (hbind : g.bind (.parse text caret) = .bound input issues) :
    input.nameLength ≤ (Line.parse text caret).selected := by
  obtain ⟨xs, ys, hxs, hwords, -⟩ := Line.exists_parts text caret
  obtain ⟨name, hname, hlength, -⟩ := bind_eq_bound hbind
  rw [hlength]
  exact length_le_selected (nameSuggestions_eq_none_iff.mp hpast) (by rw [hwords, ← hxs]; simp)
    hname

/-- The words before the slot settle the role of a word that is put into it. -/
lemma getElem?_boundElements_fill {n : Nat} (hle : n ≤ (Line.parse text caret).selected)
    (hword : StandsAlone word.toList) (caret' : Nat) :
    let line := Line.parse text caret
    (g.boundElements (.parse (line.fill word) caret') n)[line.selected]? =
      some ⟨g.roleAt n line.words line.selected word, word, line.selected⟩ := by
  intro line
  obtain ⟨xs, ys, hxs, hwords, hfill, -⟩ := Line.exists_parts text caret
  have hparts : (Line.parse (line.fill word) caret').words = xs ++ word :: ys :=
    (Line.words_fill hword text caret caret').trans (hfill word)
  have hn : n ≤ (Line.parse (line.fill word) caret').words.length := by
    rw [hparts, List.length_append]
    omega
  have hat : (Line.parse (line.fill word) caret').words[line.selected]? = some word := by
    rw [Line.words_fill hword]
    exact Line.getElem?_fillWords text caret word
  have hbefore (hlt : n < line.selected) :
      (Line.parse (line.fill word) caret').words[line.selected - 1]? =
        line.words[line.selected - 1]? := by
    have hlt' : line.selected - 1 < xs.length := by
      rw [hxs]
      exact Nat.sub_lt (Nat.zero_lt_of_lt hlt) Nat.one_pos
    rw [hparts, hwords, List.getElem?_append_left hlt', List.getElem?_append_left hlt']
  have hrole : g.roleAt n (Line.parse (line.fill word) caret').words line.selected word =
      g.roleAt n line.words line.selected word := by
    rw [roleAt, roleAt]
    by_cases hlt : n < line.selected
    · rw [hbefore hlt]
    · rw [if_neg hlt, if_neg hlt]
  rw [getElem?_boundElements hn, hat, Option.map_some, hrole]

/-- With another word in the slot of the caret the line keeps its name, and the words before the
slot settle the role of that word. -/
lemma bind_fill (hpast : g.nameSuggestions (.parse text caret) = none)
    (hbind : g.bind (.parse text caret) = .bound input issues) (hword : StandsAlone word.toList)
    (caret' : Nat) :
    let line := Line.parse text caret
    let filled := Line.parse (line.fill word) caret'
    filled.words = line.fillWords word ∧ g.matchingName? filled = g.matchingName? line ∧
      ∃ input' issues', g.bind filled = .bound input' issues' ∧
        input'.nameLength = input.nameLength ∧
        input'.elements = g.boundElements filled input.nameLength ∧
        input'.elements[line.selected]? =
          some ⟨g.roleAt input.nameLength line.words line.selected word, word, line.selected⟩ := by
  intro line filled
  obtain ⟨xs, ys, hxs, hwords, hfill, -⟩ := Line.exists_parts text caret
  obtain ⟨name, hname, hlength, -⟩ := bind_eq_bound hbind
  have hfilled : filled.words = line.fillWords word := Line.words_fill hword text caret caret'
  have hparts : filled.words = xs ++ word :: ys := hfilled.trans (hfill word)
  have hmatch : g.matchingName? filled = g.matchingName? line := by
    apply matchingName?_congr (nameSuggestions_eq_none_iff.mp hpast)
    · rw [hwords, ← hxs]
      simp
    · rw [hparts, ← hxs]
      simp
    · rw [hparts, hwords, ← hxs, List.take_left, List.take_left]
  refine ⟨hfilled, hmatch, _, _, bind_of_matchingName? (hmatch.trans hname), hlength.symm,
    by rw [hlength], ?_⟩
  rw [← hlength]
  exact getElem?_boundElements_fill (nameLength_le_selected hpast hbind) hword caret'

end

end LineShell.Grammar
