import LineShell.Proofs.Binding.Name

/-!
# Everything that is wrong with a line

Issues are found in one pass over the words and two over the counts. What is wrong with a word can
be told from the word itself and the one after it (`wordIssue?`), and what is wrong with a count
from the elements of the bound line. So the issues of a line are known without the pass: nothing
that is wrong goes unnoticed, and nothing else is reported (`issues_bind`).
-/

namespace LineShell.Grammar

/-! ### Words -/

/-- What is wrong with a word after the name, given the word after it. -/
def wordIssue? (g : Grammar) (word : String) (next : Option String) : Option Issue :=
  if g.isOptionLike word = false then none
  else if ∀ o ∈ g.options, word ∉ o.forms then some (.unrecognizedOption word)
  else if (g.optionWithForm? word).any (·.mustTakeValue) ∧ ∀ w ∈ next, g.isOptionLike w then
    some (.missingValue word)
  else none

/-- What is wrong with the words after the name, one word after the other. -/
def wordIssues (g : Grammar) (words : List String) : List Issue :=
  (List.range words.length).filterMap fun i =>
    words[i]?.bind fun word => g.wordIssue? word words[i + 1]?

variable {g : Grammar} {word : String} {o : OptionGrammar}

@[simp] lemma wordIssues_nil : g.wordIssues [] = [] := rfl

@[simp] lemma wordIssues_cons (word : String) (words : List String) :
    g.wordIssues (word :: words) =
      (g.wordIssue? word words.head?).toList ++ g.wordIssues words := by
  rw [wordIssues, List.length_cons, List.range_succ_eq_map, List.filterMap_cons,
    List.filterMap_map, Function.comp_def]
  cases h : g.wordIssue? word words.head? with
  | none => simp [List.head?_eq_getElem?.symm, h, wordIssues]
  | some issue => simp [List.head?_eq_getElem?.symm, h, wordIssues]

lemma optionWithForm?_eq_none_iff :
    g.optionWithForm? word = none ↔ ∀ o ∈ g.options, word ∉ o.forms := by
  simp [optionWithForm?, OptionGrammar.hasForm]

lemma wordIssue?_argument (h : g.isOptionLike word = false) (next : Option String) :
    g.wordIssue? word next = none := by
  rw [wordIssue?, if_pos h]

lemma wordIssue?_unknown (h : g.isOptionLike word) (ho : g.optionWithForm? word = none)
    (next : Option String) : g.wordIssue? word next = some (.unrecognizedOption word) := by
  rw [wordIssue?, if_neg (by simp [h]), if_pos (optionWithForm?_eq_none_iff.mp ho)]

lemma wordIssue?_option (h : g.isOptionLike word) (ho : g.optionWithForm? word = some o)
    (next : Option String) :
    g.wordIssue? word next =
      if o.mustTakeValue ∧ ∀ w ∈ next, g.isOptionLike w then some (.missingValue word)
      else none := by
  have hform : ¬ ∀ o ∈ g.options, word ∉ o.forms := by
    rw [← optionWithForm?_eq_none_iff, ho]
    simp
  rw [wordIssue?, if_neg (by simp [h]), if_neg hform, ho, Option.any_some]

lemma acceptsValue_of_mustTakeValue (h : o.mustTakeValue) : o.acceptsValue := by
  simp [OptionGrammar.acceptsValue, h]

/-- The reader finds what is wrong with each word, and takes no word for a value that is more than
that. -/
lemma issues_read (i : Nat) (words : List String) :
    (g.read i words).issues = g.wordIssues words := by
  induction i, words using read_induction (g := g) with
  | nil i => simp
  | argument i word words h ih => simp [read_argument h, wordIssue?_argument h, ih]
  | unknown i word words h ho ih => simp [read_unknown h ho, wordIssue?_unknown h ho, ih]
  | bare i word words o h ho hnext ih =>
    rw [read_bare h ho i hnext, Reading.issues_option, Reading.issues_withoutValue, ih,
      wordIssues_cons, wordIssue?_option h ho]
    by_cases hmust : o.mustTakeValue
    · have hlast := hnext (acceptsValue_of_mustTakeValue hmust)
      rw [if_pos hmust, if_pos ⟨hmust, hlast⟩]
      rfl
    · rw [if_neg hmust, if_neg fun h => hmust h.1]
      rfl
  | valued i word next rest o h ho ha hnext ih =>
    have htaken : ¬ (o.mustTakeValue ∧ ∀ w ∈ (next :: rest).head?, g.isOptionLike w) := by
      rintro ⟨-, hall⟩
      have := hall next rfl
      rw [hnext] at this
      cases this
    rw [read_valued h ho ha hnext, Reading.issues_option, Reading.issues_value, ih,
      wordIssues_cons, wordIssues_cons, wordIssue?_option h ho, if_neg htaken,
      wordIssue?_argument hnext]
    rfl

lemma wordIssue?_eq_none_iff {next : Option String} :
    g.wordIssue? word next = none ↔ (g.isOptionLike word → ∃ o, g.optionWithForm? word = some o ∧
      (o.mustTakeValue → ∃ w, next = some w ∧ g.isOptionLike w = false)) := by
  cases h : g.isOptionLike word with
  | false => simp [wordIssue?_argument h]
  | true =>
    cases ho : g.optionWithForm? word with
    | none => simp [wordIssue?_unknown h ho]
    | some o =>
      rw [wordIssue?_option h ho]
      cases next <;> simp

/-- Nothing is wrong with the words just when every option is known and has the value that it
must have. -/
lemma wordIssues_eq_nil_iff {words : List String} :
    g.wordIssues words = [] ↔ ∀ i word, words[i]? = some word → g.isOptionLike word →
      ∃ o, g.optionWithForm? word = some o ∧
        (o.mustTakeValue → ∃ w, words[i + 1]? = some w ∧ g.isOptionLike w = false) := by
  rw [wordIssues, List.filterMap_eq_nil_iff]
  constructor
  · intro h i word hi
    have hlt : i < words.length := (List.getElem?_eq_some_iff.mp hi).1
    have hnone := h i (List.mem_range.mpr hlt)
    rw [hi, Option.bind_some] at hnone
    exact wordIssue?_eq_none_iff.mp hnone
  · intro h i _
    cases hi : words[i]? with
    | none => rfl
    | some word => exact wordIssue?_eq_none_iff.mpr (h i word hi)

/-! ### Counts -/

/-- What is wrong where an option does not occur as often as it should. -/
def occurrencesIssue (o : OptionGrammar) (found : Nat) : Issue :=
  if found < o.minimum then .tooFewOccurrences (o.forms.headD o.id) o.minimum found
  else .tooManyOccurrences (o.forms.headD o.id) o.maximum found

/-- What is wrong where there are not as many arguments as there should be. -/
def argumentsIssue (g : Grammar) (found : Nat) : Issue :=
  if found < g.minimum then .tooFewArguments g.minimum found
  else .tooManyArguments g.maximum found

/-- What is wrong with how often the options occur, in the order of their declaration. -/
def occurrencesIssues (g : Grammar) (input : Input) : List Issue :=
  (g.options.filter fun o =>
    ¬ (o.minimum ≤ input.optionCount o.id ∧ input.optionCount o.id ≤ o.maximum)).map fun o =>
      occurrencesIssue o (input.optionCount o.id)

/-- What is wrong with the number of arguments. -/
def argumentsIssues (g : Grammar) (input : Input) : List Issue :=
  if g.minimum ≤ input.arguments.length ∧ input.arguments.length ≤ g.maximum then []
  else [g.argumentsIssue input.arguments.length]

lemma occurrenceIssue_eq (o : OptionGrammar) (n : Nat) :
    occurrenceIssue o n =
      if ¬ (o.minimum ≤ n ∧ n ≤ o.maximum) then [occurrencesIssue o n] else [] := by
  have := o.minimum_le_maximum
  simp only [occurrenceIssue, occurrencesIssue]
  split_ifs <;> first | rfl | omega

lemma argumentIssue_eq (g : Grammar) (n : Nat) :
    g.argumentIssue n = if g.minimum ≤ n ∧ n ≤ g.maximum then [] else [g.argumentsIssue n] := by
  have := g.minimum_le_maximum
  simp only [argumentIssue, argumentsIssue]
  split_ifs <;> first | rfl | omega

lemma flatMap_occurrenceIssue (options : List OptionGrammar) (count : String → Nat) :
    options.flatMap (fun o => occurrenceIssue o (count o.id)) =
      (options.filter fun o => ¬ (o.minimum ≤ count o.id ∧ count o.id ≤ o.maximum)).map fun o =>
        occurrencesIssue o (count o.id) := by
  induction options with
  | nil => rfl
  | cons o options ih =>
    rw [List.flatMap_cons, occurrenceIssue_eq, ih, List.filter_cons]
    by_cases h : ¬ (o.minimum ≤ count o.id ∧ count o.id ≤ o.maximum)
    · rw [if_pos h, if_pos (decide_eq_true h)]
      rfl
    · rw [if_neg h, if_neg fun h' => h (of_decide_eq_true h')]
      rfl

/-- The elements that make up the name are no occurrences of options. -/
lemma optionCount_boundElements (line : Line) (n : Nat) (id : String) :
    (g.boundElements line n).countP (·.role == .option (some id)) =
      (g.read n (line.words.drop n)).occurrences.count id := by
  have hname : (nameElements (line.words.take n)).countP (·.role == .option (some id)) = 0 := by
    refine List.countP_eq_zero.mpr fun e he => ?_
    obtain ⟨i, hi, rfl⟩ := List.mem_mapIdx.mp he
    simp
  rw [boundElements, List.countP_append, hname, Nat.zero_add, countP_option_read]

lemma occurrencesIssues_eq_nil_iff {input : Input} :
    g.occurrencesIssues input = [] ↔
      ∀ o ∈ g.options, o.minimum ≤ input.optionCount o.id ∧ input.optionCount o.id ≤ o.maximum := by
  rw [occurrencesIssues, List.map_eq_nil_iff, List.filter_eq_nil_iff]
  refine forall₂_congr fun o _ => ?_
  rw [decide_eq_true_eq, not_not]

lemma argumentsIssues_eq_nil_iff {input : Input} :
    g.argumentsIssues input = [] ↔
      g.minimum ≤ input.arguments.length ∧ input.arguments.length ≤ g.maximum := by
  rw [argumentsIssues]
  split_ifs with h <;> simp [h]

/-! ### Lines -/

lemma matchingName?_eq_find? (g : Grammar) (line : Line) :
    g.matchingName? line = g.names.find? fun name => Begins name line.words := by
  have heq : nameMatches line.words = fun name => decide (Begins name line.words) := by
    funext name
    rw [Bool.eq_iff_iff, nameMatches_iff_begins, decide_eq_true_eq]
  rw [matchingName?, heq]

/-- The issues of a bound line, told from its words and its elements. -/
lemma issues_of_bind_eq_bound {line : Line} {input : Input} {issues : List Issue}
    (h : g.bind line = .bound input issues) :
    issues = g.wordIssues (line.words.drop input.nameLength) ++ g.occurrencesIssues input ++
      g.argumentsIssues input := by
  obtain ⟨name, -, hlen, helements, rfl⟩ := bind_eq_bound h
  have hcount : ∀ id, input.optionCount id =
      (g.read name.length (line.words.drop name.length)).occurrences.count id := by
    intro id
    rw [Input.optionCount, helements, optionCount_boundElements]
  have harguments : input.arguments.length =
      (g.boundElements line name.length).countP (·.isArgument) := by
    rw [Input.arguments, helements, List.countP_eq_length_filter]
  simp only [boundIssues, issues_read, argumentIssue_eq, ← hcount, ← harguments]
  rw [flatMap_occurrenceIssue _ input.optionCount, hlen]
  rfl

/-- A line is not bound just when it begins with no name of the command, and that is the only issue
then. The issues of a bound line are one for each option that is unknown or lacks its value, in the
order of the words, one for each option that occurs too seldom or too often, in the order of
declaration, and one if there are too few or too many arguments. A line is accepted just when it is
bound and none of this applies. -/
theorem issues_bind (g : Grammar) (line : Line) :
    ((g.bind line).isMismatch ↔ ∀ name ∈ g.names, ¬ Begins name line.words) ∧
    match g.bind line with
    | .mismatch shown =>
      (Binding.mismatch shown).issues = [.nameMismatch g.displayName] ∧
        (Binding.mismatch shown).strict = .error [.nameMismatch g.displayName]
    | .bound input issues =>
      ∃ name, g.names.find? (fun name => Begins name line.words) = some name ∧
        input.nameLength = name.length ∧
        issues = g.wordIssues (line.words.drop name.length) ++
          (g.options.filter fun o =>
            ¬ (o.minimum ≤ input.optionCount o.id ∧ input.optionCount o.id ≤ o.maximum)).map
              (fun o => occurrencesIssue o (input.optionCount o.id)) ++
          (if g.minimum ≤ input.arguments.length ∧ input.arguments.length ≤ g.maximum then []
            else [g.argumentsIssue input.arguments.length]) ∧
        ((Binding.bound input issues).strict = .ok input ↔
          (∀ i word, (line.words.drop name.length)[i]? = some word → g.isOptionLike word →
            ∃ o, g.optionWithForm? word = some o ∧ (o.mustTakeValue →
              ∃ w, (line.words.drop name.length)[i + 1]? = some w ∧ g.isOptionLike w = false)) ∧
          (∀ o ∈ g.options,
            o.minimum ≤ input.optionCount o.id ∧ input.optionCount o.id ≤ o.maximum) ∧
          g.minimum ≤ input.arguments.length ∧ input.arguments.length ≤ g.maximum) := by
  refine ⟨isMismatch_bind_iff, ?_⟩
  cases hbind : g.bind line with
  | mismatch shown =>
    obtain rfl : shown = g.displayName := by
      cases hname : g.matchingName? line with
      | none => exact (Binding.mismatch.inj (bind_of_matchingName?_eq_none hname ▸ hbind)).symm
      | some name => rw [bind_of_matchingName? hname] at hbind; cases hbind
    exact ⟨rfl, rfl⟩
  | bound input issues =>
    have hissues := issues_of_bind_eq_bound hbind
    obtain ⟨name, hname, hlen, -, -⟩ := bind_eq_bound hbind
    rw [hlen] at hissues
    refine ⟨name, by rw [← matchingName?_eq_find?, hname], hlen, hissues, ?_⟩
    rw [strict_bound_eq_ok_iff, hissues, List.append_eq_nil_iff, List.append_eq_nil_iff,
      wordIssues_eq_nil_iff, occurrencesIssues_eq_nil_iff, argumentsIssues_eq_nil_iff, and_assoc]

/-- An option in the place of a value, one too often, one unknown, and no argument. -/
example :
    let body : OptionGrammar := { id := "body", forms := ["--body"], mustTakeValue := true }
    let verbose : OptionGrammar := { id := "verbose", forms := ["-v"] }
    let g : Grammar :=
      { names := [["post"]], options := [body, verbose], minimum := 1, declaredMaximum := 1 }
    (g.bind (Line.parse "post --body -v -v -x" 0)).issues =
      [.missingValue "--body", .unrecognizedOption "-x", .tooManyOccurrences "-v" 1 2,
        .tooFewArguments 1 0] := by decide +kernel

end LineShell.Grammar
