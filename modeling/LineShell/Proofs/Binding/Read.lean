import LineShell.Binding.Bind
import Mathlib.Tactic.Common

/-!
# Reading the words after the name

`Grammar.read` does one of four things with the next word: it takes it for an argument, for an
unknown option, for an option without a value, or for an option together with the word after it.
Each of them is an equation here, and `read_induction` is the induction that goes along with them.
-/

namespace LineShell.Grammar

/-! ### What a reading is made of -/

namespace Reading

variable (r : Reading) (o : OptionGrammar) (i : Nat) (word : String)

@[simp] lemma elements_argument :
    (r.argument i word).elements = ⟨.argument, word, i⟩ :: r.elements := rfl

@[simp] lemma elements_unknownOption :
    (r.unknownOption i word).elements = ⟨.option none, word, i⟩ :: r.elements := rfl

@[simp] lemma elements_option :
    (r.option o i word).elements = ⟨.option (some o.id), word, i⟩ :: r.elements := rfl

@[simp] lemma elements_value :
    (r.value o i word).elements = ⟨.value o.id, word, i⟩ :: r.elements := rfl

@[simp] lemma elements_withoutValue : (r.withoutValue o word).elements = r.elements := by
  rw [withoutValue]
  split <;> rfl

@[simp] lemma occurrences_argument : (r.argument i word).occurrences = r.occurrences := rfl

@[simp] lemma occurrences_unknownOption :
    (r.unknownOption i word).occurrences = r.occurrences := rfl

@[simp] lemma occurrences_option :
    (r.option o i word).occurrences = o.id :: r.occurrences := rfl

@[simp] lemma occurrences_value : (r.value o i word).occurrences = r.occurrences := rfl

@[simp] lemma occurrences_withoutValue :
    (r.withoutValue o word).occurrences = r.occurrences := by
  rw [withoutValue]
  split <;> rfl

@[simp] lemma issues_argument : (r.argument i word).issues = r.issues := rfl

@[simp] lemma issues_unknownOption :
    (r.unknownOption i word).issues = .unrecognizedOption word :: r.issues := rfl

@[simp] lemma issues_option : (r.option o i word).issues = r.issues := rfl

@[simp] lemma issues_value : (r.value o i word).issues = r.issues := rfl

lemma issues_withoutValue : (r.withoutValue o word).issues =
    if o.mustTakeValue then .missingValue word :: r.issues else r.issues := by
  rw [withoutValue]
  split <;> rfl

lemma withoutValue_of_not_mustTakeValue {o : OptionGrammar} (h : o.mustTakeValue = false) :
    r.withoutValue o word = r := by
  simp [withoutValue, h]

end Reading

/-! ### The next word -/

/-- Whether the words after an option leave it without a value. -/
def noValueNext (g : Grammar) (o : OptionGrammar) (words : List String) : Prop :=
  o.acceptsValue → ∀ next ∈ words.head?, g.isOptionLike next

variable {g : Grammar} {word : String} {o : OptionGrammar}

@[simp] lemma read_nil (i : Nat) : g.read i [] = {} := by rw [read]

lemma read_argument (h : g.isOptionLike word = false) (i : Nat) (words : List String) :
    g.read i (word :: words) = (g.read (i + 1) words).argument i word := by
  simp [read, h]

lemma read_unknown (h : g.isOptionLike word) (ho : g.optionWithForm? word = none) (i : Nat)
    (words : List String) :
    g.read i (word :: words) = (g.read (i + 1) words).unknownOption i word := by
  simp [read, h, ho]

lemma read_bare (h : g.isOptionLike word) (ho : g.optionWithForm? word = some o) (i : Nat)
    {words : List String} (hnext : g.noValueNext o words) :
    g.read i (word :: words) = ((g.read (i + 1) words).withoutValue o word).option o i word := by
  cases ha : o.acceptsValue with
  | false =>
    have hmust : o.mustTakeValue = false := by
      simp only [OptionGrammar.acceptsValue, Bool.or_eq_false_iff] at ha
      exact ha.2
    rw [Reading.withoutValue_of_not_mustTakeValue _ _ hmust]
    simp [read, h, ho, ha]
  | true =>
    cases words with
    | nil => simp [read, h, ho, ha]
    | cons next rest =>
      have hnext : g.isOptionLike next := hnext ha next rfl
      rw [read]
      simp [h, ho, ha, hnext]

lemma read_valued (h : g.isOptionLike word) (ho : g.optionWithForm? word = some o)
    (ha : o.acceptsValue) {next : String} (hnext : g.isOptionLike next = false) (i : Nat)
    (rest : List String) :
    g.read i (word :: next :: rest) =
      ((g.read (i + 2) rest).value o (i + 1) next).option o i word := by
  rw [read]
  simp [h, ho, ha, hnext]

/-- What holds of no words, and of more words if it holds of those that the reader has not got to,
holds of all words. -/
theorem read_induction {motive : Nat → List String → Prop} (nil : ∀ i, motive i [])
    (argument : ∀ i word words, g.isOptionLike word = false →
      motive (i + 1) words → motive i (word :: words))
    (unknown : ∀ i word words, g.isOptionLike word → g.optionWithForm? word = none →
      motive (i + 1) words → motive i (word :: words))
    (bare : ∀ i word words o, g.isOptionLike word → g.optionWithForm? word = some o →
      g.noValueNext o words → motive (i + 1) words → motive i (word :: words))
    (valued : ∀ i word next rest o, g.isOptionLike word → g.optionWithForm? word = some o →
      o.acceptsValue → g.isOptionLike next = false →
      motive (i + 2) rest → motive i (word :: next :: rest))
    (i : Nat) (words : List String) : motive i words := by
  induction i, words using read.induct g with
  | case1 i => exact nil i
  | case2 i word words h ih => exact argument i word words (by simpa using h) ih
  | case3 i word words h ho ih => exact unknown i word words (by simpa using h) ho ih
  | case4 i word words h o ho ha ih =>
    refine bare i word words o (by simpa using h) ho (fun ha' => ?_) ih
    simp [ha'] at ha
  | case5 i word h o ho ha =>
    exact bare i word [] o (by simpa using h) ho (fun _ => by simp) (nil (i + 1))
  | case6 i word h o ho ha next rest hnext ih =>
    exact bare i word (next :: rest) o (by simpa using h) ho (fun _ => by simpa using hnext) ih
  | case7 i word h o ho ha next rest hnext ih =>
    exact valued i word next rest o (by simpa using h) ho (by simpa using ha)
      (by simpa using hnext) ih

/-! ### What is counted -/

/-- The occurrences of an option that are counted are the elements that are the option. -/
lemma countP_option_read (id : String) (i : Nat) (words : List String) :
    (g.read i words).elements.countP (·.role == .option (some id)) =
      (g.read i words).occurrences.count id := by
  induction i, words using read_induction (g := g) with
  | nil i => simp
  | argument i word words h ih => simpa [read_argument h] using ih
  | unknown i word words h ho ih => simpa [read_unknown h ho] using ih
  | bare i word words o h ho hnext ih =>
    rw [read_bare h ho i hnext]
    simp [List.countP_cons, List.count_cons, ih]
  | valued i word next rest o h ho ha hnext ih =>
    rw [read_valued h ho ha hnext]
    simp [List.countP_cons, List.count_cons, ih]

lemma occurrenceIssue_eq_nil_iff {n : Nat} :
    occurrenceIssue o n = [] ↔ o.minimum ≤ n ∧ n ≤ o.maximum := by
  simp only [occurrenceIssue]
  split_ifs <;> simp <;> omega

lemma argumentIssue_eq_nil_iff {n : Nat} :
    g.argumentIssue n = [] ↔ g.minimum ≤ n ∧ n ≤ g.maximum := by
  rw [argumentIssue]
  split_ifs <;> simp <;> omega

/-! ### The whole line -/

lemma nameMatches_iff {words name : List String} :
    nameMatches words name ↔ name ≠ [] ∧ name.length ≤ words.length ∧
      ∀ x ∈ name.zip words, Text.eqIgnoringCase x.1 (unquote x.2) := by
  simp [nameMatches, and_assoc]

lemma matchingName?_eq_some {line : Line} {name : List String}
    (h : g.matchingName? line = some name) :
    name ∈ g.names ∧ name ≠ [] ∧ name.length ≤ line.words.length := by
  obtain ⟨hne, hle, -⟩ := nameMatches_iff.mp (List.find?_some h)
  exact ⟨List.mem_of_find?_eq_some h, hne, hle⟩

/-- The words of a line, the first ones of which are a name. -/
def boundElements (g : Grammar) (line : Line) (nameLength : Nat) : List Element :=
  nameElements (line.words.take nameLength) ++
    (g.read nameLength (line.words.drop nameLength)).elements

/-- What is wrong with a line whose first words are a name. -/
def boundIssues (g : Grammar) (line : Line) (nameLength : Nat) : List Issue :=
  let reading := g.read nameLength (line.words.drop nameLength)
  reading.issues ++
    g.options.flatMap (fun o => occurrenceIssue o (reading.occurrences.count o.id)) ++
    g.argumentIssue ((g.boundElements line nameLength).countP (·.isArgument))

lemma boundIssues_eq_nil_iff {line : Line} {n : Nat} :
    g.boundIssues line n = [] ↔
      (g.read n (line.words.drop n)).issues = [] ∧
      (∀ o ∈ g.options,
        o.minimum ≤ (g.read n (line.words.drop n)).occurrences.count o.id ∧
          (g.read n (line.words.drop n)).occurrences.count o.id ≤ o.maximum) ∧
      g.minimum ≤ (g.boundElements line n).countP (·.isArgument) ∧
        (g.boundElements line n).countP (·.isArgument) ≤ g.maximum := by
  simp only [boundIssues, List.append_eq_nil_iff, List.flatMap_eq_nil_iff,
    occurrenceIssue_eq_nil_iff, argumentIssue_eq_nil_iff, and_assoc]

lemma bind_of_matchingName? {line : Line} {name : List String}
    (h : g.matchingName? line = some name) :
    g.bind line = .bound
      ⟨g.boundElements line name.length, name.length,
        g.selectedElement line (g.boundElements line name.length) name.length⟩
      (g.boundIssues line name.length) := by
  simp only [bind, h, boundElements, boundIssues]

/-- A bound line begins with a name, and everything else about it follows from that. -/
lemma bind_eq_bound {line : Line} {input : Input} {issues : List Issue}
    (h : g.bind line = .bound input issues) :
    ∃ name, g.matchingName? line = some name ∧ input.nameLength = name.length ∧
      input.elements = g.boundElements line name.length ∧
      issues = g.boundIssues line name.length := by
  cases hname : g.matchingName? line with
  | none => simp [bind, hname] at h
  | some name =>
    rw [bind_of_matchingName? hname] at h
    obtain ⟨rfl, rfl⟩ := Binding.bound.inj h
    exact ⟨name, rfl, rfl, rfl, rfl⟩

lemma strict_bound_eq_ok_iff {input : Input} {issues : List Issue} :
    (Binding.bound input issues).strict = .ok input ↔ issues = [] := by
  cases issues <;> simp [Binding.strict]

end LineShell.Grammar
