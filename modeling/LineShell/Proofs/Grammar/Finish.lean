import LineShell.Proofs.Binding.Name
import LineShell.Shell.Structured
import Mathlib.Data.Nat.PSub

/-!
# Grammars read before and after they are finished

A grammar may be stored with a maximum below its minimum, and with an option that must take a value
but is not said to take one. Whoever reads it reads the bounds put right, so nobody can tell whether
the grammar has been finished: lines are bound in the same way, the same problems are found, the
same is shown and offered, and a command does the same with either grammar (`finish_unseen`).

What is read of an option is its id, its forms, its minimum, whether it must take a value, and its
`maximum` and `acceptsValue`. None of them changes.
-/

namespace LineShell

@[simp] lemma OptionGrammar.usage_finish (o : OptionGrammar) : o.finish.usage = o.usage := by
  simp [usage]

namespace Grammar

variable {g : Grammar} {word : String} {o : OptionGrammar}

/-! ### Looking up -/

lemma optionWithForm?_finish (g : Grammar) (word : String) :
    g.finish.optionWithForm? word = (g.optionWithForm? word).map OptionGrammar.finish := by
  simp [optionWithForm?, List.find?_map, Function.comp_def]

lemma option?_finish (g : Grammar) (id : String) :
    g.finish.option? id = (g.option? id).map OptionGrammar.finish := by
  simp [option?, List.find?_map, Function.comp_def]

lemma optionWithForm?_finish_of_some (ho : g.optionWithForm? word = some o) :
    g.finish.optionWithForm? word = some o.finish := by
  rw [optionWithForm?_finish, ho, Option.map_some]

/-! ### Binding -/

lemma noValueNext_finish {words : List String} :
    g.finish.noValueNext o.finish words ↔ g.noValueNext o words := by
  rw [noValueNext, noValueNext, OptionGrammar.acceptsValue_finish]
  rfl

/-- The induction goes along with the reader: at each word both grammars take the same one of its
four steps. -/
lemma read_finish (g : Grammar) (i : Nat) (words : List String) :
    g.finish.read i words = g.read i words := by
  induction i, words using read_induction (g := g) with
  | nil i => rw [read_nil, read_nil]
  | argument i word words h ih =>
    have h' : g.finish.isOptionLike word = false := h
    rw [read_argument h, read_argument h', ih]
  | unknown i word words h ho ih =>
    have h' : g.finish.isOptionLike word := h
    have ho' : g.finish.optionWithForm? word = none := by
      rw [optionWithForm?_finish, ho, Option.map_none]
    rw [read_unknown h ho, read_unknown h' ho', ih]
  | bare i word words o h ho hnext ih =>
    have h' : g.finish.isOptionLike word := h
    rw [read_bare h ho i hnext, read_bare h' (optionWithForm?_finish_of_some ho) i
      (noValueNext_finish.mpr hnext), ih]
    rfl
  | valued i word next rest o h ho ha hnext ih =>
    have h' : g.finish.isOptionLike word := h
    have hnext' : g.finish.isOptionLike next = false := hnext
    rw [read_valued h ho ha hnext, read_valued h' (optionWithForm?_finish_of_some ho)
      ((OptionGrammar.acceptsValue_finish o).trans ha) hnext', ih]
    rfl

lemma occurrenceIssue_finish (o : OptionGrammar) (found : Nat) :
    occurrenceIssue o.finish found = occurrenceIssue o found := by
  simp [occurrenceIssue]

lemma argumentIssue_finish (g : Grammar) (found : Nat) :
    g.finish.argumentIssue found = g.argumentIssue found := by
  simp [argumentIssue]

lemma slotRole_finish (g : Grammar) (line : Line) (elements : List Element) :
    g.finish.slotRole line elements = g.slotRole line elements := by
  simp only [slotRole, option?_finish]
  split
  · rename_i id _ _ _
    cases g.option? id <;> simp
  · rfl

lemma selectedElement_finish (g : Grammar) (line : Line) (elements : List Element)
    (nameLength : Nat) :
    g.finish.selectedElement line elements nameLength =
      g.selectedElement line elements nameLength := by
  rw [selectedElement, selectedElement, slotRole_finish]

lemma bind_finish (g : Grammar) (line : Line) : g.finish.bind line = g.bind line := by
  have hname : g.finish.matchingName? line = g.matchingName? line := rfl
  cases h : g.matchingName? line with
  | none =>
    rw [bind_of_matchingName?_eq_none h, bind_of_matchingName?_eq_none (hname.trans h)]
    rfl
  | some name =>
    rw [bind_of_matchingName? h, bind_of_matchingName? (hname.trans h)]
    simp only [boundElements, boundIssues, read_finish, selectedElement_finish,
      argumentIssue_finish, occurrenceIssue_finish, options_finish, List.flatMap_map,
      OptionGrammar.id_finish]

/-! ### Problems -/

lemma optionProblems_map_finish (marker : Char) (ids used : List String)
    (options : List OptionGrammar) :
    optionProblems marker ids used (options.map OptionGrammar.finish) =
      optionProblems marker ids used options := by
  induction options generalizing ids used with
  | nil => rfl
  | cons o options ih =>
    rw [List.map_cons, optionProblems, optionProblems, ih]
    rfl

lemma problems_finish (g : Grammar) : g.finish.problems = g.problems := by
  rw [problems, problems, options_finish, optionProblems_map_finish]
  rfl

lemma ambiguities_append_finish (before after : List Grammar) (g candidate : Grammar) :
    ambiguities (before ++ g.finish :: after) candidate =
      ambiguities (before ++ g :: after) candidate := by
  simp [ambiguities]

/-! ### Usage -/

/-- The usage line, if no difference that it takes is below zero. -/
def usage? (g : Grammar) : Option String :=
  (Nat.psub g.maximum g.minimum).map fun optional =>
    let arguments := List.replicate g.minimum "<arg>" ++
      if optional > maxListedArguments then ["[arg...]"] else List.replicate optional "[arg]"
    " ".intercalate (g.displayName :: g.options.map OptionGrammar.usage ++ arguments)

lemma usage?_eq (g : Grammar) : g.usage? = some g.usage := by
  rw [usage?, Nat.psub_eq_sub g.minimum_le_maximum]
  rfl

lemma usage_finish (g : Grammar) : g.finish.usage = g.usage := by
  have hdisplay : g.finish.displayName = g.displayName := rfl
  simp [usage, argumentUsage, hdisplay, Function.comp_def]

lemma usualDetails_finish (g : Grammar) (summary : Option String) :
    g.finish.usualDetails summary = g.usualDetails summary := by
  have haliases : g.finish.aliases = g.aliases := rfl
  simp only [usualDetails, usage_finish, haliases]

/-! ### Completion -/

lemma optionSuggestions_finish (g : Grammar) (input : Input) (fragment : String) :
    g.finish.optionSuggestions input fragment = g.optionSuggestions input fragment := by
  have hother : ∀ o : OptionGrammar, otherOccurrences input o.finish = otherOccurrences input o :=
    fun _ => rfl
  simp [optionSuggestions, List.filter_map, List.flatMap_map, Function.comp_def, hother]

end Grammar

/-! ### Commands -/

namespace Structured

variable {S : Signature}

/-- The command with a grammar in the place of its own. -/
def withGrammar (c : Structured S) (g : Grammar) : Structured S :=
  { c with grammar := g }

variable (c : Structured S) (g : Grammar)

lemma details_finish : (c.withGrammar g.finish).details = (c.withGrammar g).details := by
  funext shell input
  simp only [details, withGrammar, Grammar.usualDetails_finish]

lemma canHandle_finish : (c.withGrammar g.finish).canHandle = (c.withGrammar g).canHandle := by
  funext line
  have hbind : (c.withGrammar g.finish).grammar.bind line = (c.withGrammar g).grammar.bind line :=
    g.bind_finish line
  simp only [canHandle, explain, hbind, details_finish]
  rfl

lemma suggest_finish : (c.withGrammar g.finish).suggest = (c.withGrammar g).suggest := by
  funext shell line
  have hbind : (c.withGrammar g.finish).grammar.bind line = (c.withGrammar g).grammar.bind line :=
    g.bind_finish line
  have hoptions : (c.withGrammar g.finish).grammar.optionSuggestions =
      (c.withGrammar g).grammar.optionSuggestions := by
    funext input fragment
    exact g.optionSuggestions_finish input fragment
  simp only [suggest, hbind, hoptions]
  rfl

/-- A command does the same with a grammar that has been finished. -/
lemma toCommand_finish : (c.withGrammar g.finish).toCommand =
    { (c.withGrammar g).toCommand with grammar := some g.finish } := by
  have hbind : ∀ line,
      (c.withGrammar g.finish).grammar.bind line = (c.withGrammar g).grammar.bind line :=
    g.bind_finish
  simp only [toCommand, canHandle_finish, suggest_finish, details_finish, hbind]
  rfl

end Structured

/-- To finish a grammar is to raise each maximum to its minimum, and to say of each option that must
take a value that it may. Whether that is done or not, every line is bound to the grammar in the
same way, the same problems are found in it, the same ambiguities between it and others, whichever
comes first, its usage line and its synonyms are the same, and so are the tokens and the forms that
are offered. No difference taken for the usage line is below zero. A command with the finished
grammar does in all respects what it does with the grammar as declared. -/
theorem Grammar.finish_unseen (g : Grammar) :
    g.finish = { g with
      options := g.options.map fun o => { o with
        mayTakeValue := o.mayTakeValue || o.mustTakeValue
        declaredMaximum := max o.declaredMaximum o.minimum }
      declaredMaximum := max g.declaredMaximum g.minimum } ∧
    (∀ line, g.finish.bind line = g.bind line) ∧
    g.finish.problems = g.problems ∧
    (∀ registered, ambiguities registered g.finish = ambiguities registered g) ∧
    (∀ before after candidate, ambiguities (before ++ g.finish :: after) candidate =
      ambiguities (before ++ g :: after) candidate) ∧
    (g.usage? = some g.usage ∧ g.finish.usage? = some g.usage ∧ g.finish.usage = g.usage) ∧
    g.finish.aliases = g.aliases ∧
    (∀ line, g.finish.nameSuggestions line = g.nameSuggestions line) ∧
    (∀ input fragment,
      g.finish.optionSuggestions input fragment = g.optionSuggestions input fragment) ∧
    ∀ {S : Signature} (c : Structured S), (c.withGrammar g.finish).toCommand =
      { (c.withGrammar g).toCommand with grammar := some g.finish } := by
  have husage : g.finish.usage? = some g.usage := by rw [usage?_eq, usage_finish]
  have hregistered : ∀ before after candidate, ambiguities (before ++ g.finish :: after) candidate =
      ambiguities (before ++ g :: after) candidate :=
    fun before after => ambiguities_append_finish before after g
  exact ⟨rfl, g.bind_finish, g.problems_finish, fun _ => rfl, hregistered,
    ⟨g.usage?_eq, husage, g.usage_finish⟩, rfl, fun _ => rfl, g.optionSuggestions_finish,
    fun c => c.toCommand_finish g⟩

end LineShell
