import LineShell.Builtin.Commands
import LineShell.Proofs.Binding.OptionSlot

/-!
# Completing arguments and values

What a structured command itself offers for an argument, or for the value of an option, is put into
the slot of the caret with quotes if it needs them. The line then keeps the name it had, and the
text is the value of the word in the slot. That word is an argument, or the value of that option,
unless it begins as an option does: quotes are put on for blanks and quotes only, so an offered text
that begins with the marker and holds neither of them turns into an option
(`Structured.value_completion`).
-/

namespace LineShell

open Text

variable {S : Signature}

/-! ### Offers -/

namespace Structured

/-- What the command itself offers for the word at the caret. -/
def own (c : Structured S) (shell : Shell S) (input : Input) (fragment : String) :
    Role → List String
  | .argument => c.suggestArgument shell input fragment
  | .value id => c.suggestValue shell input id fragment
  | .name | .option _ => []

/-- At the caret of a line the command itself offers a text, for a word in a role. -/
structure Offers (c : Structured S) (shell : Shell S) (line : Line) (input : Input) (role : Role)
    (x : String) : Prop where
  pastName : c.grammar.nameSuggestions line = none
  bound : ∃ issues, c.grammar.bind line = .bound input issues
  plain : c.grammar.isOptionLike line.fragment = false
  selected : ∃ e, input.selected = some e ∧ e.role = role
  mem_own : x ∈ c.own shell input (unquote line.fragment) role

variable {c : Structured S} {shell : Shell S} {line : Line} {input : Input} {role : Role}
  {x : String}

lemma Offers.mem_suggest (h : c.Offers shell line input role x) : x ∈ c.suggest shell line := by
  obtain ⟨issues, hbind⟩ := h.bound
  obtain ⟨e, hselected, rfl⟩ := h.selected
  have hmem := h.mem_own
  simp only [suggest, h.pastName, hbind, hselected, h.plain, if_neg Bool.false_ne_true]
  cases hrole : e.role <;> rw [hrole] at hmem
  case argument => exact List.mem_append_left _ hmem
  case value => exact hmem
  case name | option => exact absurd hmem List.not_mem_nil

lemma Offers.role_ne_option (h : c.Offers shell line input role x) (owner : Option String) :
    role ≠ .option owner := by
  rintro rfl
  exact absurd h.mem_own List.not_mem_nil

end Structured

/-! ### Roles -/

namespace Grammar

variable {g : Grammar} {line : Line} {input : Input}

/-- Quotes hide how a text begins. -/
lemma isOptionLike_quote (hmarker : g.marker ≠ '"') (x : String) :
    g.isOptionLike (quote x) ↔ g.isOptionLike x ∧ needsQuotes x = false := by
  cases h : needsQuotes x with
  | false => simp [quote, h]
  | true => simpa [quote, h, isOptionLike] using hmarker.symm

/-- Words that are no options have the same role in the same place. -/
lemma roleAt_congr {word word' : String} (h : g.isOptionLike word = false)
    (h' : g.isOptionLike word' = false) (n : Nat) (words : List String) (i : Nat) :
    g.roleAt n words i word = g.roleAt n words i word' := by
  rw [roleAt, roleAt, roleAfter_of_not_isOptionLike h, roleAfter_of_not_isOptionLike h']

lemma roleAt_of_isOptionLike {n i : Nat} {word : String} (hle : n ≤ i) (h : g.isOptionLike word)
    (words : List String) :
    g.roleAt n words i word = .option ((g.optionWithForm? word).map (·.id)) := by
  rw [roleAt, if_neg (Nat.not_lt.mpr hle), roleAfter_of_isOptionLike h]

/-- Where the selected word is no option, any word which is none has its role there. -/
lemma roleAt_selected (hg : g.WellFormed) {issues : List Issue}
    (hbind : g.bind line = .bound input issues) (hle : input.nameLength ≤ line.selected)
    (hfree : ¬ PrecedesValue line input.elements) {e : Element} (he : input.selected = some e)
    (hrole : ∀ owner, e.role ≠ .option owner) {word : String}
    (hword : g.isOptionLike word = false) :
    g.roleAt input.nameLength line.words line.selected word = e.role := by
  obtain ⟨name, hname, hlength, helements, -⟩ := bind_eq_bound hbind
  cases hstarts : line.startsWord with
  | true =>
    obtain rfl := Option.some.inj (he.symm.trans (selected_of_startsWord hbind hstarts hle))
    rw [helements] at hfree ⊢
    rw [hlength] at hle ⊢
    exact (slotRole_eq hg (matchingName?_eq_some hname).2.2 hle hfree hword).symm
  | false =>
    rw [selected_of_not_startsWord hbind hstarts] at he
    obtain ⟨old, -, rfl⟩ := Option.map_eq_some_iff.mp he
    have hold : g.isOptionLike old = false := by
      by_contra hlike
      exact hrole _ (roleAt_of_isOptionLike hle (by simpa using hlike) line.words)
    exact roleAt_congr hword hold _ _ _

lemma valueTaker?_eq_none (hnone : ∀ o ∈ g.options, o.acceptsValue = false) (word : String) :
    g.valueTaker? word = none := by
  rw [valueTaker?, ite_eq_right_iff]
  intro _
  rw [Option.filter_eq_none_iff]
  intro o ho
  simp [hnone o (List.mem_of_find?_eq_some ho)]

/-- Where no option takes a value, no word is one. -/
lemma roleAt_ne_value (hnone : ∀ o ∈ g.options, o.acceptsValue = false) (n : Nat)
    (words : List String) (i : Nat) (word id : String) : g.roleAt n words i word ≠ .value id := by
  have htaker (before : Option String) : before.bind g.valueTaker? = none :=
    Option.bind_eq_none_iff.mpr fun word _ => valueTaker?_eq_none hnone word
  by_cases hname : i < n
  · rw [roleAt, if_pos hname]
    simp
  rw [roleAt, if_neg hname]
  cases hlike : g.isOptionLike word with
  | true =>
    rw [roleAfter_of_isOptionLike hlike]
    simp
  | false =>
    rw [roleAfter_of_not_isOptionLike hlike, htaker]
    simp [roleOf]

lemma not_precedesValue (hnone : ∀ o ∈ g.options, o.acceptsValue = false) {issues : List Issue}
    (hbind : g.bind line = .bound input issues) : ¬ PrecedesValue line input.elements := by
  rintro ⟨-, id, word, i, he⟩
  obtain ⟨name, hname, -, helements, -⟩ := bind_eq_bound hbind
  rw [helements, elementAt?_boundElements (matchingName?_eq_some hname).2.2] at he
  obtain ⟨word', -, he⟩ := Option.map_eq_some_iff.mp he
  exact roleAt_ne_value hnone _ _ _ _ id (congrArg Element.role he)

end Grammar

/-! ### Putting an offered text in -/

/-- A line with a text in the slot of the caret, quoted if it needs quotes, has the other words and
the name that it had, and the text is the value of the word in the slot. This word has the role
unless the text begins as an option does and needs no quotes. -/
structure Grammar.Takes (g : Grammar) (line filled : Line) (role : Role) (x : String) : Prop where
  words_eq : filled.words = if line.startsWord then line.words.insertIdx line.selected (quote x)
    else line.words.set line.selected (quote x)
  name_eq : g.matchingName? filled = g.matchingName? line
  element : ∃ input issues e, g.bind filled = .bound input issues ∧
    input.elements[line.selected]? = some e ∧ e.index = line.selected ∧ e.value = x ∧
    (e.role = role ↔ ¬ (g.isOptionLike x ∧ needsQuotes x = false))

namespace Structured

variable {c : Structured S} {shell : Shell S} {text : String} {caret : Nat} {input : Input}
  {role : Role} {x : String}

lemma Offers.takes (h : c.Offers shell (.parse text caret) input role x)
    (hg : c.grammar.WellFormed) (hmarker : c.grammar.marker ≠ '"')
    (hfree : ¬ Grammar.PrecedesValue (.parse text caret) input.elements) (caret' : Nat) :
    let line := Line.parse text caret
    c.grammar.Takes line (.parse (line.fill (quote x)) caret') role x := by
  intro line
  obtain ⟨issues, hbind⟩ := h.bound
  obtain ⟨e, he, hrole⟩ := h.selected
  have hle := Grammar.nameLength_le_selected h.pastName hbind
  obtain ⟨hwords, hname, input', issues', hbind', -, -, hat⟩ :=
    Grammar.bind_fill h.pastName hbind (standsAlone_quote x) caret'
  refine ⟨hwords, hname, input', issues', _, hbind', hat, rfl, unquote_quote x, ?_⟩
  rw [← Grammar.isOptionLike_quote hmarker]
  by_cases hlike : c.grammar.isOptionLike (quote x)
  · have hoption := Grammar.roleAt_of_isOptionLike hle hlike line.words
    exact iff_of_false (fun heq => h.role_ne_option _ (heq.symm.trans hoption)) (not_not.mpr hlike)
  · have hkept := Grammar.roleAt_selected hg hbind hle hfree he
      (fun owner => hrole ▸ h.role_ne_option owner) (by simpa using hlike)
    exact iff_of_true (hkept.trans hrole) hlike

end Structured

/-! ### Names of variables -/

namespace Builtin

/-- For its first argument the command that sets variables offers their names. -/
lemma offers_variable {shell : Shell signature} {line : Line} {input : Input} {name : String}
    (hpast : (structured .set).grammar.nameSuggestions line = none)
    (hbound : ∃ issues, (structured .set).grammar.bind line = .bound input issues)
    (hplain : (structured .set).grammar.isOptionLike line.fragment = false)
    (hfirst : isFirstArgument input) (hname : name ∈ shell.state.names)
    (hbegins : (unquote line.fragment).toList <+: name.toList) :
    (structured .set).Offers shell line input .argument name where
  pastName := hpast
  bound := hbound
  plain := hplain
  selected := by
    unfold isFirstArgument at hfirst
    split at hfirst
    · rename_i e he
      rw [Bool.and_eq_true] at hfirst
      exact ⟨e, he, by simpa [Element.isArgument] using hfirst.1⟩
    · exact absurd hfirst Bool.false_ne_true
  mem_own := by
    have hbeginning : name ∈ beginning (unquote line.fragment) shell.state.names := by
      simpa [beginning] using ⟨hname, hbegins⟩
    simpa [Structured.own, structured, suggestArgument, hfirst] using hbeginning

end Builtin

/-! ### The theorem -/

/-- Take a command with a grammar that has no problems and whose marker is not a quote. Let it offer
a text itself, for an argument or for the value of an option, at the caret of a line, and let the
caret not be in a gap before the value of an option. Then the text is among what is suggested there,
and with it in the slot of the caret, quoted if it needs quotes, the line is bound under the name
that it had, and the word in the slot has the text as value and is the argument, or the value of
that option, unless the text begins with the marker and holds neither a blank nor a quote.

This goes for each name of a variable where the first argument of the command that sets variables is
completed, since no option of that command takes a value. -/
theorem Structured.value_completion :
    (∀ (S : Signature) (c : Structured S) (shell : Shell S) (text : String) (caret : Nat)
      (input : Input) (role : Role) (x : String),
      let line := Line.parse text caret
      c.grammar.problems = [] → c.grammar.marker ≠ '"' →
      c.Offers shell line input role x → ¬ Grammar.PrecedesValue line input.elements →
      x ∈ c.suggest shell line ∧
        ∀ caret', c.grammar.Takes line (.parse (line.fill (quote x)) caret') role x) ∧
    ∀ (shell : Shell Builtin.signature) (text : String) (caret : Nat) (input : Input)
      (name : String),
      let c := Builtin.structured .set
      let line := Line.parse text caret
      c.grammar.nameSuggestions line = none →
      (∃ issues, c.grammar.bind line = .bound input issues) →
      c.grammar.isOptionLike line.fragment = false → Builtin.isFirstArgument input →
      name ∈ shell.state.names → (unquote line.fragment).toList <+: name.toList →
      name ∈ c.suggest shell line ∧
        ∀ caret', c.grammar.Takes line (.parse (line.fill (quote name)) caret') .argument name := by
  constructor
  · intro S c shell text caret input role x line hg hmarker h hfree
    exact ⟨h.mem_suggest, h.takes (Grammar.problems_eq_nil_iff.mp hg) hmarker hfree⟩
  · intro shell text caret input name c line hpast hbound hplain hfirst hname hbegins
    have h := Builtin.offers_variable hpast hbound hplain hfirst hname hbegins
    have hg : c.grammar.problems = [] := by decide
    have hmarker : c.grammar.marker ≠ '"' := by decide
    have hnone : ∀ o ∈ c.grammar.options, o.acceptsValue = false := by decide
    obtain ⟨issues, hbind⟩ := hbound
    exact ⟨h.mem_suggest, h.takes (Grammar.problems_eq_nil_iff.mp hg) hmarker
      (Grammar.not_precedesValue hnone hbind)⟩

/-- A name with a blank stays a name however it begins, and so does the value of an option. -/
theorem Structured.value_completion_quoted :
    let set := (Builtin.structured .set).grammar
    let run := (Grammar.named ["run"]).withOption
      { id := "level", forms := ["--level"], mayTakeValue := true }
    (∃ input issues e, set.bind (.parse "set \"-x y\"" 0) = .bound input issues ∧
      input.elements[1]? = some e ∧ e.role = .argument ∧ e.value = "-x y") ∧
    ∃ input issues e, run.bind (.parse "run --level seven 8" 0) = .bound input issues ∧
      input.elements[2]? = some e ∧ e.role = .value "level" ∧ e.value = "seven" := by
  intro set run
  constructor
  · let shell : Shell Builtin.signature :=
      { state := ⟨[("-x y", "1")]⟩, history := .inMemory 5 }
    let line := Line.parse "set \"-" 6
    have hname : set.matchingName? line = some ["set"] := by decide +kernel
    obtain ⟨-, htakes⟩ := value_completion.2 shell "set \"-" 6 _ "-x y" (by decide +kernel)
      ⟨_, Grammar.bind_of_matchingName? hname⟩ (by decide +kernel) (by decide +kernel)
      (by decide +kernel) (by decide +kernel)
    obtain ⟨-, -, input, issues, e, hbind, he, -, hvalue, hrole⟩ := htakes 0
    have htext : line.fill (quote "-x y") = "set \"-x y\"" := by decide +kernel
    have hselected : line.selected = 1 := by decide +kernel
    rw [htext] at hbind
    rw [hselected] at he
    exact ⟨input, issues, e, hbind, he, hrole.mpr (by decide), hvalue⟩
  · let c : Structured Builtin.signature :=
      { grammar := run, execute := fun _ _ => .done (), suggestValue := fun _ _ _ _ => ["seven"] }
    let shell : Shell Builtin.signature := { state := {}, history := .inMemory 5 }
    let line := Line.parse "run --level s 8" 13
    let elements := run.boundElements line 1
    let input : Input := ⟨elements, 1, run.selectedElement line elements 1⟩
    have hname : run.matchingName? line = some ["run"] := by decide +kernel
    have hoffers : c.Offers shell line input (.value "level") "seven" :=
      ⟨by decide +kernel, ⟨_, Grammar.bind_of_matchingName? hname⟩, by decide +kernel,
        ⟨⟨.value "level", "s", 2⟩, by decide +kernel, rfl⟩, List.mem_cons_self⟩
    have hfree : ¬ Grammar.PrecedesValue line input.elements :=
      fun h => absurd h.1 (by decide +kernel)
    obtain ⟨-, htakes⟩ := value_completion.1 Builtin.signature c shell "run --level s 8" 13 input
      (.value "level") "seven" (by decide) (by decide) hoffers hfree
    obtain ⟨-, -, input', issues, e, hbind, he, -, hvalue, hrole⟩ := htakes 0
    have htext : line.fill (quote "seven") = "run --level seven 8" := by decide +kernel
    have hselected : line.selected = 2 := by decide +kernel
    rw [htext] at hbind
    rw [hselected] at he
    exact ⟨input', issues, e, hbind, he, hrole.mpr (by decide), hvalue⟩

/-- A variable whose name begins as an option does and needs no quotes is offered as an argument,
and completed it is an unknown option. -/
theorem Builtin.variable_completed_as_option :
    let c := Builtin.structured .set
    let shell : Shell Builtin.signature := { state := ⟨[("-x", "1")]⟩, history := .inMemory 5 }
    let line := Line.parse "set \"-" 6
    c.grammar.problems = [] ∧ c.grammar.marker ≠ '"' ∧
      ∃ input, c.Offers shell line input .argument "-x" ∧
        ¬ Grammar.PrecedesValue line input.elements ∧
        ∀ caret',
          let filled := Line.parse (line.fill (quote "-x")) caret'
          c.grammar.matchingName? filled = c.grammar.matchingName? line ∧
          ∃ input' issues', c.grammar.bind filled = .bound input' issues' ∧
            input'.elements[line.selected]? = some ⟨.option none, "-x", line.selected⟩ := by
  intro c shell line
  have hname : c.grammar.matchingName? line = some ["set"] := by decide +kernel
  have hbound := Grammar.bind_of_matchingName? hname
  have hoffers : c.Offers shell line _ .argument "-x" :=
    offers_variable (by decide +kernel) ⟨_, hbound⟩ (by decide +kernel) (by decide +kernel)
      (by decide +kernel) (by decide +kernel)
  refine ⟨by decide, by decide, _, hoffers, fun h => absurd h.1 (by decide +kernel), ?_⟩
  intro caret' filled
  obtain ⟨-, hname', input', issues', hbind', -, -, hat⟩ :=
    Grammar.bind_fill hoffers.pastName hbound (standsAlone_quote "-x") caret'
  have hrole : c.grammar.roleAt 1 line.words line.selected (quote "-x") = .option none := by
    decide +kernel
  have hquote : quote "-x" = "-x" := by decide
  refine ⟨hname', input', issues', hbind', hat.trans ?_⟩
  rw [← hquote, ← hrole]
  rfl

end LineShell
