import LineShell.Builtin.Commands
import LineShell.Proofs.Binding.OptionSlot

/-!
# Completing options

Where a structured command offers forms of options, it offers just those that begin with what stands
before the caret and that belong to an option which may occur once more, the word at the caret not
counted. With any of them put into the slot of the caret the line keeps the name it had, and the
option is one of its words and does not occur too often (`Structured.option_completion`).
-/

namespace LineShell

open Text

variable {S : Signature}

/-- The caret of a bound line is where forms of options are offered: up to the caret the word begins
as an option does, or the word is an option, or an argument could begin there. -/
structure Grammar.OffersOptions (g : Grammar) (line : Line) (input : Input) (selected : Element) :
    Prop where
  pastName : g.nameSuggestions line = none
  bound : ∃ issues, g.bind line = .bound input issues
  selected_eq : input.selected = some selected
  place : g.isOptionLike line.fragment ∨ (∃ owner, selected.role = .option owner) ∨
    selected.role = .argument ∧ selected.isEmpty

namespace Grammar

variable {g : Grammar} {line : Line} {input : Input} {selected : Element}

/-- The forms that are offered. -/
lemma mem_optionSuggestions_iff {fragment form : String} :
    form ∈ g.optionSuggestions input fragment ↔ ∃ o ∈ g.options, form ∈ o.forms ∧
      fragment.toList <+: form.toList ∧ otherOccurrences input o < o.maximum := by
  simp only [optionSuggestions, List.mem_flatMap, List.mem_filter, decide_eq_true_eq,
    List.isPrefixOf_iff_prefix]
  constructor
  · rintro ⟨o, ⟨ho, hcount⟩, hf, hprefix⟩
    exact ⟨o, ho, hf, hprefix, hcount⟩
  · rintro ⟨o, ho, hf, hprefix, hcount⟩
    exact ⟨o, ⟨ho, hcount⟩, hf, hprefix⟩

/-- The caret is past the name. -/
lemma OffersOptions.nameLength_le {text : String} {caret : Nat}
    (h : g.OffersOptions (.parse text caret) input selected) :
    input.nameLength ≤ (Line.parse text caret).selected := by
  obtain ⟨issues, hbind⟩ := h.bound
  exact nameLength_le_selected h.pastName hbind

/-! ### A form in the slot -/

section

variable {text form : String} {caret : Nat} {o : OptionGrammar}

/-- The forms that are offered, by a count that leaves the word at the caret out. -/
lemma OffersOptions.mem_iff (h : g.OffersOptions (.parse text caret) input selected) :
    form ∈ g.optionSuggestions input (Line.parse text caret).fragment ↔
      ∃ o ∈ g.options, form ∈ o.forms ∧
        (Line.parse text caret).fragment.toList <+: form.toList ∧
        occurrencesApart (.parse text caret) input o.id < o.maximum := by
  obtain ⟨xs, ys, hxs, hwords, -, hinside⟩ := Line.exists_parts text caret
  obtain ⟨issues, hbind⟩ := h.bound
  have hcount := otherOccurrences_eq hbind h.nameLength_le fun hstarts => by
    obtain ⟨word, hword, -⟩ := hinside hstarts
    exact ⟨xs, word, ys, by rw [hwords, hword]; rfl, hxs.symm⟩
  simp only [mem_optionSuggestions_iff, hcount]

/-- An empty word at the caret is one that is still to be typed. -/
lemma OffersOptions.fragment_eq_empty (h : g.OffersOptions (.parse text caret) input selected)
    (hempty : selected.isEmpty) : (Line.parse text caret).fragment = "" := by
  obtain ⟨xs, ys, hxs, hwords, -, hinside⟩ := Line.exists_parts text caret
  obtain ⟨issues, hbind⟩ := h.bound
  cases hstarts : (Line.parse text caret).startsWord with
  | true => rw [Line.fragment, Line.selectedWord, if_pos hstarts]
  | false =>
    obtain ⟨word, hword, hne⟩ := hinside hstarts
    rw [hword] at hwords
    have hle := h.nameLength_le
    obtain ⟨before, hselected⟩ := selected_of_inside hbind hstarts (by omega) hxs.symm hwords
    obtain rfl := Option.some.inj (h.selected_eq.symm.trans hselected)
    exact absurd (String.isEmpty_iff.mp hempty) hne

/-- A form that is offered is an occurrence of its option wherever it stands. -/
lemma isOccurrence_of_form (hg : g.WellFormed) (ho : o ∈ g.options) (hf : form ∈ o.forms) :
    g.isOccurrence o.id form = true := by
  rw [isOccurrence, hg.isOptionLike ho hf, hg.optionWithForm?_eq ho hf]
  simp

/-- With a form in the slot of the caret, the line keeps its name and the form is one of its
options. -/
lemma OffersOptions.bind_fill (h : g.OffersOptions (.parse text caret) input selected)
    (hg : g.WellFormed) (ho : o ∈ g.options) (hf : form ∈ o.forms)
    (hplain : ∀ a ∈ form.toList, isBlank a = false ∧ a ≠ '"')
    (hcount : occurrencesApart (.parse text caret) input o.id < o.maximum) (caret' : Nat) :
    let line := Line.parse text caret
    let filled := Line.parse (line.fill form) caret'
    filled.words = line.fillWords form ∧ g.matchingName? filled = g.matchingName? line ∧
      ∃ input' issues', g.bind filled = .bound input' issues' ∧
        input'.nameLength = input.nameLength ∧
        input'.elements[line.selected]? = some ⟨.option (some o.id), form, line.selected⟩ ∧
        input'.optionCount o.id ≤ o.maximum := by
  intro line filled
  obtain ⟨xs, ys, hxs, hwords, hfill, hinside⟩ := Line.exists_parts text caret
  obtain ⟨issues, hbind⟩ := h.bound
  have hne : form.toList ≠ [] := by simpa using hg.form_ne_empty ho hf
  obtain ⟨hfilled, hmatch, input', issues', hbind', hlength, helements, hat⟩ :=
    Grammar.bind_fill h.pastName hbind (standsAlone_of_plain hne hplain) caret'
  have hle : input.nameLength ≤ line.selected := h.nameLength_le
  refine ⟨hfilled, hmatch, input', issues', hbind', hlength, ?_, ?_⟩
  · rw [hat, roleAt, if_neg (Nat.not_lt.mpr hle), roleAfter_of_isOptionLike (hg.isOptionLike ho hf),
      hg.optionWithForm?_eq ho hf, Option.map_some]
  · have hother := occurrencesApart_eq hbind (by rwa [hxs]) hxs.symm hwords
      (fun hstarts => (hinside hstarts).imp fun _ => And.left) o.id
    rw [hother] at hcount
    rw [Input.optionCount, helements,
      countP_boundElements_of_words (hfilled.trans (hfill form)) (by rwa [hxs]),
      if_pos (isOccurrence_of_form hg ho hf)]
    exact hcount

end

end Grammar

namespace Structured

variable {c : Structured S} {text : String} {caret : Nat} {input : Input} {selected : Element}

/-- What a command offers ends with the forms of options. Where an argument could begin there is
something else before them. -/
lemma exists_suggest_eq (h : c.grammar.OffersOptions (.parse text caret) input selected)
    (shell : Shell S) :
    ∃ own, c.suggest shell (.parse text caret) =
        own ++ c.grammar.optionSuggestions input (Line.parse text caret).fragment ∧
      (own = [] ∨ selected.role = .argument ∧ selected.isEmpty) := by
  obtain ⟨issues, hbind⟩ := h.bound
  simp only [suggest, h.pastName, hbind, h.selected_eq]
  by_cases hlike : c.grammar.isOptionLike (Line.parse text caret).fragment
  · rw [if_pos hlike]
    exact ⟨[], rfl, .inl rfl⟩
  · rw [if_neg hlike]
    rcases h.place.resolve_left hlike with ⟨owner, hrole⟩ | ⟨hrole, hempty⟩
    · rw [hrole]
      exact ⟨[], rfl, .inl rfl⟩
    · rw [hrole, hempty, h.fragment_eq_empty hempty]
      exact ⟨_, rfl, .inr ⟨rfl, rfl⟩⟩

/-- Take a command with a grammar that has no problems and whose forms hold no blank and no quote,
and a line at whose caret forms of options are offered.

What the command offers there ends with these forms, which are all forms that begin with the
fragment at the caret and that belong to an option which occurs less often than it may in the words
other than the one at the caret. If such a form takes the place of the word at the caret, or becomes
one more word there, then the line is bound under the same name, its word at that index is the
option, and the option occurs no more often than it may. -/
theorem option_completion (c : Structured S) (shell : Shell S) (text : String) (caret : Nat)
    {input : Input} {selected : Element} (hg : c.grammar.problems = [])
    (hplain : ∀ o ∈ c.grammar.options, ∀ form ∈ o.forms, ∀ a ∈ form.toList,
      isBlank a = false ∧ a ≠ '"')
    (h : c.grammar.OffersOptions (.parse text caret) input selected) :
    let line := Line.parse text caret
    let offered := c.grammar.optionSuggestions input line.fragment
    (∃ own, c.suggest shell line = own ++ offered ∧
      (own = [] ∨ selected.role = .argument ∧ selected.isEmpty)) ∧
    (∀ form, form ∈ offered ↔ ∃ o ∈ c.grammar.options, form ∈ o.forms ∧
      line.fragment.toList <+: form.toList ∧
      Grammar.occurrencesApart line input o.id < o.maximum) ∧
    ∀ form ∈ offered, ∃ o ∈ c.grammar.options, form ∈ o.forms ∧ ∀ caret',
      let filled := Line.parse (line.fill form) caret'
      filled.words = (if line.startsWord then line.words.insertIdx line.selected form
        else line.words.set line.selected form) ∧
      c.grammar.matchingName? filled = c.grammar.matchingName? line ∧
      ∃ input' issues', c.grammar.bind filled = .bound input' issues' ∧
        input'.nameLength = input.nameLength ∧
        input'.elements[line.selected]? = some ⟨.option (some o.id), form, line.selected⟩ ∧
        input'.optionCount o.id ≤ o.maximum := by
  intro line offered
  have hwell : c.grammar.WellFormed := Grammar.problems_eq_nil_iff.mp hg
  refine ⟨exists_suggest_eq h shell, fun form => h.mem_iff, fun form hform => ?_⟩
  obtain ⟨o, ho, hf, -, hcount⟩ := h.mem_iff.mp hform
  exact ⟨o, ho, hf, h.bind_fill hwell ho hf (hplain o ho form hf) hcount⟩

/-- An option that is on the line already is not offered again, and both forms of the other one
are. -/
theorem option_completion_run :
    let g := ((Grammar.named ["run"]).withOption { id := "dry", forms := ["--dry"] }).withOption
      { id := "level", forms := ["--level", "-l"], mayTakeValue := true }
    let line := Line.parse "run --dry 1 -" 13
    g.problems = [] ∧
      (∀ o ∈ g.options, ∀ form ∈ o.forms, ∀ a ∈ form.toList, isBlank a = false ∧ a ≠ '"') ∧
      ∃ input selected, g.OffersOptions line input selected ∧
        g.optionSuggestions input line.fragment = ["--level", "-l"] ∧
        ∃ input' issues', g.bind (.parse "run --dry 1 --level" 0) = .bound input' issues' ∧
          input'.elements[3]? = some ⟨.option (some "level"), "--level", 3⟩ ∧
          input'.optionCount "level" ≤ 1 := by
  intro g line
  let c : Structured Builtin.signature := { grammar := g, execute := fun _ _ => .done () }
  let shell : Shell Builtin.signature := { state := {}, history := .inMemory 5 }
  have hg : g.problems = [] := by decide
  have hbare : ∀ o ∈ g.options, ∀ form ∈ o.forms, needsQuotes form = false := by decide
  have hplain : ∀ o ∈ g.options, ∀ form ∈ o.forms, ∀ a ∈ form.toList,
      isBlank a = false ∧ a ≠ '"' :=
    fun o ho form hf => (needsQuotes_eq_false_iff.mp (hbare o ho form hf)).2
  let elements := g.boundElements line 1
  let input : Input := ⟨elements, 1, g.selectedElement line elements 1⟩
  have hname : g.matchingName? line = some ["run"] := by decide +kernel
  have hoffers : g.OffersOptions line input ⟨.option none, "-", 3⟩ :=
    ⟨by decide +kernel, ⟨_, Grammar.bind_of_matchingName? hname⟩, by decide +kernel,
      .inl (by decide +kernel)⟩
  have hoffered : g.optionSuggestions input line.fragment = ["--level", "-l"] := by
    decide +kernel
  obtain ⟨-, -, haccept⟩ := option_completion c shell "run --dry 1 -" 13 hg hplain hoffers
  obtain ⟨o, ho, hf, hfill⟩ := haccept "--level" (by rw [hoffered]; exact List.mem_cons_self)
  have howner : ∀ o ∈ g.options, "--level" ∈ o.forms → o.id = "level" ∧ o.maximum = 1 := by decide
  obtain ⟨hid, hmaximum⟩ := howner o ho hf
  obtain ⟨-, -, input', issues', hbind, -, helement, hcount⟩ := hfill 0
  rw [hid] at helement hcount
  rw [hmaximum] at hcount
  have hselected : line.selected = 3 := by decide +kernel
  have htext : line.fill "--level" = "run --dry 1 --level" := by decide +kernel
  rw [hselected] at helement
  rw [htext] at hbind
  exact ⟨hg, hplain, input, _, hoffers, hoffered, input', issues', hbind, helement, hcount⟩

end Structured

end LineShell
