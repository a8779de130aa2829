import LineShell.Proofs.Binding.OptionSlot
import LineShell.Proofs.Line.Typing

/-!
# The empty element at the caret

Where the caret is outside all words, binding a line gives an empty element for the word that could
be typed there. Its role is settled without that word, by the element before it and the option that
this one is of. It is the role that the word gets once it is typed, unless an option with its value
stands around the caret: then the empty element is an argument, and the word would be the value
(`Grammar.slot_foretells`).
-/

namespace LineShell.Grammar

open Text

variable {g : Grammar} {line : Line} {input : Input} {issues : List Issue}

lemma precedesValue_iff (hbind : g.bind line = .bound input issues) (hstarts : line.startsWord) :
    PrecedesValue line input.elements ↔
      ∃ e id, input.elements[line.selected]? = some e ∧ e.role = .value id := by
  obtain ⟨name, hname, -, helements, -⟩ := bind_eq_bound hbind
  have hn := (matchingName?_eq_some hname).2.2
  have hat : elementAt? input.elements line.selected = input.elements[line.selected]? := by
    rw [helements, elementAt?_boundElements hn, getElem?_boundElements hn]
  rw [PrecedesValue, hat]
  constructor
  · rintro ⟨-, id, word, i, he⟩
    exact ⟨_, id, he, rfl⟩
  · rintro ⟨⟨role, word, i⟩, id, he, rfl⟩
    refine ⟨?_, id, word, i, he⟩
    rw [helements, getElem?_boundElements hn] at he
    obtain ⟨word', hword', -⟩ := Option.map_eq_some_iff.mp he
    have hlt : line.selected < line.words.length := (List.getElem?_eq_some_iff.mp hword').1
    simpa [Line.isBetweenWords, hlt] using hstarts

/-- Take a grammar without problems and a line that is bound under a name, with the caret outside
all words. Within the name no element is selected. Past it an empty element of the selected index
is. It is an argument if the word of that index is the value of an option. If it is not, let a word
without blanks and quotes be typed at the caret that does not begin as an option does, and let the
line keep its name: then that word has the index and the role of the empty element. -/
theorem slot_foretells {text : String} {caret : Nat} {name : List String} (hg : g.problems = [])
    (hstarts : (Line.parse text caret).startsWord)
    (hname : g.matchingName? (.parse text caret) = some name)
    (hbind : g.bind (.parse text caret) = .bound input issues) :
    let line := Line.parse text caret
    let k := line.selected
    (k < name.length → input.selected = none) ∧
    (name.length ≤ k → ∃ role, input.selected = some ⟨role, "", k⟩ ∧
      ((∃ e id, input.elements[k]? = some e ∧ e.role = .value id) → role = .argument) ∧
      ((¬ ∃ e id, input.elements[k]? = some e ∧ e.role = .value id) →
        ∀ word, word ≠ "" → (∀ a ∈ word.toList, isBlank a = false ∧ a ≠ '"') →
          g.isOptionLike word = false → ∀ caret',
            let typed := Line.parse (line.typed word) caret'
            g.matchingName? typed = some name →
              ∃ input' issues', g.bind typed = .bound input' issues' ∧
                input'.elements[k]? = some ⟨role, word, k⟩)) := by
  intro line k
  obtain ⟨name', hname', hlength, helements, -⟩ := bind_eq_bound hbind
  obtain rfl : name = name' := Option.some.inj (hname.symm.trans hname')
  refine ⟨fun hlt => ?_, fun hle => ⟨g.slotRole line input.elements, ?_, fun hvalue => ?_, ?_⟩⟩
  · rw [selected_of_bind hbind, selectedElement, hstarts, if_neg (by simp), hlength, if_pos hlt]
  · exact selected_of_startsWord hbind hstarts (hlength ▸ hle)
  · exact slotRole_of_precedesValue ((precedesValue_iff hbind hstarts).mpr hvalue)
  · intro hvalue word hne hplain hlike caret' typed hkept
    have hword : StandsAlone word.toList := standsAlone_of_plain (by simpa using hne) hplain
    have hfree : ¬ PrecedesValue line (g.boundElements line name.length) := by
      rwa [← helements, precedesValue_iff hbind hstarts]
    have hrole : g.slotRole line input.elements =
        g.roleAt name.length line.words line.selected word := by
      rw [helements]
      exact slotRole_eq (problems_eq_nil_iff.mp hg) (matchingName?_eq_some hname).2.2 hle hfree
        hlike
    refine ⟨_, _, bind_of_matchingName? hkept, ?_⟩
    rw [hrole]
    have hat : (g.boundElements (.parse (line.fill word) caret') name.length)[k]? = _ :=
      getElem?_boundElements_fill hle hword caret'
    rwa [Line.fill_of_startsWord hstarts] at hat

/-- The caret is between an option and another one: what is typed there is the value of the first
one. -/
theorem slot_foretells_value :
    let level : OptionGrammar := { id := "level", forms := ["--level"], mayTakeValue := true }
    let g : Grammar := { names := [["run", "all"], ["run"]], options := [level] }
    let line := Line.parse "run --level  -x" 12
    let input : Input :=
      { elements := [⟨.name, "run", 0⟩, ⟨.option "level", "--level", 1⟩, ⟨.option none, "-x", 2⟩]
        nameLength := 1
        selected := some ⟨.value "level", "", 2⟩ }
    g.problems = [] ∧ line.startsWord ∧ g.matchingName? line = some ["run"] ∧
      g.bind line = .bound input [.unrecognizedOption "-x"] ∧ line.typed "7" = "run --level 7 -x" ∧
      ∃ input' issues', g.bind (.parse "run --level 7 -x" 13) = .bound input' issues' ∧
        input'.elements[2]? = some ⟨.value "level", "7", 2⟩ := by
  intro level g line input
  have hg : g.problems = [] := by decide +kernel
  have hstarts : line.startsWord := by decide
  have hname : g.matchingName? line = some ["run"] := by decide +kernel
  have hbind : g.bind line = .bound input [.unrecognizedOption "-x"] := by decide +kernel
  have htyped : line.typed "7" = "run --level 7 -x" := by decide
  have hselected : line.selected = 2 := by decide
  have hfree : ¬ ∃ e id, input.elements[2]? = some e ∧ e.role = .value id := by
    rintro ⟨e, id, he, hrole⟩
    obtain rfl := Option.some.inj he
    cases hrole
  obtain ⟨-, hpast⟩ := slot_foretells hg hstarts hname hbind
  obtain ⟨role, hslot, -, hforetold⟩ := hpast (by rw [hselected]; decide)
  rw [hselected] at hslot hforetold
  have hrole : Role.value "level" = role := congrArg Element.role (Option.some.inj hslot)
  have hbound := hforetold hfree "7" (by decide) (by simp; decide) (by decide) 13
  rw [htyped, ← hrole] at hbound
  exact ⟨hg, hstarts, hname, hbind, htyped, hbound (by decide +kernel)⟩

end LineShell.Grammar
