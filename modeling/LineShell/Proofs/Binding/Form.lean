import LineShell.Proofs.Binding.Call
import LineShell.Proofs.Binding.Roles
import LineShell.Proofs.Line.Slices
import LineShell.Proofs.Line.Slot

/-!
# Typing the forms of options

A grammar without problems may yet have options that nobody can type, for a form is compared with
one word of the line, and a form may hold blanks. On the line of a call the form is found again just
if no blank of it stands outside a quoted span (`bind_form_iff`).
-/

namespace LineShell

namespace Line

/-- After words with a space behind each, a line goes on as if it began there. -/
lemma words_parse_spaced_append {words : List String} (hwords : ∀ w ∈ words, StandsAlone w.toList)
    (text : String) (caret : Nat) :
    (parse (String.join (words.map (· ++ " ")) ++ text) caret).words =
      words ++ (parse text caret).words := by
  obtain ⟨vs, hvs, hwords⟩ := exists_delimits_spaced hwords 0
  obtain ⟨ws, hws⟩ := exists_cut 0 text.toList
  obtain ⟨us, hus, hchars⟩ := hws.moved (0 + (String.join (words.map (· ++ " "))).toList.length)
  have hcut := hvs _ _ hus
  rw [← String.toList_append] at hcut
  have hrest : us.map (fun w => String.ofList w.chars) =
      ws.map fun w => String.ofList w.chars := by
    have := congrArg (List.map String.ofList) hchars
    rwa [List.map_map, List.map_map] at this
  rw [words_parse_of_cut hcut, words_parse_of_cut hws, List.map_append, hwords, hrest]

/-- A text is its own first word just if no blank breaks it. -/
lemma head?_words_parse_iff {text : String} (hne : text ≠ "") (caret : Nat) :
    (parse text caret).words.head? = some text ↔ Quoting.bare.Unbroken text.toList := by
  constructor
  · intro h
    exact (unbroken_of_mem_words (List.mem_of_mem_head? h)).2
  · intro h
    rw [words_parse_eq_singleton_iff.mpr ⟨hne, h⟩, List.head?_cons]

end Line

namespace Grammar

variable {g : Grammar} {o : OptionGrammar} {form : String}

/-- The words of a call with a single option are those of the name and of the form. -/
lemma words_call_option (g : Grammar) (form : String) (caret : Nat) :
    (Line.parse (g.call [.option form]) caret).words =
      (g.names.headD []).map quote ++ (Line.parse form caret).words := by
  have hcall : g.call [.option form] =
      String.join (((g.names.headD []).map quote).map (· ++ " ")) ++ form :=
    Line.intercalate_concat _ form
  rw [hcall, Line.words_parse_spaced_append]
  exact List.forall_mem_map.mpr fun token _ => standsAlone_quote token

/-- A call with a form of an option is bound to the grammar, and the word after the name is this
option in this form just if no blank of the form stands outside a quoted span. -/
theorem bind_form_iff (hg : g.problems = []) (ho : o ∈ g.options) (hf : form ∈ o.forms)
    (caret : Nat) :
    ∃ input issues, g.bind (Line.parse (g.call [.option form]) caret) = .bound input issues ∧
      input.nameLength = (g.names.headD []).length ∧
      (input.elements[input.nameLength]? =
          some ⟨.option (some o.id), form, input.nameLength⟩ ↔
        ∀ i c, form.toList[i]? = some c → Text.isBlank c → ¬ SpansClosed (form.toList.take i)) := by
  have hg := problems_eq_nil_iff.mp hg
  have hwords := words_call_option g form caret
  have hname := matchingName?_of_words hg hwords
  generalize Line.parse (g.call [.option form]) caret = line at hwords hname
  generalize g.names.headD [] = name at hwords hname
  refine ⟨_, _, bind_of_matchingName? hname, rfl, ?_⟩
  have hnext : line.words[name.length]? = (Line.parse form caret).words.head? := by
    rw [hwords, List.getElem?_append_right (by rw [List.length_map]), List.length_map,
      Nat.sub_self, List.head?_eq_getElem?]
  have hrole : g.roleAt name.length line.words name.length form = .option (some o.id) := by
    rw [roleAt, if_neg (Nat.lt_irrefl _), roleAfter_of_isOptionLike (hg.isOptionLike ho hf),
      hg.optionWithForm?_eq ho hf, Option.map_some]
  rw [← Quoting.unbroken_iff, ← Line.head?_words_parse_iff (hg.form_ne_empty ho hf) caret, ← hnext]
  dsimp only
  rw [boundElements_eq_mapIdx (matchingName?_eq_some hname).2.2, List.getElem?_mapIdx,
    Option.map_eq_some_iff]
  constructor
  · rintro ⟨word, hword, helement⟩
    obtain rfl : word = form := congrArg Element.text helement
    exact hword
  · intro hword
    exact ⟨form, hword, by rw [hrole]⟩

/-- A blank within a span does no harm, though the span is never closed. -/
theorem bind_form_iff_quoted :
    let o : OptionGrammar := { id := "a", forms := ["-a", "-\"a b"] }
    let g := (named ["get", "it"]).withOption o
    g.problems = [] ∧ o ∈ g.options ∧ "-\"a b" ∈ o.forms ∧
      ∃ input issues, g.bind (Line.parse (g.call [.option "-\"a b"]) 0) = .bound input issues ∧
        input.elements[2]? = some ⟨.option (some "a"), "-\"a b", 2⟩ := by
  intro o g
  have hg : g.problems = [] := by decide
  have ho : o ∈ g.options := by decide
  have hf : "-\"a b" ∈ o.forms := by decide
  obtain ⟨input, issues, hbind, hlength, hiff⟩ := bind_form_iff hg ho hf 0
  have hunbroken : Quoting.bare.Unbroken "-\"a b".toList := by decide
  have helement := hiff.mpr (Quoting.unbroken_iff.mp hunbroken)
  rw [hlength] at helement
  exact ⟨hg, ho, hf, input, issues, hbind, helement⟩

/-- A form with a blank goes through as a form, but it is read as two words, none of which is the
option. -/
theorem spaced_form_unrecognized :
    let g := (named ["get"]).withOption { id := "a", forms := ["-a b"] }
    g.problems = [] ∧ g.call [.option "-a b"] = "get -a b" ∧
      ∃ input, g.bind (Line.parse (g.call [.option "-a b"]) 0) =
          .bound input [.unrecognizedOption "-a", .tooManyArguments 0 1] ∧
        input.elements[1]? = some ⟨.option none, "-a", 1⟩ := by
  intro g
  have hbind : g.bind (Line.parse (g.call [.option "-a b"]) 0) =
      .bound ⟨[⟨.name, "get", 0⟩, ⟨.option none, "-a", 1⟩, ⟨.argument, "b", 2⟩], 1,
        some ⟨.name, "get", 0⟩⟩ [.unrecognizedOption "-a", .tooManyArguments 0 1] := by
    decide +kernel
  exact ⟨by decide, by decide, _, hbind, rfl⟩

end Grammar

end LineShell
