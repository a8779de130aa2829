import LineShell.Builtin.Commands
import LineShell.Proofs.Binding.OptionSlot
import LineShell.Proofs.Shell.Firsts

/-!
# Completing names

Where the words before the caret are the beginning of a name, tokens of names are offered: the next
tokens of all names that begin so, as far as they begin with what stands before the caret. Any of
them put into the slot of the caret makes the line agree with one more token of each name that it
was taken from (`Structured.name_completion`).
-/

namespace LineShell

open Text

variable {S : Signature}

namespace Grammar

variable {g : Grammar} {line : Line} {words name : List String} {k : Nat}

/-- A name goes on after so many words: they agree with its first tokens, and it has another one. -/
def GoesOn (name words : List String) (k : Nat) : Prop :=
  k < name.length ∧ foldName (name.take k) = foldWords (words.take k)

instance (name words : List String) (k : Nat) : Decidable (GoesOn name words k) :=
  inferInstanceAs (Decidable (_ ∧ _))

/-- The tokens with which names go on after so many words, as far as they begin with a fragment. -/
def nextTokens (g : Grammar) (words : List String) (k : Nat) (fragment : String) : List String :=
  ((g.names.filter (GoesOn · words k)).filterMap (·[k]?)).filter
    (startsWithIgnoringCase · fragment)

lemma mem_nextTokens_iff {fragment token : String} :
    token ∈ g.nextTokens words k fragment ↔ ∃ name ∈ g.names, GoesOn name words k ∧
      name[k]? = some token ∧ foldCase fragment <+: foldCase token := by
  simp only [nextTokens, List.mem_filter, List.mem_filterMap, decide_eq_true_eq,
    startsWithIgnoringCase_iff]
  constructor
  · rintro ⟨⟨name, ⟨hname, hgoes⟩, htoken⟩, hbegins⟩
    exact ⟨name, hname, hgoes, htoken, hbegins⟩
  · rintro ⟨name, hname, hgoes, htoken, hbegins⟩
    exact ⟨⟨name, ⟨hname, hgoes⟩, htoken⟩, hbegins⟩

lemma goesOn_iff (hk : k ≤ words.length) :
    GoesOn name words k ↔ k < name.length ∧ namePartMatches words name k := by
  refine and_congr_right fun hlt => ?_
  have hlength : (foldName (name.take k)).length = k := by
    rw [foldName, List.length_map, List.length_take_of_le hlt.le]
  have hfold : foldWords (words.take k) = (foldWords words).take k := List.map_take
  rw [namePartMatches_iff hk, List.prefix_iff_eq_take, hlength, hfold]

lemma openNames_eq (hk : line.selected ≤ line.words.length) :
    g.openNames line = g.names.filter (GoesOn · line.words line.selected) := by
  refine List.filter_congr fun name _ => Bool.eq_iff_iff.mpr ?_
  rw [decide_eq_true_eq, goesOn_iff hk, Bool.and_eq_true, decide_eq_true_eq]

/-- What is offered are tokens of the names that the words before the caret begin, each of them
once. -/
lemma areFirsts_nameSuggestions {offered : List String}
    (h : g.nameSuggestions line = some offered) :
    AreFirsts Eq (((g.openNames line).filterMap (·[line.selected]?)).filter
      (startsWithIgnoringCase · (unquote line.fragment))) offered := by
  rw [nameSuggestions] at h
  split at h
  · cases h
  · obtain rfl := Option.some.inj h
    exact areFirsts_foldl (fun found token h => if_pos (by simpa using h))
      (fun found token h => if_neg fun hmem => h token hmem rfl) _

lemma areFirsts_nextTokens (hk : line.selected ≤ line.words.length) {offered : List String}
    (h : g.nameSuggestions line = some offered) :
    AreFirsts Eq (g.nextTokens line.words line.selected (unquote line.fragment)) offered := by
  rw [nextTokens, ← openNames_eq hk]
  exact areFirsts_nameSuggestions h

/-- With the next token of a name after these words, they agree with one more token of it. -/
lemma GoesOn.foldName_take_succ {xs ys : List String} {token : String}
    (h : GoesOn name (xs ++ ys) xs.length) (htoken : name[xs.length]? = some token)
    (rest : List String) :
    foldName (name.take (xs.length + 1)) =
      foldWords ((xs ++ quote token :: rest).take (xs.length + 1)) := by
  have hagree := h.2
  rw [List.take_left] at hagree
  have hlast : foldCase token = foldCase (unquote (quote token)) := by rw [unquote_quote]
  calc foldName (name.take (xs.length + 1))
      = foldName (name.take xs.length) ++ [foldCase token] := by
        simp [foldName, List.take_add_one, htoken]
    _ = foldWords xs ++ foldWords [quote token] := by rw [hagree, hlast]; rfl
    _ = foldWords ((xs ++ quote token :: rest).take (xs.length + 1)) := by
        simp [foldWords, List.take_append, List.take_of_length_le]

/-- A line that agrees with all tokens of a name is bound. -/
lemma isMismatch_bind_of_foldName_take (hname : name ∈ g.names)
    (h : foldName (name.take (k + 1)) = foldWords (line.words.take (k + 1)))
    (hlength : name.length = k + 1) : (g.bind line).isMismatch = false := by
  have hfold : foldWords (line.words.take (k + 1)) = (foldWords line.words).take (k + 1) :=
    List.map_take
  rw [List.take_of_length_le hlength.le, hfold] at h
  have hbegins : Begins name line.words := by
    refine ⟨List.ne_nil_of_length_eq_add_one hlength, ?_⟩
    rw [h]
    exact List.take_prefix _ _
  rw [Bool.eq_false_iff]
  exact fun hmismatch => isMismatch_bind_iff.mp hmismatch name hname hbegins

end Grammar

/-- Take any grammar, and let `k` be the index of the word at the caret. Tokens of names are offered
just if some name has more than `k` tokens and the first `k` of them agree with the words before the
caret, up to quotes and case. What is offered then are the tokens of index `k` of all these names
which begin, up to case, with the value of what stands before the caret in the word; each of them is
offered once, in the order in which it comes first among the names.

Let such a token be put into the slot of the caret, quoted if it needs quotes. Then the first
`k + 1` words agree with the first `k + 1` tokens of every name that it was taken from, and the line
is meant for the command if one of these names has no more tokens. -/
theorem Structured.name_completion (c : Structured S) (shell : Shell S) (text : String)
    (caret : Nat) :
    let g := c.grammar
    let line := Line.parse text caret
    let k := line.selected
    let tokens := g.nextTokens line.words k (unquote line.fragment)
    (g.nameSuggestions line = none ↔ ¬ ∃ name ∈ g.names, Grammar.GoesOn name line.words k) ∧
    (∀ offered, g.nameSuggestions line = some offered →
      c.suggest shell line = offered ∧ offered.Nodup ∧
      (∀ token, token ∈ offered ↔ ∃ name ∈ g.names, Grammar.GoesOn name line.words k ∧
        name[k]? = some token ∧ foldCase (unquote line.fragment) <+: foldCase token) ∧
      offered.Pairwise fun a b => tokens.idxOf a < tokens.idxOf b) ∧
    ∀ name ∈ g.names, Grammar.GoesOn name line.words k →
      ∀ token, name[k]? = some token → ∀ caret',
        let filled := Line.parse (line.fill (quote token)) caret'
        filled.words = (if line.startsWord then line.words.insertIdx k (quote token)
          else line.words.set k (quote token)) ∧
        Grammar.foldName (name.take (k + 1)) = Grammar.foldWords (filled.words.take (k + 1)) ∧
        (name.length = k + 1 → (g.bind filled).isMismatch = false) := by
  intro g line k tokens
  obtain ⟨xs, ys, hxs, hwords, hfill, -⟩ := Line.exists_parts text caret
  have hxs : xs.length = k := hxs
  have hwords : line.words = xs ++ (line.selectedWord.toList ++ ys) := hwords
  have hk : k ≤ line.words.length := by
    rw [hwords, ← hxs]
    simp
  refine ⟨?_, fun offered hoffered => ?_, fun name hname hgoes token htoken caret' => ?_⟩
  · rw [Grammar.nameSuggestions_eq_none_iff, Grammar.openNames_eq hk, List.filter_eq_nil_iff]
    simp only [decide_eq_true_eq, not_exists, not_and]
    rfl
  · have hfirsts := Grammar.areFirsts_nextTokens hk hoffered
    refine ⟨?_, hfirsts.apart, fun token => ?_, hfirsts.ordered⟩
    · rw [suggest, hoffered]
    · rw [← Grammar.mem_nextTokens_iff]
      refine ⟨hfirsts.mem, fun htoken => ?_⟩
      obtain ⟨first, hfirst, rfl⟩ := hfirsts.exists_first token htoken
      exact hfirst
  · intro filled
    have hfilled : filled.words = line.fillWords (quote token) :=
      Line.words_fill (standsAlone_quote token) text caret caret'
    have hagree : Grammar.foldName (name.take (k + 1)) =
        Grammar.foldWords (filled.words.take (k + 1)) := by
      rw [hfilled, hfill, ← hxs]
      rw [hwords, ← hxs] at hgoes
      rw [← hxs] at htoken
      exact hgoes.foldName_take_succ htoken ys
    exact ⟨hfilled, hagree, Grammar.isMismatch_bind_of_foldName_take hname hagree⟩

/-- A token that two names share is offered once, and one with a blank is put in with quotes. -/
theorem Structured.name_completion_shared :
    let g : Grammar :=
      { names := [["set", "base"], ["SET", "Bar", "x"], ["set", "base", "y"], ["set", "b c"],
          ["get", "b"], ["set"]] }
    let line := Line.parse "se\"t\" b" 7
    line.selected = 1 ∧ g.nameSuggestions line = some ["base", "Bar", "b c"] ∧
      ["base", "Bar", "b c"].Nodup ∧ Grammar.GoesOn ["set", "b c"] line.words 1 ∧
      (Line.parse "se\"t\" \"b c\"" 0).words = ["se\"t\"", "\"b c\""] ∧
      (g.bind (.parse "se\"t\" \"b c\"" 0)).isMismatch = false := by
  intro g line
  let c : Structured Builtin.signature := { grammar := g, execute := fun _ _ => .done () }
  let shell : Shell Builtin.signature := { state := {}, history := .inMemory 5 }
  obtain ⟨-, hoffers, haccepts⟩ := name_completion c shell "se\"t\" b" 7
  have hselected : line.selected = 1 := by decide +kernel
  have hoffered : g.nameSuggestions line = some ["base", "Bar", "b c"] := by decide +kernel
  have hgoes : Grammar.GoesOn ["set", "b c"] line.words 1 := by decide +kernel
  obtain ⟨-, hnodup, -, -⟩ := hoffers _ hoffered
  have hname : ["set", "b c"] ∈ g.names := by decide
  obtain ⟨hwords, -, hbound⟩ := haccepts _ hname (hselected ▸ hgoes) "b c" (hselected ▸ rfl) 0
  have htext : line.fill (quote "b c") = "se\"t\" \"b c\"" := by decide +kernel
  rw [htext] at hwords hbound
  exact ⟨hselected, hoffered, hnodup, hgoes, hwords.trans (by decide +kernel),
    hbound (hselected ▸ rfl)⟩

end LineShell
