import LineShell.Proofs.History.Entries
import LineShell.Proofs.Line.OneRow
import LineShell.Proofs.Shell.Merge
import LineShell.Proofs.Shell.NameCompletion
import LineShell.Proofs.Shell.Session

/-!
# Lines that stay in one row

As long as only such lines are in the history and nothing else is offered for completion, the line
being edited stays in one row whatever the line editor does to it (`Shell.InRow`).
-/

namespace LineShell

open Screen (StaysInRow)

variable {S : Signature}

/-! ### What is offered -/

/-- What is offered within a name is a token of one. -/
lemma Grammar.exists_of_mem_nameSuggestions {g : Grammar} {line : Line} {tokens : List String}
    (h : g.nameSuggestions line = some tokens) {text : String} (htext : text ∈ tokens) :
    ∃ name ∈ g.names, text ∈ name := by
  have hfitting := (areFirsts_nameSuggestions h).mem htext
  obtain ⟨name, hname, hget⟩ := List.mem_filterMap.mp (List.mem_filter.mp hfitting).1
  exact ⟨name, (List.mem_filter.mp hname).1, List.mem_of_getElem? hget⟩

lemma Grammar.exists_of_mem_optionSuggestions {g : Grammar} {input : Input}
    {fragment text : String} (h : text ∈ g.optionSuggestions input fragment) :
    ∃ o ∈ g.options, text ∈ o.forms := by
  obtain ⟨o, ho, hform⟩ := List.mem_flatMap.mp h
  exact ⟨o, (List.mem_filter.mp ho).1, (List.mem_filter.mp hform).1⟩

namespace Shell

variable {app : Application S} {shell : Shell S} {line : Line} {text : String}

lemma exists_of_mem_suggestions (h : text ∈ shell.suggestions app line) :
    ∃ c ∈ shell.commands, text ∈ (app.command c).suggest shell line := by
  rw [suggestions, List.mem_mergeSort] at h
  exact List.mem_flatMap.mp ((areFirsts_distinctIgnoringCase _).mem h)

end Shell

namespace Structured

variable {c : Structured S} {shell : Shell S} {line : Line} {text : String}

/-- What a command offers is a token of a name, a form of an option, or what it offers by itself. -/
lemma mem_suggest (h : text ∈ c.suggest shell line) :
    (∃ name ∈ c.grammar.names, text ∈ name) ∨ (∃ o ∈ c.grammar.options, text ∈ o.forms) ∨
      (∃ input fragment, text ∈ c.suggestArgument shell input fragment) ∨
      ∃ input id fragment, text ∈ c.suggestValue shell input id fragment := by
  rw [suggest] at h
  split at h
  · rename_i tokens hnames
    exact .inl (Grammar.exists_of_mem_nameSuggestions hnames h)
  · split at h
    · cases h
    · split at h
      · cases h
      · dsimp only at h
        by_cases hlike : c.grammar.isOptionLike line.fragment
        · rw [if_pos hlike] at h
          exact .inr (.inl (Grammar.exists_of_mem_optionSuggestions h))
        · rw [if_neg hlike] at h
          split at h
          · cases h
          · exact .inr (.inl (Grammar.exists_of_mem_optionSuggestions h))
          · exact .inr (.inr (.inr ⟨_, _, _, h⟩))
          · rcases List.mem_append.mp h with h | h
            · exact .inr (.inr (.inl ⟨_, _, h⟩))
            · split_ifs at h
              · exact .inr (.inl (Grammar.exists_of_mem_optionSuggestions h))
              · cases h

end Structured

/-! ### Completions -/

namespace Completion

/-- The candidates and what is around them stay in the row. -/
structure InRow (c : Completion) : Prop where
  candidates : ∀ text ∈ c.candidates, OneRow text
  before : ∀ a ∈ c.before, StaysInRow a
  after : ∀ a ∈ c.after, StaysInRow a

variable {c : Completion}

lemma InRow.step (h : c.InRow) (d : Direction) : (c.step d).InRow :=
  ⟨h.candidates, h.before, h.after⟩

lemma InRow.line (h : c.InRow) : ∀ a ∈ c.line, StaysInRow a := by
  have hcandidate : ∀ a ∈ c.candidate, StaysInRow a := by
    apply OneRow.quote
    rw [List.getD_eq_getElem?_getD]
    cases hget : c.candidates[c.index]? with
    | none => exact List.forall_mem_nil _
    | some text => exact h.candidates text (List.mem_of_getElem? hget)
  exact List.forall_mem_append.mpr
    ⟨List.forall_mem_append.mpr ⟨h.before, hcandidate⟩, h.after⟩

lemma inRow_of_start? {e : Editor} {line : Line} {candidates : List String} {d : Direction}
    (hbuffer : ∀ a ∈ e.buffer, StaysInRow a) (hcandidates : ∀ text ∈ candidates, OneRow text)
    (h : start? e line candidates d = some c) : c.InRow := by
  unfold start? at h
  by_cases hempty : candidates.isEmpty
  · rw [if_pos hempty] at h
    cases h
  rw [if_neg hempty] at h
  obtain rfl := Option.some.inj h
  exact ⟨hcandidates, fun a ha => hbuffer a (List.mem_of_mem_take ha),
    fun a ha => hbuffer a (List.mem_of_mem_drop ha)⟩

end Completion

/-! ### Shells -/

namespace Shell

/-- The line, the lines of the history and the completion in progress stay in the row, and the caret
is in the line. -/
structure InRow (shell : Shell S) : Prop where
  caret_le : shell.editor.caret ≤ shell.editor.buffer.length
  buffer : ∀ a ∈ shell.editor.buffer, StaysInRow a
  history : ∀ text ∈ shell.history.entries, OneRow text
  completion : ∀ c, shell.completion = some c → c.InRow

variable {app : Application S} {structured : S.Command → Structured S} {shell : Shell S}

lemma InRow.display (h : shell.InRow) (os : List Output) : (shell.display os).InRow :=
  ⟨h.caret_le, h.buffer, h.history, h.completion⟩

lemma InRow.edited (h : shell.InRow) {edit : Edit} (hadded : ∀ a ∈ edit.added, StaysInRow a) :
    (shell.edited edit).InRow where
  caret_le := Edit.caret_le_apply h.caret_le edit
  buffer a ha := (Edit.mem_buffer_apply ha).elim (h.buffer a) (hadded a)
  history := h.history
  completion := h.completion

lemma InRow.recalled (h : shell.InRow) {found : Option String × History}
    (hentries : found.2.entries = shell.history.entries)
    (hfound : ∀ text, found.1 = some text → OneRow text) : (shell.recalled found).InRow := by
  have hmoved : ({ shell with history := found.2 } : Shell S).InRow :=
    ⟨h.caret_le, h.buffer, fun text htext => h.history text (hentries ▸ htext), h.completion⟩
  rw [Shell.recalled]
  cases hline : found.1 with
  | none => exact hmoved
  | some text => exact hmoved.edited (hfound text hline)

/-- What comes after the line in the history, or nothing. -/
lemma InRow.oneRow_next (h : shell.InRow) : OneRow (shell.history.next.1.getD "") := by
  cases hnext : shell.history.next.1 with
  | none => exact List.forall_mem_nil _
  | some line => exact h.history line (History.mem_of_next hnext)

/-- A completion goes on in the row if it is in the row, and begins in it if all that is offered
is. -/
lemma InRow.inRow_nextCompletion (h : shell.InRow)
    (hoffers : ∀ text ∈ shell.suggestions app shell.currentLine, OneRow text) {d : Direction}
    {c : Completion} (hc : shell.nextCompletion app d = some c) : c.InRow := by
  rw [nextCompletion_eq] at hc
  cases hprogress : shell.inProgress? with
  | some c' =>
    rw [hprogress] at hc
    obtain rfl := Option.some.inj hc
    exact (h.completion c' (Option.filter_eq_some_iff.mp hprogress).1).step d
  | none =>
    rw [hprogress] at hc
    exact Completion.inRow_of_start? h.buffer hoffers hc

lemma InRow.completed (h : shell.InRow)
    (hoffers : ∀ text ∈ shell.suggestions app shell.currentLine, OneRow text) (d : Direction) :
    (shell.completed app d).InRow := by
  rw [Shell.completed]
  cases hc : shell.nextCompletion app d with
  | none =>
    exact ⟨h.caret_le, h.buffer, h.history, fun _ hc' => absurd hc'.symm (Option.some_ne_none _)⟩
  | some c =>
    have hcompletion : c.InRow := h.inRow_nextCompletion hoffers hc
    have hbegun : ({ shell with completion := some c } : Shell S).InRow :=
      ⟨h.caret_le, h.buffer, h.history, fun c' hc' => Option.some.inj hc' ▸ hcompletion⟩
    have hadded : ∀ a ∈ (Edit.setInput (.ofList c.line)).added, StaysInRow a := by
      rw [Edit.added, String.toList_ofList]
      exact hcompletion.line
    exact (hbegun.edited hadded).edited (List.forall_mem_nil _)

end Shell

end LineShell
