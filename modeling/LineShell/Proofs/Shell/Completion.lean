import LineShell.Builtin.Commands
import LineShell.Proofs.Line.Slot
import LineShell.Proofs.Shell.Display

/-!
# What completion does to a line

A completion begins with a line at hand and fills the slot of its caret, and each further completion
key fills the same slot of the same line with another candidate (`Shell.CompletesIn`). Candidates
are quoted where they need it, so each of them is a word of the line: the other words stay what they
were (`Run.complete_fills_slot`).
-/

namespace LineShell

variable {S : Signature}

/-! ### Completions in progress -/

/-- The completion puts its candidates into the slot of a line. -/
structure Completion.Fills (c : Completion) (line : Line) : Prop where
  index_lt : c.index < c.candidates.length
  before_eq : c.before = line.text.toList.take line.slotStart
  after_eq : c.after = line.text.toList.drop line.slotStop

namespace Shell

/-- The completion that was applied last, as long as the line is as it left it. -/
def inProgress? (shell : Shell S) : Option Completion :=
  shell.completion.filter (·.isIn shell.editor)

/-- The line at hand. -/
def currentLine (shell : Shell S) : Line :=
  .parse shell.editor.text shell.editor.caret

/-- The line whose slot the next completion key fills: the line in which the completion in progress
began, or else the line at hand. -/
def CompletesIn (shell : Shell S) (line : Line) : Prop :=
  match shell.inProgress? with
  | some c => (∃ text caret, line = .parse text caret) ∧ c.Fills line
  | none => line = shell.currentLine

/-- The candidates that the completion keys walk around: those of the completion in progress, or
else what is offered for the line at hand. -/
def ring (app : Application S) (shell : Shell S) : List String :=
  match shell.inProgress? with
  | some c => c.candidates
  | none => shell.suggestions app shell.currentLine

/-- The shell after a completion key, but for the record of outputs. -/
def completed (app : Application S) (d : Direction) (shell : Shell S) : Shell S :=
  match shell.nextCompletion app d with
  | none => { shell with completion := none }
  | some c =>
    ({ shell with completion := some c }.edited (.setInput (.ofList c.line))).edited
      (.move (.position c.caret))

end Shell

namespace Completion

variable {c : Completion} {line : Line} {d : Direction}

lemma Fills.step (h : c.Fills line) (d : Direction) : (c.step d).Fills line where
  index_lt := by
    have hpos : 0 < c.candidates.length := Nat.zero_lt_of_lt h.index_lt
    cases d <;> exact Nat.mod_lt _ hpos
  before_eq := h.before_eq
  after_eq := h.after_eq

/-- A fresh completion fills the slot of the line at hand. A caret past the end of the line takes no
more and no fewer characters than one at the end. -/
lemma exists_start {e : Editor} {candidates : List String} (hne : candidates ≠ [])
    (d : Direction) :
    ∃ c, start? e (.parse e.text e.caret) candidates d = some c ∧ c.candidates = candidates ∧
      c.Fills (.parse e.text e.caret) := by
  have hpos : 0 < candidates.length := List.length_pos_iff.mpr hne
  have htext : (Line.parse e.text e.caret).text.toList = e.buffer := String.toList_ofList
  have hcaret : (Line.parse e.text e.caret).caret = min e.caret e.buffer.length := by
    rw [← String.length_ofList (l := e.buffer)]
    rfl
  unfold start?
  rw [if_neg (by simpa using hne)]
  refine ⟨_, rfl, rfl, ?_, ?_, ?_⟩
  · cases d
    · exact hpos
    · exact Nat.sub_lt hpos Nat.one_pos
  · rw [htext, Line.slotStart]
    split_ifs
    · rw [hcaret, List.take_eq_take_min]
    · rfl
  · rw [htext, Line.slotStop]
    split_ifs
    · rw [hcaret, List.drop_eq_drop_min]
    · dsimp only

/-- The candidate that is in the line. -/
lemma Fills.exists_candidate (h : c.Fills line) :
    ∃ x, c.candidates[c.index]? = some x ∧ c.candidate = (quote x).toList := by
  have hx := List.getElem?_eq_getElem h.index_lt
  refine ⟨_, hx, ?_⟩
  rw [candidate, List.getD_eq_getElem?_getD, hx, Option.getD_some]

lemma Fills.caret_eq {text : String} {caret : Nat} (h : c.Fills (.parse text caret)) {x : String}
    (hx : c.candidate = (quote x).toList) :
    c.caret = (Line.parse text caret).slotStart + (quote x).length := by
  rw [Completion.caret, h.before_eq, hx, String.length_toList]
  exact congrArg (· + _) (Line.length_take_slotStart text caret)

lemma Fills.line_eq (h : c.Fills line) {x : String} (hx : c.candidate = (quote x).toList) :
    .ofList c.line = line.fill (quote x) := by
  rw [Completion.line, h.before_eq, h.after_eq, hx]
  rfl

end Completion

namespace Shell

variable {app : Application S} {shell : Shell S} {line : Line} {d : Direction}

lemma nextCompletion_eq (app : Application S) (shell : Shell S) (d : Direction) :
    shell.nextCompletion app d = match shell.inProgress? with
      | some c => some (c.step d)
      | none => Completion.start? shell.editor shell.currentLine
          (shell.suggestions app shell.currentLine) d := by
  cases hc : shell.completion with
  | none => simp [nextCompletion, inProgress?, hc, currentLine]
  | some c =>
    by_cases hin : c.isIn shell.editor
    · rw [nextCompletion, hc, inProgress?, hc, Option.filter_some, if_pos hin]
      exact if_pos hin
    · rw [nextCompletion, hc, inProgress?, hc, Option.filter_some, if_neg hin]
      exact if_neg hin

lemma CompletesIn.exists_parse (h : shell.CompletesIn line) :
    ∃ text caret, line = .parse text caret := by
  unfold CompletesIn at h
  split at h
  · exact h.1
  · exact ⟨_, _, h⟩

lemma CompletesIn.exists_nextCompletion (h : shell.CompletesIn line) (hring : shell.ring app ≠ [])
    (d : Direction) :
    ∃ c, shell.nextCompletion app d = some c ∧ c.candidates = shell.ring app ∧ c.Fills line := by
  rw [nextCompletion_eq]
  unfold CompletesIn at h
  unfold ring at hring ⊢
  cases hc : shell.inProgress? with
  | some c =>
    rw [hc] at h
    exact ⟨_, rfl, rfl, h.2.step d⟩
  | none =>
    rw [hc] at h hring
    subst h
    exact Completion.exists_start hring d

/-- The line after a completion key is the one that the completion makes. -/
lemma editor_completed {c : Completion} (h : shell.nextCompletion app d = some c) :
    (shell.completed app d).editor = { shell.editor with buffer := c.line, caret := c.caret } := by
  have hcaret : min c.caret c.line.length = c.caret := by
    simp only [Completion.line, Completion.caret, List.length_append]
    omega
  rw [completed, h]
  simp only [editor_edited, Edit.apply, Editor.withCaret, CaretMove.goal, String.toList_ofList,
    hcaret]
  rfl

lemma completion_completed (app : Application S) (shell : Shell S) (d : Direction) :
    (shell.completed app d).completion = shell.nextCompletion app d := by
  rw [completed]
  split <;> simp_all [edited]

lemma refusals_completed (app : Application S) (shell : Shell S) (d : Direction) :
    (shell.completed app d).console.refusals = shell.console.refusals := by
  rw [completed]
  split
  · rfl
  · rw [refusals_edited, refusals_edited]
    rfl

lemma inProgress?_completed {c : Completion} (h : shell.nextCompletion app d = some c) :
    (shell.completed app d).inProgress? = some c := by
  rw [inProgress?, completion_completed, editor_completed h, h, Option.filter_some, if_pos]
  simp [Completion.isIn]

lemma currentLine_of_inProgress? {c : Completion} (h : shell.inProgress? = some c) :
    shell.currentLine = .parse (.ofList c.line) c.caret := by
  obtain ⟨-, hin⟩ := Option.filter_eq_some_iff.mp h
  obtain ⟨hbuffer, hcaret⟩ : shell.editor.buffer = c.line ∧ shell.editor.caret = c.caret := by
    simpa [Completion.isIn] using hin
  rw [currentLine, Editor.text, hbuffer, hcaret]

end Shell

/-! ### Completion keys -/

namespace Run

variable {app : Application S} {shell : Shell S} {line : Line}

/-- The completion is there before the line is. -/
lemma complete_eq (app : Application S) (shell : Shell S) (d : Direction) :
    complete app d shell =
      (match shell.nextCompletion app d with
        | none => pure ()
        | some c => do
          setInput (.ofList c.line)
          onTerminal (Terminal.setCaret c.caret) : Run S Unit)
        { shell with completion := shell.nextCompletion app d } :=
  rfl

/-- A completion key does not fail. -/
lemma exists_complete (app : Application S) (h : shell.console.refusals = []) (d : Direction) :
    ∃ record, complete app d shell = .ok () ((shell.completed app d).withRecord record) := by
  rw [complete_eq, Shell.completed]
  cases shell.nextCompletion app d with
  | none => exact ⟨shell.console.record, rfl⟩
  | some c =>
    have hbefore : ({ shell with completion := some c } : Shell S).console.refusals = [] := h
    obtain ⟨record, hset⟩ := exists_edit hbefore shell.console.record
      (.setInput (.ofList c.line))
    have hafter : (({ shell with completion := some c } : Shell S).edited
        (.setInput (.ofList c.line))).console.refusals = [] := by
      rw [Shell.refusals_edited]
      exact hbefore
    obtain ⟨record', hmove⟩ := exists_edit hafter record (.move (.position c.caret))
    exact ⟨record', (bind_of_ok hset _).trans hmove⟩

/-- One completion key puts another candidate of the ring into the slot. -/
lemma complete_step (hrefusals : shell.console.refusals = []) (hline : shell.CompletesIn line)
    (hring : shell.ring app ≠ []) (d : Direction) :
    ∃ shell' c, complete app d shell = .ok () shell' ∧ shell'.console.refusals = [] ∧
      shell'.inProgress? = some c ∧ c.candidates = shell.ring app ∧ c.Fills line := by
  obtain ⟨record, hrun⟩ := exists_complete app hrefusals d
  obtain ⟨c, hnext, hcandidates, hfills⟩ := hline.exists_nextCompletion hring d
  refine ⟨_, c, hrun, ?_, ?_, hcandidates, hfills⟩
  · rw [Shell.refusals_withRecord, Shell.refusals_completed]
    exact hrefusals
  · exact Shell.inProgress?_completed hnext

/-- Completion keys one after the other stay in the ring and in the slot. The induction is on the
keys still to come: the line in which the completion began is the same all the way. -/
lemma exists_completes (hrefusals : shell.console.refusals = []) (hline : shell.CompletesIn line)
    (hring : shell.ring app ≠ []) {ds : List Direction} (hds : ds ≠ []) :
    ∃ shell' c, ds.forM (complete app) shell = .ok () shell' ∧ shell'.inProgress? = some c ∧
      c.candidates = shell.ring app ∧ c.Fills line := by
  induction ds generalizing shell with
  | nil => exact absurd rfl hds
  | cons d ds ih =>
    obtain ⟨shell', c, hrun, hrefusals', hprogress, hcandidates, hfills⟩ :=
      complete_step hrefusals hline hring d
    have hcons : (d :: ds).forM (complete app) shell = ds.forM (complete app) shell' :=
      bind_of_ok hrun _
    rw [hcons]
    by_cases hend : ds = []
    · rw [hend]
      exact ⟨shell', c, rfl, hprogress, hcandidates, hfills⟩
    · have hline' : shell'.CompletesIn line := by
        rw [Shell.CompletesIn, hprogress]
        exact ⟨hline.exists_parse, hfills⟩
      have hring' : shell'.ring app = shell.ring app := by
        rw [Shell.ring, hprogress]
        exact hcandidates
      rw [← hring']
      exact ih hrefusals' hline' (hring' ▸ hring) hend

/-- On a console that refuses nothing, let completion keys be pressed in either direction, and let
there be something to complete. Then a candidate of the ring is in the line: the line is cut into
the words of the line in which the completion began, with the quoted candidate in the place of the
word at the caret, or as one more word if the caret was outside all words. The caret is at the end
of this word, which has the same index and the candidate as its value. -/
theorem complete_fills_slot (hrefusals : shell.console.refusals = [])
    (hline : shell.CompletesIn line) (hring : shell.ring app ≠ []) {ds : List Direction}
    (hds : ds ≠ []) :
    ∃ shell' c x, ds.forM (complete app) shell = .ok () shell' ∧
      shell'.inProgress? = some c ∧ c.candidates = shell.ring app ∧
      c.candidates[c.index]? = some x ∧ shell'.CompletesIn line ∧
      shell'.currentLine.words =
        (if line.startsWord then line.words.insertIdx line.selected (quote x)
          else line.words.set line.selected (quote x)) ∧
      shell'.currentLine.selected = line.selected ∧ shell'.currentLine.startsWord = false ∧
      shell'.currentLine.caretInWord = (quote x).length ∧
      shell'.currentLine.selectedWord.map unquote = some x := by
  obtain ⟨shell', c, hrun, hprogress, hcandidates, hfills⟩ :=
    exists_completes hrefusals hline hring hds
  obtain ⟨x, hx, hcandidate⟩ := hfills.exists_candidate
  obtain ⟨text, caret, rfl⟩ := hline.exists_parse
  have hnow := Shell.currentLine_of_inProgress? hprogress
  rw [hfills.line_eq hcandidate, hfills.caret_eq hcandidate] at hnow
  have hquote := standsAlone_quote x
  have hwords := Line.words_fill hquote text caret
    ((Line.parse text caret).slotStart + (quote x).length)
  obtain ⟨hselected, hcaret, hstarts⟩ := Line.spot_fill hquote text caret
  rw [← hnow] at hwords hselected hcaret hstarts
  refine ⟨shell', c, x, hrun, hprogress, hcandidates, hx, ?_, hwords, hselected, hstarts, hcaret,
    ?_⟩
  · rw [Shell.CompletesIn, hprogress]
    exact ⟨⟨text, caret, rfl⟩, hfills⟩
  · have hword : shell'.currentLine.selectedWord = some (quote x) := by
      rw [Line.selectedWord, hstarts, if_neg Bool.false_ne_true, hwords, hselected]
      exact Line.getElem?_fillWords text caret (quote x)
    rw [hword, Option.map_some, unquote_quote]

/-- The name of a variable is put in between two other words, with quotes around it. -/
theorem complete_fills_slot_variable :
    let shell : Shell Builtin.signature := {
      state := ⟨[("my var", "2"), ("other", "3")]⟩
      history := .inMemory 5
      commands := [.set]
      terminal := { editor := { buffer := "set m on".toList, caret := 5 } } }
    shell.console.refusals = [] ∧ shell.CompletesIn shell.currentLine ∧
      shell.ring Builtin.application = ["my var"] ∧
      ∃ shell', [Direction.forward, .backward, .forward].forM (complete Builtin.application) shell =
          .ok () shell' ∧
        shell'.currentLine.words = ["set", "\"my var\"", "on"] ∧
        shell'.currentLine.selected = 1 ∧
        shell'.currentLine.selectedWord.map unquote = some "my var" := by
  intro shell
  have hring : shell.ring Builtin.application = ["my var"] := by decide +kernel
  have hline : shell.CompletesIn shell.currentLine := rfl
  have hne : shell.ring Builtin.application ≠ [] := by
    rw [hring]
    exact List.cons_ne_nil _ _
  have hpresses : [Direction.forward, .backward, .forward] ≠ [] := List.cons_ne_nil _ _
  obtain ⟨shell', c, x, hrun, -, hcandidates, hx, -, hwords, hselected, -, -, hvalue⟩ :=
    complete_fills_slot rfl hline hne hpresses
  obtain rfl : "my var" = x := by
    have hmem := List.mem_of_getElem? hx
    rw [hcandidates, hring] at hmem
    exact (List.mem_singleton.mp hmem).symm
  exact ⟨rfl, hline, hring, shell', hrun, hwords.trans (by decide), hselected.trans (by decide),
    hvalue⟩

end Run

end LineShell
