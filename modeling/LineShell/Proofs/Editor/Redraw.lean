import LineShell.Proofs.Console.Row
import LineShell.Proofs.Editor.Edit
import Mathlib.Data.List.Infix

/-!
# Every edit shows the line

A terminal is in step when its last row shows the line after what stood there before, and the caret
of the console is where the caret of the line is. Each edit draws anew no more than the part of the
row that changed and still leaves the terminal in step (`InStep.apply`), so edits one after the
other do (`InStep.applyAll`), and so it is whatever is done to a line that was empty to begin with
(`runAll_redraws`).

Columns are counts, so all of this is said of lines that are, with what stands before them, no
longer than the largest count.
-/

namespace LineShell

/-- The screen shows a text, the caret in a column, and the caret is seen or not. -/
structure Console.Shows (above : List (Array Char)) (text : List Char) (column : Nat)
    (shown : Bool) (c : Console) : Prop where
  screen : c.screen.Shows above text column
  caretShown : c.caretShown = shown

/-- The screen shows a line after some characters, the caret of the console at that of the line. -/
def Console.ShowsLine (above : List (Array Char)) (before : List Char) (shown : Bool) (e : Editor)
    (c : Console) : Prop :=
  c.Shows above (before ++ e.buffer) (before.length + e.caret) shown

/-- The screen shows the line with its caret, and the line breaks no row. -/
structure Terminal.InStep (above : List (Array Char)) (before : List Char) (t : Terminal) :
    Prop where
  shows : t.console.ShowsLine above before true t.editor
  caret_le : t.editor.caret ≤ t.editor.buffer.length
  stays : ∀ a ∈ t.editor.buffer, Screen.StaysInRow a

variable {above : List (Array Char)} {before : List Char}

/-! ### Outputs -/

namespace Console.Shows

variable {c : Console} {text xs ys tail : List Char} {column : Nat} {shown : Bool} {y : Char}

lemma puts_text (h : c.Shows above (xs ++ ys) xs.length shown) {cs : List Char}
    (hcs : ∀ a ∈ cs, Screen.StaysInRow a) :
    (c.puts [.text (.ofList cs)]).Shows above (xs ++ cs ++ ys.drop cs.length) (xs ++ cs).length
      shown := by
  refine ⟨?_, h.caretShown⟩
  have hscreen : (c.puts [.text (.ofList cs)]).screen = c.screen.write cs := by
    show c.screen.write (String.ofList cs).toList = _
    rw [String.toList_ofList]
  rw [hscreen]
  exact h.screen.write hcs

lemma puts_move (h : c.Shows above text column shown) {n : Int} {goal : Nat}
    (hgoal : (goal : Int) = column + n) (hroom : goal ≤ maxCount) :
    (c.puts [.move n]).Shows above text goal shown :=
  ⟨h.screen.move hgoal hroom, h.caretShown⟩

lemma puts_caretShown (h : c.Shows above text column shown) (seen : Bool) :
    (c.puts [.caretShown seen]).Shows above text column seen :=
  ⟨h.screen, rfl⟩

lemma of_append_replicate {n : Nat}
    (h : c.Shows above (text ++ List.replicate n ' ') column shown) :
    c.Shows above text column shown :=
  ⟨h.screen.of_append_replicate, h.caretShown⟩

/-- A character went, and the ones after it move up: the last of them leaves a blank. -/
lemma puts_tail (h : c.Shows above (xs ++ y :: tail) xs.length shown)
    (htail : ∀ a ∈ tail, Screen.StaysInRow a) (hroom : xs.length ≤ maxCount) :
    (c.puts (Editor.tailOutputs tail)).Shows above (xs ++ tail) xs.length shown := by
  have hblank : ∀ a ∈ tail ++ List.replicate 1 ' ', Screen.StaysInRow a :=
    List.forall_mem_append.mpr ⟨htail, fun _ => Screen.staysInRow_of_mem_replicate⟩
  have hwritten := h.puts_text hblank
  rw [List.drop_of_length_le (by simp), List.append_nil, ← List.append_assoc] at hwritten
  have hback : (c.puts (Editor.tailOutputs tail)).Shows above (xs ++ tail ++ List.replicate 1 ' ')
      xs.length shown := by
    rw [Editor.tailOutputs, Console.puts_cons]
    apply hwritten.puts_move
    · simp only [List.length_append]
      push_cast
      omega
    · exact hroom
  exact hback.of_append_replicate

end Console.Shows

/-! ### Single edits -/

namespace Editor

variable {c : Console} {e : Editor} {shown : Bool}

/-- The line, with what stands before it, is no longer than the largest count. -/
def Fits (before : List Char) (e : Editor) : Prop :=
  before.length + e.buffer.length ≤ maxCount

lemma length_append_take {xs : List Char} {n : Nat} (h : n ≤ xs.length) :
    (before ++ xs.take n).length = before.length + n := by
  rw [List.length_append, List.length_take, Nat.min_eq_left h]

/-- The caret divides the row into what was passed and the tail. -/
lemma shows_tail (h : c.ShowsLine above before shown e) (hcaret : e.caret ≤ e.buffer.length) :
    c.Shows above (before ++ e.buffer.take e.caret ++ e.tail)
      (before ++ e.buffer.take e.caret).length shown := by
  rw [length_append_take hcaret, List.append_assoc, tail, List.take_append_drop]
  exact h

lemma shows_caretOutputs (h : c.ShowsLine above before shown e) (hfits : e.Fits before)
    (position : Nat) :
    (c.puts (e.caretOutputs position)).ShowsLine above before shown (e.withCaret position) := by
  rw [Fits] at hfits
  unfold Console.ShowsLine caretOutputs withCaret
  dsimp only
  by_cases hstays : min position e.buffer.length = e.caret
  · rw [if_pos hstays, hstays]
    exact h
  · rw [if_neg hstays]
    apply h.puts_move
    · push_cast
      omega
    · omega

lemma shows_insert (h : c.ShowsLine above before shown e) (hcaret : e.caret ≤ e.buffer.length)
    (hbuffer : ∀ a ∈ e.buffer, Screen.StaysInRow a) {typed : List Char}
    (htyped : ∀ a ∈ typed, Screen.StaysInRow a)
    (hfits : ((Edit.insert typed).apply e).Fits before) :
    (c.puts ((Edit.insert typed).outputs e)).ShowsLine above before shown
      ((Edit.insert typed).apply e) := by
  by_cases hempty : typed = []
  · rw [hempty, Edit.apply_insert_nil]
    exact h
  have hcolumn : (before ++ e.buffer.take e.caret ++ typed).length =
      before.length + (e.caret + typed.length) := by
    rw [List.length_append, length_append_take hcaret, Nat.add_assoc]
  have htail : ∀ a ∈ e.tail, Screen.StaysInRow a :=
    fun a ha => hbuffer a (List.mem_of_mem_drop ha)
  have hwritten := (shows_tail h hcaret).puts_text htyped
  rw [Console.ShowsLine, Edit.outputs, if_neg hempty]
  by_cases hoverwrite : e.overwrite
  · rw [if_pos (.inl hoverwrite)]
    simp only [Edit.apply, if_pos hoverwrite]
    rw [← hcolumn, ← List.append_assoc, ← List.append_assoc]
    exact hwritten
  simp only [Edit.apply, if_neg hoverwrite]
  by_cases hnone : e.tail = []
  · rw [hnone, List.drop_nil] at hwritten
    rw [if_pos (.inr hnone), ← hcolumn, hnone, ← List.append_assoc, ← List.append_assoc]
    exact hwritten
  · rw [if_neg (not_or.mpr ⟨hoverwrite, hnone⟩), Console.puts_cons,
      Console.puts_cons _ (.text (.ofList e.tail))]
    -- The tail goes over what the typed characters left of it, so nothing of the old one remains.
    have hagain := hwritten.puts_text htail
    rw [List.drop_drop, List.drop_of_length_le (by omega), List.append_nil] at hagain
    rw [← List.append_assoc, ← List.append_assoc]
    apply hagain.puts_move
    · rw [List.length_append, hcolumn]
      push_cast
      omega
    · simp only [Fits, Edit.apply, if_neg hoverwrite, List.length_append, List.length_take,
        Nat.min_eq_left hcaret] at hfits
      omega

/-- The character at a position went, and the screen shows its place. -/
lemma shows_eraseIdx {position : Nat} (hposition : position < e.buffer.length)
    (h : c.Shows above (before ++ e.buffer) (before.length + position) shown)
    (hbuffer : ∀ a ∈ e.buffer, Screen.StaysInRow a) (hfits : e.Fits before) :
    (c.puts (tailOutputs (e.buffer.drop (position + 1)))).Shows above
      (before ++ e.buffer.eraseIdx position) (before.length + position) shown := by
  have hcolumn : (before ++ e.buffer.take position).length = before.length + position :=
    length_append_take (by omega)
  have hroom : (before ++ e.buffer.take position).length ≤ maxCount := by
    rw [Fits] at hfits
    omega
  rw [← List.take_append_drop position e.buffer, List.drop_eq_getElem_cons hposition,
    ← List.append_assoc, ← hcolumn] at h
  have hshown := h.puts_tail (fun a ha => hbuffer a (List.mem_of_mem_drop ha)) hroom
  rw [List.eraseIdx_eq_take_drop_succ, ← List.append_assoc, ← hcolumn]
  exact hshown

lemma shows_removePrevious (h : c.ShowsLine above before shown e)
    (hcaret : e.caret ≤ e.buffer.length) (hbuffer : ∀ a ∈ e.buffer, Screen.StaysInRow a)
    (hfits : e.Fits before) :
    (c.puts (Edit.removePrevious.outputs e)).ShowsLine above before shown
      (Edit.removePrevious.apply e) := by
  rw [Edit.outputs, Edit.apply]
  by_cases hstart : e.caret = 0
  · rw [if_pos hstart, if_pos hstart]
    exact h
  · rw [if_neg hstart, if_neg hstart, Console.puts_cons]
    have hfits' := hfits
    rw [Fits] at hfits'
    have hback : (c.puts [.move (-1)]).Shows above (before ++ e.buffer)
        (before.length + (e.caret - 1)) shown :=
      Console.Shows.puts_move h (by omega) (by omega)
    have htail : e.tail = e.buffer.drop (e.caret - 1 + 1) := by
      rw [tail, Nat.sub_add_cancel (by omega)]
    rw [htail]
    exact shows_eraseIdx (by omega) hback hbuffer hfits

lemma shows_removeCurrent (h : c.ShowsLine above before shown e)
    (hbuffer : ∀ a ∈ e.buffer, Screen.StaysInRow a) (hfits : e.Fits before) :
    (c.puts (Edit.removeCurrent.outputs e)).ShowsLine above before shown
      (Edit.removeCurrent.apply e) := by
  rw [Edit.outputs, Edit.apply]
  by_cases hcaret : e.caret < e.buffer.length
  · rw [if_pos hcaret, tail, List.drop_drop]
    exact shows_eraseIdx hcaret h hbuffer hfits
  · rw [if_neg hcaret, List.eraseIdx_of_length_le (by omega)]
    exact h

/-! ### A new line -/

lemma commonLength_le_left (xs ys : List Char) : Terminal.commonLength xs ys ≤ xs.length := by
  fun_induction Terminal.commonLength xs ys with
  | case1 xs y ys ih => exact Nat.succ_le_succ ih
  | case2 => exact Nat.zero_le _
  | case3 => exact Nat.zero_le _

lemma take_commonLength (xs ys : List Char) :
    xs.take (Terminal.commonLength xs ys) = ys.take (Terminal.commonLength xs ys) := by
  fun_induction Terminal.commonLength xs ys with
  | case1 xs y ys ih => rw [List.take_succ_cons, List.take_succ_cons, ih]
  | case2 => rfl
  | case3 => rfl

lemma commonLength_le_right (xs ys : List Char) : Terminal.commonLength xs ys ≤ ys.length := by
  have hlength := congrArg List.length (take_commonLength xs ys)
  rw [List.length_take, List.length_take, Nat.min_eq_left (commonLength_le_left xs ys)] at hlength
  omega

/-- The caret is hidden and goes to where the new line differs. -/
lemma shows_hidden (h : c.ShowsLine above before shown e) (hfits : e.Fits before)
    (new : List Char) :
    (c.puts (.caretShown false :: e.caretOutputs (Terminal.commonLength e.buffer new))).Shows above
      (before ++ e.buffer) (before.length + Terminal.commonLength e.buffer new) false := by
  have hmoved := shows_caretOutputs (Console.Shows.puts_caretShown h false) hfits
    (Terminal.commonLength e.buffer new)
  rw [Console.ShowsLine, withCaret, Nat.min_eq_left (commonLength_le_left _ _),
    ← Console.puts_cons] at hmoved
  exact hmoved

/-- From where it differs, the new line goes over the old one. -/
lemma shows_common {new : List Char} {common : Nat}
    (h : c.Shows above (before ++ e.buffer) (before.length + common) shown)
    (hcommon : common = Terminal.commonLength e.buffer new)
    (hnew : ∀ a ∈ new, Screen.StaysInRow a) :
    (c.puts (if common < new.length then [.text (.ofList (new.drop common))] else [])).Shows above
      (before ++ new ++ e.buffer.drop new.length) (before ++ new).length shown := by
  have hle : common ≤ new.length := hcommon ▸ commonLength_le_right e.buffer new
  have htake : e.buffer.take common = new.take common := hcommon ▸ take_commonLength e.buffer new
  have hcolumn : (before ++ new.take common).length = before.length + common :=
    length_append_take hle
  have hsplit : before ++ e.buffer = before ++ new.take common ++ e.buffer.drop common := by
    rw [List.append_assoc, ← htake, List.take_append_drop]
  rw [hsplit, ← hcolumn] at h
  by_cases hmore : common < new.length
  · rw [if_pos hmore]
    have hrest : ∀ a ∈ new.drop common, Screen.StaysInRow a :=
      fun a ha => hnew a (List.mem_of_mem_drop ha)
    have hwritten := h.puts_text hrest
    rw [List.drop_drop, List.length_drop, Nat.add_sub_cancel' hle, List.append_assoc before,
      List.take_append_drop] at hwritten
    exact hwritten
  · have hall : common = new.length := by omega
    rw [if_neg hmore]
    rw [hall, List.take_length] at h
    exact h

/-- Blanks go over what is left of the old line. -/
lemma shows_stale {xs ys : List Char} (h : c.Shows above (xs ++ ys) xs.length shown)
    (hroom : xs.length ≤ maxCount) :
    (c.puts (if ys.length > 0 then
      [.text (.ofList (List.replicate ys.length ' ')), .move (-ys.length)] else [])).Shows above xs
        xs.length shown := by
  by_cases hsome : ys.length > 0
  · rw [if_pos hsome, Console.puts_cons]
    have hblank : ∀ a ∈ List.replicate ys.length ' ', Screen.StaysInRow a :=
      fun _ => Screen.staysInRow_of_mem_replicate
    have hwritten := h.puts_text hblank
    rw [List.drop_of_length_le (by simp), List.append_nil] at hwritten
    apply Console.Shows.of_append_replicate (hwritten.puts_move _ hroom)
    rw [List.length_append, List.length_replicate]
    push_cast
    omega
  · have hnone : ys = [] := List.length_eq_zero_iff.mp (by omega)
    rw [if_neg hsome]
    rw [hnone, List.append_nil] at h
    exact h

lemma shows_setInput (h : c.ShowsLine above before shown e) (hfits : e.Fits before) {text : String}
    (htext : ∀ a ∈ text.toList, Screen.StaysInRow a)
    (hfits' : ((Edit.setInput text).apply e).Fits before) :
    (c.puts ((Edit.setInput text).outputs e)).ShowsLine above before true
      ((Edit.setInput text).apply e) := by
  have hroom : (before ++ text.toList).length ≤ maxCount := by
    simp only [Fits, Edit.apply] at hfits'
    rw [List.length_append]
    exact hfits'
  have hmoved := shows_hidden h hfits text.toList
  have hcleared := (shows_stale (shows_common hmoved rfl htext) hroom).puts_caretShown true
  rw [List.length_drop, List.length_append] at hcleared
  simp only [Console.ShowsLine, Edit.apply, Edit.outputs, Console.puts_append]
  exact hcleared

end Editor

/-! ### Every edit -/

variable {c : Console} {e : Editor}

/-- Each edit leaves the terminal in step. -/
theorem Terminal.InStep.apply {edit : Edit} (h : InStep above before ⟨c, e⟩)
    (hadded : ∀ a ∈ edit.added, Screen.StaysInRow a) (hfits : e.Fits before)
    (hfits' : (edit.apply e).Fits before) :
    InStep above before ⟨c.puts (edit.outputs e), edit.apply e⟩ := by
  constructor
  · cases edit with
    | move m => exact Editor.shows_caretOutputs h.shows hfits _
    | insert typed => exact Editor.shows_insert h.shows h.caret_le h.stays hadded hfits'
    | removePrevious => exact Editor.shows_removePrevious h.shows h.caret_le h.stays hfits
    | removeCurrent => exact Editor.shows_removeCurrent h.shows h.stays hfits
    | setInput text => exact Editor.shows_setInput h.shows hfits hadded hfits'
    | toggleOverwrite => exact h.shows
  · exact Edit.caret_le_apply h.caret_le edit
  · intro a ha
    rcases Edit.mem_buffer_apply ha with ha | ha
    · exact h.stays a ha
    · exact hadded a ha

/-- Edits one after the other leave it in step. The induction is on the edits still to be done, so
there has to be room for the line after each of the first ones of them. -/
theorem Terminal.InStep.applyAll {edits : List Edit} (h : InStep above before ⟨c, e⟩)
    (hadded : ∀ edit ∈ edits, ∀ a ∈ edit.added, Screen.StaysInRow a)
    (hfits : ∀ first, first <+: edits → (Edit.applyAll e first).Fits before) :
    InStep above before ⟨c.puts (Edit.outputsAll e edits), Edit.applyAll e edits⟩ := by
  induction edits generalizing c e with
  | nil => exact h
  | cons edit edits ih =>
    obtain ⟨hedit, hedits⟩ := List.forall_mem_cons.mp hadded
    have hnow : e.Fits before := hfits [] List.nil_prefix
    have hnext : (edit.apply e).Fits before :=
      hfits [edit] (List.cons_prefix_cons.mpr ⟨rfl, List.nil_prefix⟩)
    rw [Edit.outputsAll, Console.puts_append]
    apply ih (h.apply hedit hnow hnext) hedits
    intro first hfirst
    exact hfits (edit :: first) (List.cons_prefix_cons.mpr ⟨rfl, hfirst⟩)

namespace Edit

/-- Start from an empty line on a console that refuses nothing, whose caret is seen and stands at
the end of its last row. Whatever edits are done, without line breaks in what they bring into the
line: after each of them the row is what it was to begin with, then the line, then only blanks, the
caret of the console is as far behind what stood there as the caret of the line is in the line, it
is seen, and the rows above are as they were.

Columns are counts, so no line, with what stands before it, may be longer than the largest count. -/
theorem runAll_redraws (t : Terminal) (hbuffer : t.editor.buffer = []) (hcaret : t.editor.caret = 0)
    (hcolumn : t.console.screen.column = t.console.screen.row.size)
    (hshown : t.console.caretShown = true) (hrefusals : t.console.refusals = [])
    (edits : List Edit)
    (hadded : ∀ edit ∈ edits, ∀ a ∈ edit.added, a ≠ '\n' ∧ a ≠ '\r')
    (hfits : ∀ first, first <+: edits →
      t.console.screen.row.size + (applyAll t.editor first).buffer.length ≤ maxCount) :
    ∀ first, first <+: edits → ∃ t' k,
      runAll first t = .ok () t' ∧ t'.editor = applyAll t.editor first ∧
      t'.console.currentLine = .ofList
        (t.console.screen.row.toList ++ t'.editor.buffer ++ List.replicate k ' ') ∧
      t'.console.screen.column = t.console.screen.row.size + t'.editor.caret ∧
      t'.console.caretShown = true ∧
      t'.console.screen.above = t.console.screen.above := by
  intro first hfirst
  obtain ⟨c, e⟩ := t
  dsimp only at hbuffer hcaret hcolumn hshown hrefusals hfits ⊢
  have hstart : Terminal.InStep c.screen.above c.screen.row.toList ⟨c, e⟩ := by
    constructor
    · dsimp only
      rw [Console.ShowsLine, hbuffer, hcaret, List.append_nil]
      exact ⟨⟨rfl, ⟨0, (List.append_nil _).symm⟩, hcolumn⟩, hshown⟩
    · dsimp only
      rw [hcaret]
      exact Nat.zero_le _
    · dsimp only
      rw [hbuffer]
      exact List.forall_mem_nil _
  have hadded' : ∀ edit ∈ first, ∀ a ∈ edit.added, Screen.StaysInRow a :=
    fun edit hedit => hadded edit (hfirst.subset hedit)
  have hend := hstart.applyAll hadded' fun done hdone => hfits done (hdone.trans hfirst)
  obtain ⟨k, hrow⟩ := hend.shows.screen.row_eq
  refine ⟨_, k, runAll_eq hrefusals first, rfl, ?_, hend.shows.screen.column_eq,
    hend.shows.caretShown, hend.shows.screen.above_eq⟩
  exact congrArg String.ofList hrow

/-- Edits of all kinds, one after the other, behind a prompt. -/
theorem runAll_redraws_mixed :
    let t : Terminal := {
      console := { screen := { above := [#['h', 'i']], row := #['$', ' '], column := 2 } } }
    let edits : List Edit := [
      .insert ['a', 'b', ' ', 'c'], .move .wordBack, .move .left, .removePrevious, .move .right,
      .toggleOverwrite, .insert ['x', 'y', 'z'], .move .toStart, .removeCurrent,
      .setInput (.ofList ['a', ' ', 'n', 'e', 'w']), .move (.position 3), .setInput (.ofList ['a'])]
    (∀ edit ∈ edits, ∀ a ∈ edit.added, a ≠ '\n' ∧ a ≠ '\r') ∧
      (∀ first, first <+: edits →
        t.console.screen.row.size + (applyAll t.editor first).buffer.length ≤ maxCount) ∧
      ∀ first, first <+: edits → ∃ t' k,
        runAll first t = .ok () t' ∧ t'.editor = applyAll t.editor first ∧
        t'.console.currentLine = .ofList
          (t.console.screen.row.toList ++ t'.editor.buffer ++ List.replicate k ' ') ∧
        t'.console.screen.column = t.console.screen.row.size + t'.editor.caret ∧
        t'.console.caretShown = true ∧
        t'.console.screen.above = t.console.screen.above := by
  intro t edits
  have hadded : ∀ edit ∈ edits, ∀ a ∈ edit.added, a ≠ '\n' ∧ a ≠ '\r' := by
    simp [edits, added]
  have hfits : ∀ first, first <+: edits →
      t.console.screen.row.size + (applyAll t.editor first).buffer.length ≤ maxCount := by
    intro first hfirst
    have hinits : ∀ done ∈ edits.inits,
        t.console.screen.row.size + (applyAll t.editor done).buffer.length ≤ maxCount := by
      decide +kernel
    exact hinits first ((List.mem_inits _ _).mpr hfirst)
  exact ⟨hadded, hfits, runAll_redraws t rfl rfl rfl rfl rfl edits hadded hfits⟩

end Edit

end LineShell
