import LineShell.Proofs.Console.Cells
import LineShell.Proofs.Editor.Redraw

/-!
# Where a new line differs from the old one

A new line is written over the old one from where the two part, and blanks go over what is left of
the old one (`Terminal.strokes_setInput`). So no cell is written but those between the longest
common prefix of the lines and the end of the longer one, and each of them once, while the caret is
hidden (`Terminal.setInput_touches_difference`).
-/

namespace LineShell

/-! ### Common prefixes -/

/-- A list is the longest one that two others begin with. -/
structure IsLongestCommonPrefix (common xs ys : List Char) : Prop where
  left : common <+: xs
  right : common <+: ys
  longest : ∀ zs, zs <+: xs → zs <+: ys → zs.length ≤ common.length

lemma length_le_commonLength {xs ys zs : List Char} (hleft : zs <+: xs) (hright : zs <+: ys) :
    zs.length ≤ Terminal.commonLength xs ys := by
  fun_induction Terminal.commonLength xs ys generalizing zs with
  | case1 xs y ys ih =>
    cases zs with
    | nil => exact Nat.zero_le _
    | cons z zs =>
      have hleft' := (List.cons_prefix_cons.mp hleft).2
      exact Nat.succ_le_succ (ih hleft' (List.cons_prefix_cons.mp hright).2)
  | case2 x xs y ys hne =>
    cases zs with
    | nil => exact Nat.zero_le _
    | cons z zs =>
      have hx := (List.cons_prefix_cons.mp hleft).1
      exact absurd (hx.symm.trans (List.cons_prefix_cons.mp hright).1) hne
  | case3 xs ys hnil =>
    -- One of the lists is empty.
    cases zs with
    | nil => exact Nat.zero_le _
    | cons z zs =>
      obtain ⟨xs', rfl⟩ := hleft
      obtain ⟨ys', rfl⟩ := hright
      exact absurd rfl (hnil z (zs ++ xs') z (zs ++ ys') rfl)

lemma isLongestCommonPrefix_take (xs ys : List Char) :
    IsLongestCommonPrefix (xs.take (Terminal.commonLength xs ys)) xs ys where
  left := List.take_prefix _ _
  right := Editor.take_commonLength xs ys ▸ List.take_prefix _ _
  longest zs hleft hright := by
    rw [List.length_take, Nat.min_eq_left (Editor.commonLength_le_left xs ys)]
    exact length_le_commonLength hleft hright

lemma commonLength_self (xs : List Char) : Terminal.commonLength xs xs = xs.length :=
  le_antisymm (Editor.commonLength_le_left xs xs)
    (length_le_commonLength List.prefix_rfl List.prefix_rfl)

/-! ### What is put out -/

variable {above : List (Array Char)} {before : List Char} {shown : Bool} {e : Editor} {c : Console}

/-- The caret is moved, if anything is put out at all. -/
lemma Editor.exists_move_of_mem_caretOutputs {position : Nat} {o : Output}
    (h : o ∈ e.caretOutputs position) : ∃ n, o = .move n := by
  rw [caretOutputs] at h
  split_ifs at h
  · cases h
  · exact ⟨_, List.mem_singleton.mp h⟩

lemma Edit.clear_notMem_outputs (e : Editor) (text : String) :
    .clear ∉ (setInput text).outputs e := by
  have hmoved : .clear ∉ e.caretOutputs (Terminal.commonLength e.buffer text.toList) := by
    intro hmem
    obtain ⟨n, hn⟩ := Editor.exists_move_of_mem_caretOutputs hmem
    cases hn
  simp only [outputs, List.mem_append, List.mem_cons, hmoved]
  split_ifs <;> simp

/-- For a line that is there already, nothing is written. -/
lemma Edit.text_notMem_outputs {text : String} (h : text.toList = e.buffer) (written : String) :
    .text written ∉ (setInput text).outputs e := by
  have hmoved : .text written ∉ e.caretOutputs e.buffer.length := by
    intro hmem
    obtain ⟨n, hn⟩ := Editor.exists_move_of_mem_caretOutputs hmem
    cases hn
  simp only [outputs, h, commonLength_self, Nat.lt_irrefl, Nat.sub_self, if_false, List.append_nil,
    List.mem_append, List.mem_cons, hmoved]
  simp

namespace Console.Shows

variable {text : List Char} {column : Nat}

/-- Characters that stay in the row are written into the cells from the column of the caret on. -/
lemma strokes_text (h : c.Shows above text column shown) {cs : List Char}
    (hcs : ∀ a ∈ cs, Screen.StaysInRow a) :
    c.strokes [.text (.ofList cs)] =
      (List.range' column cs.length).map fun column => ⟨above.length, column, shown⟩ := by
  rw [strokes, strokesOf, strokes_nil, List.append_nil, String.toList_ofList,
    Screen.cells_eq _ hcs, List.map_map, h.screen.above_eq, h.screen.column_eq, h.caretShown]
  rfl

/-- The same where they are put out only if there are any, and nothing is written after them. -/
lemma strokes_text_of_some (h : c.Shows above text column shown) {cs : List Char}
    (hcs : ∀ a ∈ cs, Screen.StaysInRow a) {p : Prop} [Decidable p] (hnone : ¬ p → cs = [])
    {os : List Output} (hos : ∀ written, .text written ∉ os) :
    c.strokes (if p then .text (.ofList cs) :: os else []) =
      (List.range' column cs.length).map fun column => ⟨above.length, column, shown⟩ := by
  split_ifs with hsome
  · rw [← List.singleton_append, strokes_append, strokes_eq_nil hos, List.append_nil,
      h.strokes_text hcs]
  · rw [hnone hsome]
    rfl

end Console.Shows

namespace Terminal

/-- The cells that are written for a new line, on a console that shows the old one: those from where
the lines part to the end of the longer one. -/
lemma strokes_setInput (h : c.ShowsLine above before shown e) (hfits : e.Fits before)
    {text : String} (htext : ∀ a ∈ text.toList, Screen.StaysInRow a) :
    c.strokes ((Edit.setInput text).outputs e) =
      (List.range' (before.length + commonLength e.buffer text.toList)
        (max e.buffer.length text.toList.length - commonLength e.buffer text.toList)).map
        fun column => ⟨above.length, column, false⟩ := by
  have hleft := Editor.commonLength_le_left e.buffer text.toList
  have hright := Editor.commonLength_le_right e.buffer text.toList
  have hhidden := Editor.shows_hidden h hfits text.toList
  have hwritten := Editor.shows_common hhidden rfl htext
  simp only [Edit.outputs]
  generalize commonLength e.buffer text.toList = common at *
  generalize text.toList = new at *
  have hmoved : c.strokes (.caretShown false :: e.caretOutputs common) = [] := by
    apply Console.strokes_eq_nil
    intro written hmem
    rcases List.mem_cons.mp hmem with hmem | hmem
    · cases hmem
    · obtain ⟨n, hn⟩ := Editor.exists_move_of_mem_caretOutputs hmem
      cases hn
  have hrest : ∀ a ∈ new.drop common, Screen.StaysInRow a :=
    fun a ha => htext a (List.mem_of_mem_drop ha)
  have hnone : ¬ common < new.length → new.drop common = [] :=
    fun hnone => List.drop_of_length_le (Nat.le_of_not_lt hnone)
  have hshorter : ¬ e.buffer.length - new.length > 0 →
      List.replicate (e.buffer.length - new.length) ' ' = [] :=
    fun hnone => congrArg (List.replicate · ' ') (Nat.eq_zero_of_not_pos hnone)
  have hback : ∀ written,
      .text written ∉ [Output.move (-(e.buffer.length - new.length : Nat))] := by
    simp
  have hnew := hhidden.strokes_text_of_some hrest hnone fun _ => List.not_mem_nil
  have hstale := hwritten.strokes_text_of_some (fun _ => Screen.staysInRow_of_mem_replicate)
    hshorter hback
  rw [List.length_drop] at hnew
  rw [List.length_replicate, List.length_append] at hstale
  rw [Console.strokes_append, Console.strokes_append, Console.strokes_append, hmoved, hnew,
    Console.puts_append, hstale, List.nil_append, ← List.map_append]
  have hcolumn : before.length + new.length = before.length + common + (new.length - common) := by
    omega
  have hcount : new.length - common + (e.buffer.length - new.length) =
      max e.buffer.length new.length - common := by
    omega
  rw [hcolumn, List.range'_append_1, hcount]
  exact List.append_nil _

/-- A terminal shows its line after some characters, on a console that refuses nothing, and the line
is replaced by one that breaks no row. Then the cells that are written are exactly those of the row
of the caret from the end of the longest common prefix of the two lines up to the end of the longer
one, each of them once, and all of them while the caret is hidden. All other cells of the screen
stay as they are. In the end the caret is seen at the end of the new line. If the line is there
already, nothing is written at all.

Columns are counts, so neither line, with what stands before it, may be longer than the largest
count. -/
theorem setInput_touches_difference {t : Terminal} {above : List (Array Char)} {before : List Char}
    {shown : Bool} (hshows : t.console.ShowsLine above before shown t.editor)
    (hrefusals : t.console.refusals = []) {text : String}
    (htext : ∀ a ∈ text.toList, a ≠ '\n' ∧ a ≠ '\r')
    (hold : before.length + t.editor.buffer.length ≤ maxCount)
    (hnew : before.length + text.toList.length ≤ maxCount) :
    ∃ t' outputs common,
      setInput text t = .ok () t' ∧ t'.console = t.console.puts outputs ∧
      IsLongestCommonPrefix common t.editor.buffer text.toList ∧
      t.console.strokes outputs =
        (List.range' (before.length + common.length)
          (max t.editor.buffer.length text.toList.length - common.length)).map
          (fun column => ⟨above.length, column, false⟩) ∧
      (∀ row column a, t.console.screen.cell? row column = some a →
        (row = above.length → column < before.length + common.length ∨
          before.length + max t.editor.buffer.length text.toList.length ≤ column) →
        t'.console.screen.cell? row column = some a) ∧
      t'.console.caretShown = true ∧
      t'.console.screen.column = before.length + text.toList.length ∧
      (text.toList = t.editor.buffer → ∀ written, .text written ∉ outputs) := by
  obtain ⟨c, e⟩ := t
  dsimp only at hshows hrefusals hold ⊢
  have hcells := strokes_setInput hshows hold htext
  have hend := Editor.shows_setInput hshows hold htext hnew
  have hlength : (e.buffer.take (commonLength e.buffer text.toList)).length =
      commonLength e.buffer text.toList := by
    rw [List.length_take, Nat.min_eq_left (Editor.commonLength_le_left _ _)]
  refine ⟨_, _, _, setInput_eq hrefusals text, rfl, isLongestCommonPrefix_take _ _, ?_, ?_,
    hend.caretShown, hend.screen.column_eq, Edit.text_notMem_outputs⟩
  · rw [hlength]
    exact hcells
  · intro row column a hcell hother
    rw [hlength] at hother
    apply Console.cell?_puts (Edit.clear_notMem_outputs e text) hcell
    intro shown hmem
    rw [hcells, List.mem_map] at hmem
    obtain ⟨column', hrange, hstroke⟩ := hmem
    rw [Stroke.mk.injEq] at hstroke
    obtain ⟨hrow, rfl, -⟩ := hstroke
    rw [List.mem_range'_1] at hrange
    rcases hother hrow.symm with hbefore | hbehind <;> omega

/-- A shorter line comes over a longer one behind a prompt, with the caret amid the old one. -/
theorem setInput_touches_difference_shorter :
    let t : Terminal := {
      console := { screen := {
        above := [#['h', 'i']], row := #['$', ' ', 'a', 'b', 'c', 'd', 'e', ' '], column := 3 } }
      editor := { buffer := ['a', 'b', 'c', 'd', 'e'], caret := 1 } }
    let text := String.ofList ['a', 'b', 'x']
    t.console.ShowsLine [#['h', 'i']] ['$', ' '] true t.editor ∧ t.console.refusals = [] ∧
      (∀ a ∈ text.toList, a ≠ '\n' ∧ a ≠ '\r') ∧
      2 + t.editor.buffer.length ≤ maxCount ∧ 2 + text.toList.length ≤ maxCount ∧
      ∃ t' outputs common,
        setInput text t = .ok () t' ∧ t'.console = t.console.puts outputs ∧
        IsLongestCommonPrefix common t.editor.buffer text.toList ∧
        t.console.strokes outputs =
          (List.range' (2 + common.length)
            (max t.editor.buffer.length text.toList.length - common.length)).map
            (fun column => ⟨1, column, false⟩) ∧
        (∀ row column a, t.console.screen.cell? row column = some a →
          (row = 1 → column < 2 + common.length ∨
            2 + max t.editor.buffer.length text.toList.length ≤ column) →
          t'.console.screen.cell? row column = some a) ∧
        t'.console.caretShown = true ∧
        t'.console.screen.column = 2 + text.toList.length ∧
        (text.toList = t.editor.buffer → ∀ written, .text written ∉ outputs) := by
  intro t text
  have hshows : t.console.ShowsLine [#['h', 'i']] ['$', ' '] true t.editor :=
    ⟨⟨rfl, ⟨1, rfl⟩, rfl⟩, rfl⟩
  have htext : ∀ a ∈ text.toList, a ≠ '\n' ∧ a ≠ '\r' := by
    simp [text]
  have hold : 2 + t.editor.buffer.length ≤ maxCount := by
    decide
  have hnew : 2 + text.toList.length ≤ maxCount := by
    decide
  exact ⟨hshows, rfl, htext, hold, hnew, setInput_touches_difference hshows rfl htext hold hnew⟩

end Terminal

end LineShell
