import LineShell.Proofs.Editor.Redraw

/-!
# Reaching into the line

The edits of the line once more, by positions: a `Careful` computation looks where it reaches, and
ends without a value as soon as a character or a range of them is not in the line. With the caret
within the line, each edit done with care does what the edit does, on any console and from any
refusal on (`Edit.carefully_agrees`). So no edit ever reaches outside of the line.
-/

namespace LineShell

/-- A computation on a terminal that ends without a value where it would reach outside of a list. -/
abbrev Careful (α : Type) := OptionT (EStateM Failure Terminal) α

variable {α β : Type}

/-! ### Looking before reaching -/

namespace Careful

/-- A character of a list. -/
def charAt (cs : List Char) (i : Nat) : Careful Char :=
  OptionT.mk (pure cs[i]?)

/-- The characters from a position up to another one. -/
def slice (cs : List Char) (start stop : Nat) : Careful (List Char) :=
  if start ≤ stop ∧ stop ≤ cs.length then pure ((cs.take stop).drop start) else failure

/-- A list with other characters from a position up to another one. -/
def splice (cs : List Char) (start stop : Nat) (new : List Char) : Careful (List Char) :=
  if start ≤ stop ∧ stop ≤ cs.length then pure (cs.take start ++ new ++ cs.drop stop) else failure

/-- A list without the character at a position. -/
def remove (cs : List Char) (i : Nat) : Careful (List Char) :=
  if i < cs.length then pure (cs.eraseIdx i) else failure

/-- An operation that reaches into no list. -/
def plain (a : Attempt Terminal α) : Careful α :=
  OptionT.lift a

variable {cs : List Char} {start stop i : Nat}

lemma charAt_eq {c : Char} (h : cs[i]? = some c) : charAt cs i = pure c := by
  rw [charAt, h]
  rfl

lemma slice_eq (h : start ≤ stop) (h' : stop ≤ cs.length) :
    slice cs start stop = pure ((cs.take stop).drop start) :=
  if_pos ⟨h, h'⟩

/-- From a position on. -/
lemma slice_length (h : start ≤ cs.length) : slice cs start cs.length = pure (cs.drop start) := by
  rw [slice_eq h (Nat.le_refl _), List.take_length]

lemma splice_eq (h : start ≤ stop) (h' : stop ≤ cs.length) (new : List Char) :
    splice cs start stop new = pure (cs.take start ++ new ++ cs.drop stop) :=
  if_pos ⟨h, h'⟩

lemma remove_eq (h : i < cs.length) : remove cs i = pure (cs.eraseIdx i) :=
  if_pos h

/-! ### The edits -/

/-- Where the run of characters of a class that ends at a position begins. -/
def runStart (e : Editor) (word : Bool) : Nat → Careful Nat
  | 0 => pure 0
  | n + 1 => do
    let c ← charAt e.buffer n
    if e.isWordChar c = word then runStart e word n else pure (n + 1)

/-- Where the run of characters of a class that begins at a position ends. -/
def runStop (e : Editor) (word : Bool) (position : Nat) : Careful Nat :=
  if position < e.buffer.length then do
    let c ← charAt e.buffer position
    if e.isWordChar c = word then runStop e word (position + 1) else pure position
  else pure position
termination_by e.buffer.length - position

/-- Moves the caret to where the run of characters before it begins, if there are any. -/
def moveWordBack : Careful Unit := do
  let e := (← plain get).editor
  if e.caret ≠ 0 then
    let c ← charAt e.buffer (e.caret - 1)
    let target ← runStart e (e.isWordChar c) e.caret
    plain (Terminal.setCaret target)

/-- Moves the caret to where the run of characters from it on ends, if there are any. -/
def moveWordForward : Careful Unit := do
  let e := (← plain get).editor
  if e.caret < e.buffer.length then
    let c ← charAt e.buffer e.caret
    let target ← runStop e (e.isWordChar c) e.caret
    plain (Terminal.setCaret target)

/-- Writes the rest of the line again. -/
def redrawTail : Careful Unit := do
  let e := (← plain get).editor
  let rest ← slice e.buffer e.caret e.buffer.length
  let tail := rest ++ [' ']
  plain do
    Terminal.output (.text (.ofList tail))
    Terminal.output (.move (-tail.length))

/-- Removes the character before the caret. -/
def removePrevious : Careful Unit := do
  let e := (← plain get).editor
  if e.caret ≠ 0 then
    let buffer ← remove e.buffer (e.caret - 1)
    plain (Terminal.modifyEditor fun e => { e with caret := e.caret - 1, buffer := buffer })
    plain (Terminal.output (.move (-1)))
    redrawTail

/-- Removes the character under the caret. -/
def removeCurrent : Careful Unit := do
  let e := (← plain get).editor
  if e.caret < e.buffer.length then
    let buffer ← remove e.buffer e.caret
    plain (Terminal.modifyEditor fun e => { e with buffer := buffer })
    redrawTail

/-- Types characters at the caret. -/
def insert (typed : List Char) : Careful Unit := do
  if typed.isEmpty then return
  let e := (← plain get).editor
  if e.overwrite then
    let stop := min (e.caret + typed.length) e.buffer.length
    let buffer ← splice e.buffer e.caret stop typed
    plain do
      Terminal.modifyEditor fun e => { e with buffer := buffer }
      Terminal.output (.text (.ofList typed))
      Terminal.modifyEditor fun e => { e with caret := e.caret + typed.length }
  else
    let buffer ← splice e.buffer e.caret e.caret typed
    let caret := e.caret + typed.length
    plain (Terminal.modifyEditor fun e => { e with buffer := buffer, caret := caret })
    let tail ← slice buffer caret buffer.length
    plain do
      Terminal.output (.text (.ofList typed))
      if !tail.isEmpty then
        Terminal.output (.text (.ofList tail))
        Terminal.output (.move (-tail.length))

/-- Replaces the whole line. -/
def setInput (text : String) : Careful Unit := do
  let old := (← plain get).editor.buffer
  let new := text.toList
  let common := Terminal.commonLength old new
  let stale := old.length - new.length
  plain (Terminal.output (.caretShown false))
  plain (Terminal.setCaret common)
  let suffix ← slice new common new.length
  plain do
    if !suffix.isEmpty then
      Terminal.output (.text (.ofList suffix))
    if stale > 0 then
      Terminal.output (.text (.ofList (List.replicate stale ' ')))
      Terminal.output (.move (-stale))
    Terminal.modifyEditor fun e => { e with buffer := new, caret := new.length }
    Terminal.output (.caretShown true)

/-- Moves the caret. -/
def moveCaret : CaretMove → Careful Unit
  | .wordBack => moveWordBack
  | .wordForward => moveWordForward
  | m => plain m.run

end Careful

/-- Does an edit with care. -/
def Edit.carefully : Edit → Careful Unit
  | move m => Careful.moveCaret m
  | insert typed => Careful.insert typed
  | removePrevious => Careful.removePrevious
  | removeCurrent => Careful.removeCurrent
  | setInput text => Careful.setInput text
  | toggleOverwrite => Careful.plain Terminal.toggleOverwrite

/-! ### Agreement -/

/-- Done with care, an operation has a value whenever the operation has, the same one, and does the
same. -/
def Agrees (careful : Careful α) (a : Attempt Terminal α) (t : Terminal) : Prop :=
  careful.run t = (some <$> a) t

section Rules

variable {t : Terminal} {careful : Careful α} {a : Attempt Terminal α}

lemma agrees_plain (a : Attempt Terminal α) (t : Terminal) : Agrees (.plain a) a t := rfl

lemma agrees_pure (x : α) (t : Terminal) : Agrees (pure x) (pure x) t := rfl

/-- After an operation that reaches nowhere, it depends on what the operation leaves. -/
lemma agrees_plain_bind {k' : α → Careful β} {k : α → Attempt Terminal β}
    (h : ∀ x t', a t = .ok x t' → Agrees (k' x) (k x) t') :
    Agrees (.plain a >>= k') (a >>= k) t := by
  show EStateM.bind (EStateM.bind a fun x => EStateM.pure (some x)) _ t =
    EStateM.map some (EStateM.bind a k) t
  rw [EStateM.bind, EStateM.bind, EStateM.map, EStateM.bind]
  cases hresult : a t with
  | ok x t' => exact h x t' hresult
  | error f t' => rfl

lemma agrees_get_bind {k' : Terminal → Careful β} {k : Terminal → Attempt Terminal β}
    (h : Agrees (k' t) (k t) t) : Agrees (.plain get >>= k') (get >>= k) t := h

/-- The line is changed in two ways that come to the same here. -/
lemma agrees_modify_bind {g' g : Editor → Editor} {k' : Unit → Careful β}
    {k : Unit → Attempt Terminal β} (hg : g' t.editor = g t.editor)
    (h : Agrees (k' ()) (k ()) ⟨t.console, g t.editor⟩) :
    Agrees (.plain (Terminal.modifyEditor g') >>= k') (Terminal.modifyEditor g >>= k) t := by
  rw [← hg] at h
  show (k' ()).run ⟨t.console, g' t.editor⟩ = EStateM.map some (k ()) ⟨t.console, g t.editor⟩
  rw [← hg]
  exact h

/-- An output leaves the line as it is. -/
lemma agrees_output_bind {o : Output} {k' : Unit → Careful β} {k : Unit → Attempt Terminal β}
    (h : ∀ c, Agrees (k' ()) (k ()) ⟨c, t.editor⟩) :
    Agrees (.plain (Terminal.output o) >>= k') (Terminal.output o >>= k) t := by
  apply agrees_plain_bind
  intro x t' houtput
  simp only [Terminal.output, Terminal.onConsole, Attempt.within] at houtput
  split at houtput
  · obtain rfl := (EStateM.Result.ok.inj houtput).2
    exact h _
  · cases houtput

lemma agrees_ite {p : Prop} [Decidable p] {careful' : Careful α} {a' : Attempt Terminal α}
    (h : p → Agrees careful a t) (h' : ¬ p → Agrees careful' a' t) :
    Agrees (if p then careful else careful') (if p then a else a') t := by
  split_ifs with hp
  · exact h hp
  · exact h' hp

end Rules

namespace Careful

variable {e : Editor}

/-! ### Runs of characters -/

/-- The induction is on the position, from which the run is followed back. -/
lemma runStart_eq (e : Editor) (word : Bool) {n : Nat} (h : n ≤ e.buffer.length) :
    runStart e word n =
      pure (n - ((e.buffer.take n).reverse.takeWhile fun d => e.isWordChar d == word).length) := by
  induction n with
  | zero => rfl
  | succ n ih =>
    have hget : e.buffer[n]? = some e.buffer[n] := List.getElem?_eq_getElem h
    rw [runStart, charAt_eq hget, pure_bind, List.take_succ_eq_append_getElem h,
      List.reverse_concat, List.takeWhile_cons]
    by_cases hclass : e.isWordChar e.buffer[n] = word
    · rw [if_pos hclass, if_pos (beq_iff_eq.mpr hclass), ih (by omega), List.length_cons,
        Nat.add_sub_add_right]
    · rw [if_neg hclass, if_neg (mt beq_iff_eq.mp hclass)]
      rfl

/-- The induction is on what is left of the line. -/
lemma runStop_eq (e : Editor) (word : Bool) {position : Nat} (h : position ≤ e.buffer.length) :
    runStop e word position =
      pure (position +
        ((e.buffer.drop position).takeWhile fun d => e.isWordChar d == word).length) := by
  induction hleft : e.buffer.length - position generalizing position with
  | zero =>
    rw [runStop, if_neg (by omega), List.drop_of_length_le (by omega)]
    rfl
  | succ left ih =>
    have hlt : position < e.buffer.length := by omega
    have hnext : position + 1 ≤ e.buffer.length := hlt
    have hget : e.buffer[position]? = some e.buffer[position] := List.getElem?_eq_getElem hlt
    rw [runStop, if_pos hlt, charAt_eq hget, pure_bind, List.drop_eq_getElem_cons hlt,
      List.takeWhile_cons]
    by_cases hclass : e.isWordChar e.buffer[position] = word
    · rw [if_pos hclass, if_pos (beq_iff_eq.mpr hclass), ih hnext (by omega), List.length_cons]
      congr 1
      omega
    · rw [if_neg hclass, if_neg (mt beq_iff_eq.mp hclass)]
      rfl

lemma runStart_caret {c : Char} (h : e.caret ≤ e.buffer.length) (hcaret : e.caret ≠ 0)
    (hget : e.buffer[e.caret - 1]? = some c) :
    runStart e (e.isWordChar c) e.caret = pure e.previousBoundary := by
  obtain ⟨n, hn⟩ := Nat.exists_eq_succ_of_ne_zero hcaret
  have hlt : n < e.buffer.length := by omega
  rw [hn, Nat.succ_sub_one, List.getElem?_eq_getElem hlt, Option.some.injEq] at hget
  rw [runStart_eq e _ h, Editor.previousBoundary, hn, List.take_succ_eq_append_getElem hlt, hget,
    List.reverse_concat, Editor.runLength, List.takeWhile_cons, if_pos (beq_self_eq_true _),
    List.length_cons]

lemma runStop_caret {c : Char} (hget : e.buffer[e.caret]? = some c) :
    runStop e (e.isWordChar c) e.caret = pure e.nextBoundary := by
  obtain ⟨hlt, hchar⟩ := List.getElem?_eq_some_iff.mp hget
  rw [runStop_eq e _ (Nat.le_of_lt hlt), Editor.nextBoundary, List.drop_eq_getElem_cons hlt, hchar,
    Editor.runLength, List.takeWhile_cons, if_pos (beq_self_eq_true _), List.length_cons]

/-! ### The edits agree -/

variable {t : Terminal}

/-- To send the caret where it is does nothing. -/
lemma agrees_setCaret_self (h : t.editor.caret ≤ t.editor.buffer.length) {position : Nat}
    (hposition : position = t.editor.caret) :
    Agrees (pure ()) (Terminal.setCaret position) t := by
  subst hposition
  have hstays : min t.editor.caret t.editor.buffer.length = t.editor.caret := Nat.min_eq_left h
  show _ = EStateM.map some (Terminal.setCaret t.editor.caret) t
  rw [EStateM.map, Terminal.setCaret, Terminal.get_bind]
  dsimp only
  rw [if_neg (not_not.mpr hstays), hstays]
  rfl

lemma moveWordBack_agrees (h : t.editor.caret ≤ t.editor.buffer.length) :
    Agrees moveWordBack Terminal.moveWordBack t := by
  unfold moveWordBack Terminal.moveWordBack
  apply agrees_get_bind
  dsimp only
  split_ifs with hcaret
  · obtain ⟨c, hget⟩ : ∃ c, t.editor.buffer[t.editor.caret - 1]? = some c :=
      ⟨_, List.getElem?_eq_getElem (by omega)⟩
    rw [charAt_eq hget, pure_bind, runStart_caret h hcaret hget, pure_bind]
    exact agrees_plain _ t
  · apply agrees_setCaret_self h
    rw [Editor.previousBoundary]
    omega

lemma moveWordForward_agrees (h : t.editor.caret ≤ t.editor.buffer.length) :
    Agrees moveWordForward Terminal.moveWordForward t := by
  unfold moveWordForward Terminal.moveWordForward
  apply agrees_get_bind
  dsimp only
  split_ifs with hcaret
  · have hget := List.getElem?_eq_getElem hcaret
    rw [charAt_eq hget, pure_bind, runStop_caret hget, pure_bind]
    exact agrees_plain _ t
  · apply agrees_setCaret_self h
    rw [Editor.nextBoundary, List.drop_of_length_le (Nat.le_of_not_lt hcaret)]
    rfl

lemma redrawTail_agrees (h : t.editor.caret ≤ t.editor.buffer.length) :
    Agrees redrawTail Terminal.redrawTail t := by
  unfold redrawTail Terminal.redrawTail
  apply agrees_get_bind
  dsimp only
  rw [slice_length h, pure_bind]
  exact agrees_plain _ t

lemma removePrevious_agrees (h : t.editor.caret ≤ t.editor.buffer.length) :
    Agrees removePrevious Terminal.removePrevious t := by
  unfold removePrevious Terminal.removePrevious
  apply agrees_get_bind
  dsimp only
  apply agrees_ite
  · intro hcaret
    have hlt : t.editor.caret - 1 < t.editor.buffer.length := by omega
    rw [remove_eq hlt, pure_bind]
    refine agrees_modify_bind rfl (agrees_output_bind fun c => redrawTail_agrees ?_)
    dsimp only
    rw [List.length_eraseIdx_of_lt hlt]
    omega
  · intro _
    exact agrees_pure () t

lemma removeCurrent_agrees (t : Terminal) : Agrees removeCurrent Terminal.removeCurrent t := by
  unfold removeCurrent Terminal.removeCurrent
  apply agrees_get_bind
  dsimp only
  apply agrees_ite
  · intro hcaret
    rw [remove_eq hcaret, pure_bind]
    refine agrees_modify_bind rfl (redrawTail_agrees ?_)
    dsimp only
    rw [List.length_eraseIdx_of_lt hcaret]
    omega
  · intro _
    exact agrees_pure () t

lemma insert_agrees (h : t.editor.caret ≤ t.editor.buffer.length) (typed : List Char) :
    Agrees (insert typed) (Terminal.insert typed) t := by
  unfold insert Terminal.insert
  apply agrees_ite
  · intro _
    exact agrees_pure () t
  intro _
  apply agrees_get_bind
  dsimp only
  apply agrees_ite
  · intro _
    have hstop : t.editor.buffer.drop (min (t.editor.caret + typed.length) t.editor.buffer.length) =
        t.editor.tail.drop typed.length := by
      rw [Editor.tail, List.drop_drop]
      rcases Nat.le_total (t.editor.caret + typed.length) t.editor.buffer.length with hle | hle
      · rw [Nat.min_eq_left hle]
      · rw [Nat.min_eq_right hle, List.drop_length, List.drop_of_length_le hle]
    rw [splice_eq (by omega) (Nat.min_le_right _ _), pure_bind, hstop]
    exact agrees_plain _ t
  · intro _
    have hcaret := Editor.length_take_caret_append h typed
    rw [splice_eq (Nat.le_refl _) h, pure_bind]
    refine agrees_modify_bind rfl ?_
    rw [slice_length (by rw [List.length_append, hcaret]; exact Nat.le_add_right _ _), pure_bind,
      ← hcaret, List.drop_left]
    exact agrees_plain _ _

lemma setInput_agrees (t : Terminal) (text : String) :
    Agrees (setInput text) (Terminal.setInput text) t := by
  unfold setInput Terminal.setInput
  apply agrees_get_bind
  dsimp only
  refine agrees_output_bind fun c => ?_
  apply agrees_plain_bind
  intro _ t' _
  have hsuffix : (!(text.toList.drop
      (Terminal.commonLength t.editor.buffer text.toList)).isEmpty) = true ↔
      Terminal.commonLength t.editor.buffer text.toList < text.toList.length := by
    simp
  rw [slice_length (Editor.commonLength_le_right _ _), pure_bind]
  simp only [hsuffix]
  exact agrees_plain _ t'

end Careful

/-- With the caret within the line, an edit done with care does what the edit does, on any console:
no edit reaches outside of the line. -/
theorem Edit.carefully_agrees (edit : Edit) {t : Terminal}
    (h : t.editor.caret ≤ t.editor.buffer.length) : Agrees edit.carefully edit.run t := by
  cases edit with
  | move m =>
    cases m with
    | wordBack => exact Careful.moveWordBack_agrees h
    | wordForward => exact Careful.moveWordForward_agrees h
    | left | right | toStart | toEnd | position _ => exact agrees_plain _ t
  | insert typed => exact Careful.insert_agrees h typed
  | removePrevious => exact Careful.removePrevious_agrees h
  | removeCurrent => exact Careful.removeCurrent_agrees t
  | setInput text => exact Careful.setInput_agrees t text
  | toggleOverwrite => exact agrees_plain _ t

end LineShell
