import LineShell.Proofs.Editor.Pieces
import LineShell.Proofs.Shell.Noted

/-!
# Typing in pieces

To type some characters and then some more is as good as to type all of them at once, and so a
session may be cut into two after any key.
-/

namespace LineShell

open Screen (StaysInRow)

/-- What a key types stays in the row. -/
def Key.StaysInRow (key : Key) : Prop :=
  ∀ c, key.character? = some c → Screen.StaysInRow c

lemma Key.StaysInRow.forall_mem {key : Key} (h : key.StaysInRow) :
    ∀ c ∈ key.character?.toList, Screen.StaysInRow c :=
  fun c hc => h c (Option.mem_toList.mp hc)

namespace Shell

variable {S : Signature} {app : Application S} {structured : S.Command → Structured S}
  {shell : Shell S} {I : Shell S → Prop} {rawMode : Bool}

/-- Typing in two pieces is typing at once. -/
lemma edited_insert_append (h : shell.editor.caret ≤ shell.editor.buffer.length)
    (hbuffer : ∀ a ∈ shell.editor.buffer, StaysInRow a) (xs : List Char) {ys : List Char}
    (hys : ∀ a ∈ ys, StaysInRow a)
    (hroom : (shell.edited (.insert xs)).terminal.HasRoom) :
    shell.edited (.insert (xs ++ ys)) = (shell.edited (.insert xs)).edited (.insert ys) := by
  have heditor := Edit.apply_insert_append h xs ys
  have hconsole := shell.console.display_insert_append h hbuffer xs hys hroom
  rw [edited, heditor, hconsole]
  rfl

/-! ### Readiness -/

/-- No plain effect has to do with readiness. -/
lemma keeps_ready {p : Program S Unit} (hp : p.IsPlain) {ready : Bool} :
    p.Keeps fun shell => shell.ready = ready := by
  apply hp.keeps
  intro e f shell hf h
  cases e with
  | output o =>
    cases o with
    | caretShown shown => cases hf
    | _ =>
      obtain rfl := Option.some.inj hf
      exact h
  | setInput _ | record _ | forgetHistory | requestExit | register _ | setState _ =>
    obtain rfl := Option.some.inj hf
    exact h
  | _ => cases hf

lemma ready_announced (happ : app.IsPlain structured) (shell : Shell S) :
    (shell.announced app).ready = true := by
  rw [announced]
  split_ifs with hready
  · exact hready
  · exact (keeps_ready happ.announce).final rfl

/-- When a line was submitted, readiness was signalled. -/
lemma ready_submitted (happ : app.IsPlain structured) (shell : Shell S) :
    (shell.submitted app structured).ready = true := by
  show (Shell.concluded app _).ready = true
  rw [concluded]
  split_ifs with hready
  · exact hready
  · exact ready_announced happ _

lemma ready_keyReported (outcome : Except Failure Unit) :
    (shell.keyReported outcome).ready = shell.ready := by
  match outcome with
  | .ok () | .error .cancelled => rfl
  | .error (.system _) | .error (.malformed _) | .error (.command _) | .error (.other _) => rfl

lemma ready_recalled (found : Option String × History) :
    (shell.recalled found).ready = shell.ready := by
  rw [recalled]
  cases found.1 <;> rfl

lemma ready_completed (d : Direction) : (shell.completed app d).ready = shell.ready := by
  rw [completed]
  cases shell.nextCompletion app d with
  | none => rfl
  | some c => rw [ready_edited, ready_edited]

lemma ready_pressed (happ : app.IsPlain structured) (key : Key) (b : KeyBinding S.Handler)
    (h : shell.ready = true) : (shell.pressed app structured key b).ready = true := by
  cases b with
  | handler handler =>
    exact executed_of (keeps_ready (happ.handle handler key 0))
      (fun _ outcome h => (ready_keyReported outcome).trans h) h
  | action a =>
    cases a with
    | previousHistory | nextHistory => exact (ready_recalled _).trans h
    | nextSuggestion | previousSuggestion => exact (ready_completed _).trans h
    | execute => exact ready_submitted happ shell
    | _ => exact h

/-- In a session, readiness need not be signalled again. -/
lemma ready_session (happ : app.IsPlain structured) (keys : List Key) (typed : List Char)
    (h : shell.ready = true) :
    (shell.session app structured rawMode keys typed).1.ready = true := by
  induction keys generalizing shell typed with
  | nil => exact h
  | cons key keys ih =>
    rw [session]
    split_ifs
    · exact h
    · cases Run.bindingOf shell rawMode key with
      | some b => exact ih [] (ready_pressed happ key b h)
      | none => exact ih _ h

/-! ### Two sessions -/

/-- A property that typing and bound keys keep, and by which the line stays in its row. -/
structure IsRowInvariant (app : Application S) (structured : S.Command → Structured S)
    (I : Shell S → Prop) : Prop where
  caret_le : ∀ {shell}, I shell → shell.editor.caret ≤ shell.editor.buffer.length
  buffer : ∀ {shell}, I shell → ∀ a ∈ shell.editor.buffer, StaysInRow a
  insert : ∀ {shell typed}, I shell → (∀ a ∈ typed, StaysInRow a) → I (shell.edited (.insert typed))
  pressed : ∀ {shell} key b, I shell → I (shell.pressed app structured key b)

/-- Characters that were put by are typed first, the later ones stay put by. -/
lemma IsRowInvariant.session_append_typed (hI : IsRowInvariant app structured I) (h : I shell)
    {keys : List Key} (hkeys : ∀ key ∈ keys, key.StaysInRow) {later : List Char}
    (hlater : ∀ a ∈ later, StaysInRow a) (earlier : List Char)
    (hroom : (shell.edited (.insert earlier.reverse)).terminal.HasRoom) :
    shell.session app structured rawMode keys (later ++ earlier) =
      (shell.edited (.insert earlier.reverse)).session app structured rawMode keys later := by
  have hflush : ∀ {later : List Char}, (∀ a ∈ later, StaysInRow a) →
      shell.edited (.insert (later ++ earlier).reverse) =
        (shell.edited (.insert earlier.reverse)).edited (.insert later.reverse) := by
    intro later hlater
    rw [List.reverse_append]
    exact edited_insert_append (hI.caret_le h) (hI.buffer h) _
      (fun a ha => hlater a (List.mem_reverse.mp ha)) hroom
  induction keys generalizing later with
  | nil => rw [session, session, hflush hlater]
  | cons key keys ih =>
    obtain ⟨hkey, hkeys⟩ := List.forall_mem_cons.mp hkeys
    have hexit : (shell.edited (.insert earlier.reverse)).exitRequested = shell.exitRequested := rfl
    have hbinding : Run.bindingOf (shell.edited (.insert earlier.reverse)) rawMode key =
        Run.bindingOf shell rawMode key := rfl
    rw [session, session, hexit, hbinding, hflush hlater]
    split_ifs
    · rfl
    · cases Run.bindingOf shell rawMode key with
      | some b => rfl
      | none =>
        rw [← List.append_assoc]
        exact ih hkeys (List.forall_mem_append.mpr ⟨hkey.forall_mem, hlater⟩)

/-- A session may be cut into two after any key. What is left of the first part is read in the
second one. The induction is on the first part. -/
lemma IsRowInvariant.session_append (hI : IsRowInvariant app structured I) (h : I shell)
    {first second : List Key} (hfirst : ∀ key ∈ first, key.StaysInRow)
    (hsecond : ∀ key ∈ second, key.StaysInRow) {typed : List Char}
    (htyped : ∀ a ∈ typed, StaysInRow a)
    (hroom : (shell.session app structured rawMode first typed).1.terminal.HasRoom) :
    shell.session app structured rawMode (first ++ second) typed =
      (shell.session app structured rawMode first typed).1.session app structured rawMode
        ((shell.session app structured rawMode first typed).2 ++ second) [] := by
  induction first generalizing shell typed with
  | nil => exact hI.session_append_typed h hsecond (List.forall_mem_nil _) typed hroom
  | cons key first ih =>
    obtain ⟨hkey, hfirst⟩ := List.forall_mem_cons.mp hfirst
    by_cases hexit : shell.exitRequested
    · have hexit' : (shell.edited (.insert typed.reverse)).exitRequested = true := hexit
      rw [session_of_exitRequested hexit, session_of_exitRequested hexit,
        session_of_exitRequested hexit', List.reverse_nil, edited_insert_nil]
    · have hround : ∀ keys, shell.session app structured rawMode (key :: keys) typed = _ :=
        fun keys => if_neg hexit
      rw [hround] at hroom
      rw [List.cons_append, hround, hround]
      cases hbinding : Run.bindingOf shell rawMode key with
      | some b =>
        rw [hbinding] at hroom
        have hflushed := hI.insert h fun a ha => htyped a (List.mem_reverse.mp ha)
        exact ih (hI.pressed key b hflushed) hfirst (List.forall_mem_nil _) hroom
      | none =>
        rw [hbinding] at hroom
        exact ih h hfirst (List.forall_mem_append.mpr ⟨hkey.forall_mem, htyped⟩) hroom

/-- What typing and bound keys keep, sessions keep. -/
lemma IsRowInvariant.session (hI : IsRowInvariant app structured I) (h : I shell)
    {keys : List Key} (hkeys : ∀ key ∈ keys, key.StaysInRow) {typed : List Char}
    (htyped : ∀ a ∈ typed, StaysInRow a) :
    I (shell.session app structured rawMode keys typed).1 := by
  have hflush : ∀ {shell : Shell S} {typed : List Char}, I shell →
      (∀ a ∈ typed, StaysInRow a) → I (shell.edited (.insert typed.reverse)) :=
    fun h htyped => hI.insert h fun a ha => htyped a (List.mem_reverse.mp ha)
  induction keys generalizing shell typed with
  | nil => exact hflush h htyped
  | cons key keys ih =>
    obtain ⟨hkey, hkeys⟩ := List.forall_mem_cons.mp hkeys
    rw [Shell.session]
    split_ifs
    · exact hflush h htyped
    · cases Run.bindingOf shell rawMode key with
      | some b => exact ih (hI.pressed key b (hflush h htyped)) hkeys (List.forall_mem_nil _)
      | none => exact ih h hkeys (List.forall_mem_append.mpr ⟨hkey.forall_mem, htyped⟩)

end Shell

/-! ### Two runs -/

namespace Run

variable {S : Signature} {app : Application S} {structured : S.Command → Structured S}
  {shell : Shell S} {I : Shell S → Prop}

/-- A run after some more keys have come in. -/
lemma all_enqueue_leads (happ : app.IsPlain structured) (hcalm : shell.Calm)
    (hraw : (shell.view.announced app).config.rawMode = false) {rest : List Key}
    (hqueue : shell.console.queue = rest.map .key) (keys : List Key) :
    Leads (all app) (shell.withConsole (shell.console.enqueue (keys.map .key))) ()
      ((shell.view.announced app).session app structured false (rest ++ keys) []).1
      ((shell.view.announced app).session app structured false (rest ++ keys) []).2 := by
  have hcalm' : (shell.withConsole (shell.console.enqueue (keys.map .key))).Calm :=
    ⟨hcalm.refusals, hcalm.quiet⟩
  have hqueue' : (shell.withConsole (shell.console.enqueue (keys.map .key))).console.queue =
      (rest ++ keys).map .key := by
    rw [List.map_append, ← hqueue]
    rfl
  exact all_leads happ hcalm' hraw hqueue'

/-- Where keys come in in two pieces with a run in between, the view and the queue are in the end
what they are if all of them come in at once. -/
lemma exists_all_append (happ : app.IsPlain structured)
    (hI : Shell.IsRowInvariant app structured I)
    (hraw : ∀ shell, I shell → shell.config.rawMode = false) (hcalm : shell.Calm)
    (hqueue : shell.console.queue = []) (hstart : I (shell.view.announced app))
    {first second : List Key} (hfirst : ∀ key ∈ first, key.StaysInRow)
    (hsecond : ∀ key ∈ second, key.StaysInRow) :
    ∃ paused resumed once,
      all app (shell.withConsole (shell.console.enqueue (first.map .key))) = .ok () paused ∧
      all app (paused.withConsole (paused.console.enqueue (second.map .key))) = .ok () resumed ∧
      all app (shell.withConsole (shell.console.enqueue ((first ++ second).map .key))) =
        .ok () once ∧
      (paused.terminal.HasRoom →
        resumed.view = once.view ∧ resumed.console.queue = once.console.queue) := by
  have hnone : shell.console.queue = ([] : List Key).map .key := hqueue
  obtain ⟨paused, hpaused, hcalm', hview, hqueue'⟩ :=
    all_enqueue_leads happ hcalm (hraw _ hstart) hnone first
  obtain ⟨once, honce, -, honceView, honceQueue⟩ :=
    all_enqueue_leads happ hcalm (hraw _ hstart) hnone (first ++ second)
  rw [List.nil_append] at hview hqueue' honceView honceQueue
  -- the second run begins where the first one ended, as readiness is not signalled again
  have hready : paused.view.announced app = paused.view := by
    have hsignalled := Shell.ready_announced happ shell.view
    rw [hview]
    exact if_pos (Shell.ready_session happ first [] hsignalled)
  have hkept : I paused.view := by
    rw [hview]
    exact hI.session hstart hfirst (List.forall_mem_nil _)
  have hraw' : (paused.view.announced app).config.rawMode = false := by
    rw [hready]
    exact hraw _ hkept
  obtain ⟨resumed, hresumed, -, hresumedView, hresumedQueue⟩ :=
    all_enqueue_leads happ hcalm' hraw' hqueue' second
  refine ⟨paused, resumed, once, hpaused, hresumed, honce, fun hroom => ?_⟩
  have hroom' : paused.view.terminal.HasRoom := hroom
  rw [hview] at hroom'
  have happend := hI.session_append hstart hfirst hsecond (List.forall_mem_nil _) hroom'
  rw [happend, ← hview] at honceView honceQueue
  rw [hready] at hresumedView hresumedQueue
  exact ⟨hresumedView.trans honceView.symm, hresumedQueue.trans honceQueue.symm⟩

end Run

end LineShell
