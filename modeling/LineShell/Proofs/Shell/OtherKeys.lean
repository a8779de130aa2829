import LineShell.Proofs.Shell.Session
import LineShell.Proofs.Shell.WithoutLines

/-!
# Keys between completion keys

While keys are handled that are no completion keys, the completion stays what it is, until a line is
submitted: then it is forgotten (`Run.completion_after_others`). Commands and key handlers may do
whatever they like, and the console may refuse outputs.
-/

namespace LineShell

variable {S : Signature} {α : Type}

/-- The action of a completion key. -/
def Direction.action : Direction → EditAction
  | .forward => .nextSuggestion
  | .backward => .previousSuggestion

/-- None of so many events is a completion key. -/
def Shell.ExpectsNoCompletion (shell : Shell S) (rawMode : Bool) (n : Nat) : Prop :=
  ∀ key, .key key ∈ shell.console.queue.take n → ∀ d : Direction,
    Run.bindingOf shell rawMode key ≠ some (.action d.action)

lemma Run.bindingOf_congr {shell after : Shell S} (h : after.keys = shell.keys) (rawMode : Bool)
    (key : Key) : bindingOf after rawMode key = bindingOf shell rawMode key := by
  rw [bindingOf, bindingOf, h]

namespace Shell

variable {rawMode : Bool} {n : Nat} {shell after : Shell S}

lemma ExpectsNoCompletion.of_sameKeys (h : shell.ExpectsNoCompletion rawMode n)
    (hsame : shell.SameKeys after) : after.ExpectsNoCompletion rawMode n := by
  intro key hkey d
  rw [hsame.queue] at hkey
  rw [Run.bindingOf_congr hsame.keys]
  exact h key hkey d

lemma ExpectsNoCompletion.tail (h : shell.ExpectsNoCompletion rawMode (n + 1))
    (hkeys : after.keys = shell.keys) (hqueue : after.console.queue = shell.console.queue.tail) :
    after.ExpectsNoCompletion rawMode n := by
  intro key hkey d
  rw [Run.bindingOf_congr hkeys]
  refine h key ?_ d
  rw [hqueue] at hkey
  cases hevents : shell.console.queue with
  | nil => simp [hevents] at hkey
  | cons event rest =>
    rw [hevents] at hkey
    exact List.mem_cons_of_mem event hkey

end Shell

namespace Run

variable {engine engine' : Engine S} {app : Application S} {rawMode : Bool} {shell : Shell S}

/-! ### What a key does -/

lemma bars_openScope : Bars (openScope : Run S Token) openScope :=
  bars_of_ending fun _ => ⟨⟨rfl, rfl⟩, rfl⟩

lemma bars_closeScope (t : Token) : Bars (closeScope t : Run S Unit) (closeScope t) :=
  bars_of_ending fun _ => ⟨⟨rfl, rfl⟩, rfl⟩

lemma ending_caught (r : Run S Unit) (shell : Shell S) :
    ending (caught r shell) = ending (r shell) := by
  rw [caught]
  cases r shell with
  | ok a ended => rfl
  | error halt ended => cases halt <;> rfl

lemma bars_caught {r r' : Run S Unit} (h : Bars r r') : Bars (caught r) (caught r') :=
  fun shell => (h shell).handedOn (f := fun z => caught (fun _ => z) shell)
    (fun _ => ending_caught _ shell) fun _ => rfl

lemma bars_reportKey (outcome : Except Failure Unit) :
    Bars (reportKey outcome : Run S Unit) (reportKey outcome) := by
  match outcome with
  | .ok () | .error .cancelled => exact bars_pure ()
  | .error (.system _) | .error (.malformed _) | .error (.command _) | .error (.other _) =>
    exact bars_output _

lemma bars_inScope {body body' : Token → Run S Unit} (h : ∀ t, Bars (body t) (body' t)) :
    Bars (inScope body) (inScope body') := by
  rw [inScope_eq, inScope_eq]
  refine bars_openScope.bind fun t => (bars_caught (h t)).bind fun outcome => ?_
  exact (bars_closeScope t).bind fun _ => bars_reportKey outcome

/-- Of the actions of the line editor, those of the completion keys begin and change completions,
and one submits the line. -/
lemma bars_action (h : engine.Bars engine') (app : Application S) (t : Token) {a : EditAction}
    (ha : ∀ d : Direction, a ≠ d.action) :
    Bars (action app engine t a) (action app engine' t a) := by
  cases a with
  | moveLeft => exact bars_edit (.move .left)
  | moveRight => exact bars_edit (.move .right)
  | moveToStart => exact bars_edit (.move .toStart)
  | moveToEnd => exact bars_edit (.move .toEnd)
  | moveWordBack => exact bars_edit (.move .wordBack)
  | moveWordForward => exact bars_edit (.move .wordForward)
  | previousHistory =>
    refine bars_get_bind fun shell => ?_
    rcases shell.history.previous with ⟨entry, history⟩
    refine Bars.bind (bars_modify (fun _ => rfl) (fun _ => rfl) fun _ => rfl) fun _ => ?_
    cases entry with
    | none => exact bars_pure ()
    | some text => exact bars_edit (.setInput text)
  | nextHistory =>
    refine bars_get_bind fun shell => ?_
    rcases shell.history.next with ⟨entry, history⟩
    refine Bars.bind (bars_modify (fun _ => rfl) (fun _ => rfl) fun _ => rfl) fun _ => ?_
    exact bars_edit (.setInput _)
  | nextSuggestion => exact absurd rfl (ha .forward)
  | previousSuggestion => exact absurd rfl (ha .backward)
  | clearLine | breakLine => exact bars_edit (.setInput "")
  | removePrevious => exact bars_edit .removePrevious
  | removeCurrent => exact bars_edit .removeCurrent
  | toggleOverwrite => exact bars_edit .toggleOverwrite
  | execute => exact h.submit [] t

lemma bars_binding (h : engine.Bars engine') (app : Application S) (key : Key) (t : Token)
    {b : KeyBinding S.Handler} (hb : ∀ d : Direction, b ≠ .action d.action) :
    Bars (binding app engine key t b) (binding app engine' key t b) := by
  cases b with
  | action a => exact bars_action h app t fun d ha => hb d (congrArg KeyBinding.action ha)
  | handler handler => exact bars_program h [] _

lemma bars_flush (typed : List Char) : Bars (flush typed : Run S Unit) (flush typed) :=
  bars_edit (.insert typed.reverse)

/-! ### Reading a key -/

/-- What comes of reading a key: one event is taken out of the queue. -/
inductive Reads (shell : Shell S) : EStateM.Result Halt (Shell S) KeyRead → Prop
  | ok {read : KeyRead} {after : Shell S} (hkeys : after.keys = shell.keys)
    (hcompletion : after.completion = shell.completion)
    (hqueue : after.console.queue = shell.console.queue.tail)
    (hhead : ∀ key, read = .key key → .key key ∈ shell.console.queue.take 1) :
    Reads shell (.ok read after)
  | failure {f : Failure} {after : Shell S} (hcompletion : after.completion = shell.completion) :
    Reads shell (.error (.failure f) after)

lemma readKey_reads (shell : Shell S) : Reads shell (readKey shell) := by
  let t := shell.breaks.start.1
  let opened := { shell with breaks := shell.breaks.start.2 }
  have hopen : openScope shell = .ok t opened := rfl
  cases hqueue : shell.console.queue with
  | nil =>
    have hnext : nextEvent opened = .ok none opened := by
      rw [nextEvent, show opened.console.queue = [] from hqueue]
    rw [readKey, bind_of_ok hopen, bind_of_ok hnext]
    exact .ok rfl rfl (by rw [hqueue]; exact hqueue) fun _ heq => by cases heq
  | cons event rest =>
    let read := opened.withConsole { opened.console with queue := rest }
    have hnext : nextEvent opened = .ok (some event) read := by
      rw [nextEvent, show opened.console.queue = event :: rest from hqueue]
    rw [readKey, bind_of_ok hopen, bind_of_ok hnext]
    cases event with
    | key key =>
      refine .ok rfl rfl (by rw [hqueue]; rfl) fun key' heq => ?_
      obtain rfl := KeyRead.key.inj heq
      rw [hqueue]
      exact List.mem_singleton.mpr rfl
    | breakKey =>
      refine .ok rfl rfl (by rw [hqueue]; rfl) fun key heq => ?_
      split_ifs at heq
    | fault reason => exact .failure rfl

/-! ### The loop -/

/-- The induction is on the rounds that are left. A round takes one event out of the queue, which is
no completion key. -/
lemma loop_unlessSubmitted (h : engine.Bars engine') (app : Application S) (n : Nat)
    (typed : List Char) (hothers : shell.ExpectsNoCompletion rawMode n) :
    UnlessSubmitted (fun _ => True) shell.completion
      (loop app engine rawMode n typed shell) (loop app engine' rawMode n typed shell) := by
  induction n generalizing typed shell with
  | zero => exact (bars_flush typed shell).imp fun _ _ => trivial
  | succ n ih =>
    -- whatever is done about an event, the loop goes on after it
    have hagain : ∀ {r r' : Run S Unit} {after : Shell S}, Bars r r' →
        after.ExpectsNoCompletion rawMode n → UnlessSubmitted (fun _ => True) after.completion
          ((r >>= fun _ => loop app engine rawMode n []) after)
          ((r' >>= fun _ => loop app engine' rawMode n []) after) := by
      intro r r' after hr hafter
      exact (hr after).bind
        (fun _ middle hsame => ih [] (hafter.of_sameKeys hsame))
        fun _ _ => trivial
    rw [loop, loop]
    show UnlessSubmitted _ _
      ((if shell.exitRequested then flush typed else readKey >>= _ : Run S Unit) shell)
      ((if shell.exitRequested then flush typed else readKey >>= _ : Run S Unit) shell)
    split_ifs
    · exact (bars_flush typed shell).imp fun _ _ => trivial
    have hread := readKey_reads shell
    show UnlessSubmitted _ _ (EStateM.bind readKey _ shell) (EStateM.bind readKey _ shell)
    rw [EStateM.bind, EStateM.bind]
    generalize readKey shell = x at hread
    cases hread with
    | failure hcompletion => exact .same trivial hcompletion
    | @ok read after hkeys hcompletion hqueue hhead =>
      rw [← hcompletion]
      have hafter := hothers.tail hkeys hqueue
      cases read with
      | exhausted => exact (bars_flush typed after).imp fun _ _ => trivial
      | broken =>
        exact (bars_flush typed after).bind (fun _ middle hsame =>
          hagain (bars_edit (.setInput "")) (hafter.of_sameKeys hsame))
          fun _ _ => trivial
      | key key =>
        have hkey := hothers key (List.take_subset_take_left _ (by omega) (hhead key rfl))
        rw [← bindingOf_congr hkeys] at hkey
        show UnlessSubmitted _ _ ((get >>= _ : Run S Unit) after) ((get >>= _ : Run S Unit) after)
        refine UnlessSubmitted.get_bind ?_
        cases hb : bindingOf after rawMode key with
        | some b =>
          rw [hb] at hkey
          have hbinding := bars_inScope fun t =>
            bars_binding h app key t fun d heq => hkey d (congrArg some heq)
          exact (bars_flush typed after).bind (fun _ middle hsame =>
            hagain hbinding (hafter.of_sameKeys hsame)) fun _ _ => trivial
        | none =>
          show UnlessSubmitted _ _
            ((if after.console.isKeyAvailable then _ else _ : Run S Unit) after)
            ((if after.console.isKeyAvailable then _ else _ : Run S Unit) after)
          split_ifs
          · exact ih _ hafter
          · exact hagain (bars_flush _) hafter

/-- No line is submitted while so many events are handled: the same is done as where those who
submit a line wait for what never comes. -/
def SubmitsNothing (app : Application S) (rawMode : Bool) (n : Nat) (shell : Shell S) : Prop :=
  loop app (.withoutLines app Engine.levels) rawMode n [] shell =
    loop app (.standard app) rawMode n [] shell

/-- A completion outlives all events but completion keys, if and only if no line is submitted. The
handling of the events may fail, but it has to come to an end. -/
theorem completion_after_others {n : Nat} {x : EStateM.Result Halt (Shell S) Unit}
    (hothers : shell.ExpectsNoCompletion rawMode n)
    (hrun : loop app (.standard app) rawMode n [] shell = x)
    (hends : ∀ after, x ≠ .error .stuck after) :
    (SubmitsNothing app rawMode n shell → (ending x).completion = shell.completion) ∧
      (¬ SubmitsNothing app rawMode n shell → (ending x).completion = none) := by
  have hloop := loop_unlessSubmitted (Engine.bars_ofLevels app Engine.levels) app n [] hothers
  have hfull : loop app (.ofLevels app Engine.levels) rawMode n [] shell = x := hrun
  rw [SubmitsNothing, hrun]
  rw [hfull] at hloop
  generalize loop app (.withoutLines app Engine.levels) rawMode n [] shell = y at hloop ⊢
  cases hloop with
  | same _ hkept => exact ⟨fun _ => hkept, fun h => absurd rfl h⟩
  | submitted _ hnone => exact ⟨fun h => absurd h.symm (hends _), fun _ => hnone⟩

/-- Whether a line is submitted is told by whether there is an end where those who submit one wait
for what never comes. -/
lemma submitsNothing_iff {n : Nat} {after : Shell S} (hothers : shell.ExpectsNoCompletion rawMode n)
    (hrun : loop app (.standard app) rawMode n [] shell = .ok () after) :
    SubmitsNothing app rawMode n shell ↔
      (loop app (.withoutLines app Engine.levels) rawMode n []).run' shell = some () := by
  have hloop := loop_unlessSubmitted (Engine.bars_ofLevels app Engine.levels) app n [] hothers
  have hfull : loop app (.ofLevels app Engine.levels) rawMode n [] shell = .ok () after := hrun
  rw [SubmitsNothing, hrun]
  rw [hfull] at hloop
  refine ⟨run_of_ok, fun h => ?_⟩
  obtain ⟨after', hbarred⟩ := exists_of_run_eq_some h
  rw [hbarred] at hloop ⊢
  cases hloop with
  | same _ _ => rfl

end Run

end LineShell
