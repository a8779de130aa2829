import LineShell.Proofs.Editor.Outcome
import LineShell.Proofs.Shell.Submission
import LineShell.Shell.Loop

/-!
# Runs in which no line is submitted

What a run does without submitting a line, it does as well with an engine that knows no lines, where
those who submit one wait for what never comes (`Engine.withoutLines`). Side by side, the two
engines come to the same, and the completion stays what it was; or else a line is submitted, and
then there is no completion in the end (`Run.Bars`). That holds for whatever commands do, and on a
console that refuses outputs. Neither the key table nor the queue is touched.
-/

namespace LineShell

variable {S : Signature} {α β : Type}

/-! ### Runs side by side -/

lemma Settles.queue_ending {queue : List Event} {failed : Editor → Prop} {e : Editor}
    {x : EStateM.Result Failure Terminal α} (h : Settles queue failed e x) :
    (ending x).console.queue = queue := by
  cases h with
  | ok a hqueue => exact hqueue
  | failure f hqueue h => exact hqueue

/-- Keys mean the same in both shells, and the same is in their queues. -/
structure Shell.SameKeys (before after : Shell S) : Prop where
  keys : after.keys = before.keys
  queue : after.console.queue = before.console.queue

lemma Shell.SameKeys.trans {a b c : Shell S} (h : a.SameKeys b) (h' : b.SameKeys c) :
    a.SameKeys c :=
  ⟨h'.keys.trans h.keys, h'.queue.trans h.queue⟩

/-- What a run comes to, by what it comes to where those who submit a line wait for what never
comes. Either it comes to the same and keeps the completion, or a line is submitted, and then no
completion is left. -/
inductive UnlessSubmitted (I : Shell S → Prop) (completion : Option Completion) :
    EStateM.Result Halt (Shell S) α → EStateM.Result Halt (Shell S) α → Prop
  | same {x : EStateM.Result Halt (Shell S) α} (h : I (ending x))
    (hkept : (ending x).completion = completion) : UnlessSubmitted I completion x x
  | submitted {shell : Shell S} {x : EStateM.Result Halt (Shell S) α} (h : I (ending x))
    (hnone : (ending x).completion = none) : UnlessSubmitted I completion (.error .stuck shell) x

namespace UnlessSubmitted

variable {I J : Shell S → Prop} {completion : Option Completion}
  {x y : EStateM.Result Halt (Shell S) α}

lemma imp (h : UnlessSubmitted I completion x y) (hI : ∀ shell, I shell → J shell) :
    UnlessSubmitted J completion x y := by
  cases h with
  | same h hkept => exact .same (hI _ h) hkept
  | submitted h hnone => exact .submitted (hI _ h) hnone

/-- Where there is no completion, none is left. -/
lemma of_none (h : UnlessSubmitted I none x y) : I (ending y) ∧ (ending y).completion = none := by
  cases h with
  | same h hkept => exact ⟨h, hkept⟩
  | submitted h hnone => exact ⟨h, hnone⟩

lemma bind {r r' : Run S α} {k k' : α → Run S β} {shell : Shell S}
    (h : UnlessSubmitted I completion (r shell) (r' shell))
    (hk : ∀ a shell, I shell → UnlessSubmitted J shell.completion (k a shell) (k' a shell))
    (hI : ∀ shell, I shell → J shell) :
    UnlessSubmitted J completion ((r >>= k) shell) ((r' >>= k') shell) := by
  show UnlessSubmitted J completion (EStateM.bind r k shell) (EStateM.bind r' k' shell)
  rw [EStateM.bind, EStateM.bind]
  generalize r shell = x at h
  generalize r' shell = y at h
  cases h with
  | same h hkept =>
    cases x with
    | ok a middle => exact hkept ▸ hk a middle h
    | error halt middle => exact .same (hI _ h) hkept
  | submitted h hnone =>
    cases y with
    | ok a middle =>
      have hnone : middle.completion = none := hnone
      -- the first run has stopped, so it is enough that the rest of the second one brings no
      -- completion back
      obtain ⟨h', hnone'⟩ := (hnone ▸ hk a middle h).of_none
      exact .submitted h' hnone'
    | error halt middle => exact .submitted (hI _ h) hnone

/-- Results may be handed on in another form, with the states that they come with, as long as to
wait for what never comes is not turned into anything else. -/
lemma handedOn {f : EStateM.Result Halt (Shell S) α → EStateM.Result Halt (Shell S) β}
    (h : UnlessSubmitted I completion x y) (hending : ∀ z, ending (f z) = ending z)
    (hstuck : ∀ shell, f (.error .stuck shell) = .error .stuck shell) :
    UnlessSubmitted I completion (f x) (f y) := by
  cases h with
  | same h hkept =>
    rw [← hending] at h hkept
    exact .same h hkept
  | submitted h hnone =>
    rw [← hending] at h hnone
    rw [hstuck]
    exact .submitted h hnone

lemma get_bind {k k' : Shell S → Run S α} {shell : Shell S}
    (h : UnlessSubmitted I completion (k shell shell) (k' shell shell)) :
    UnlessSubmitted I completion ((get >>= k) shell) ((get >>= k') shell) :=
  h

end UnlessSubmitted

namespace Run

/-- The first run is the second one where those who submit a line wait for what never comes. Neither
does anything to the key table and the queue. -/
def Bars (r r' : Run S α) : Prop :=
  ∀ shell, UnlessSubmitted shell.SameKeys shell.completion (r shell) (r' shell)

lemma bars_of_ending {r : Run S α} (h : ∀ shell, shell.SameKeys (ending (r shell)) ∧
    (ending (r shell)).completion = shell.completion) : Bars r r :=
  fun shell => .same (h shell).1 (h shell).2

lemma Bars.bind {r r' : Run S α} {k k' : α → Run S β} (h : Bars r r')
    (hk : ∀ a, Bars (k a) (k' a)) : Bars (r >>= k) (r' >>= k') :=
  fun shell => (h shell).bind (fun a middle hsame => (hk a middle).imp fun _ => hsame.trans)
    fun _ h => h

lemma bars_pure (a : α) : Bars (pure a : Run S α) (pure a) :=
  bars_of_ending fun _ => ⟨⟨rfl, rfl⟩, rfl⟩

lemma bars_throw (halt : Halt) : Bars (throw halt : Run S α) (throw halt) :=
  bars_of_ending fun _ => ⟨⟨rfl, rfl⟩, rfl⟩

lemma bars_get_bind {k k' : Shell S → Run S α} (h : ∀ shell, Bars (k shell) (k' shell)) :
    Bars (get >>= k) (get >>= k') :=
  fun shell => h shell shell

lemma bars_modify {f : Shell S → Shell S} (hterminal : ∀ shell, (f shell).terminal = shell.terminal)
    (hkeys : ∀ shell, (f shell).keys = shell.keys)
    (hcompletion : ∀ shell, (f shell).completion = shell.completion) :
    Bars (modify f) (modify f) :=
  bars_of_ending fun shell =>
    ⟨⟨hkeys shell, congrArg (fun t => t.console.queue) (hterminal shell)⟩, hcompletion shell⟩

lemma bars_ite {r₁ r₂ r₁' r₂' : Run S α} (p : Prop) [Decidable p] (h₁ : Bars r₁ r₁')
    (h₂ : Bars r₂ r₂') : Bars (if p then r₁ else r₂) (if p then r₁' else r₂') := by
  split_ifs
  · exact h₁
  · exact h₂

/-! ### What is done on the terminal -/

lemma bars_onTerminal {a : Attempt Terminal α}
    (h : ∀ t, (ending (a t)).console.queue = t.console.queue) :
    Bars (onTerminal a : Run S α) (onTerminal a) := by
  refine bars_of_ending fun shell => ?_
  have hqueue := h shell.terminal
  rw [onTerminal]
  generalize a shell.terminal = x at hqueue
  cases x with
  | ok value t => exact ⟨⟨rfl, hqueue⟩, rfl⟩
  | error f t => exact ⟨⟨rfl, hqueue⟩, rfl⟩

lemma bars_edit (edit : Edit) : Bars (onTerminal edit.run : Run S Unit) (onTerminal edit.run) :=
  bars_onTerminal fun t => (edit.run_settles t).queue_ending

lemma bars_output (o : Output) : Bars (output o : Run S Unit) (output o) :=
  bars_onTerminal fun _ =>
    (Terminal.output_settles rfl trivial o : Settles _ (fun _ => True) _ _).queue_ending

lemma bars_writeLine (text : String) : Bars (writeLine text : Run S Unit) (writeLine text) :=
  (bars_output _).bind fun _ => bars_output _

/-! ### Giving way -/

lemma bars_giveWay (races : List Token) : Bars (giveWay races : Run S Unit) (giveWay races) := by
  have hnotice : Bars (noticeInterrupt : Run S Unit) noticeInterrupt := by
    refine bars_of_ending fun shell => ?_
    show shell.SameKeys (if shell.interrupted then _ else shell) ∧
      (if shell.interrupted then _ else shell : Shell S).completion = _
    split_ifs <;> exact ⟨⟨rfl, rfl⟩, rfl⟩
  refine hnotice.bind fun _ => bars_get_bind fun shell => ?_
  cases races.find? shell.isCancelled with
  | some t => exact bars_throw _
  | none => exact bars_pure ()

lemma bars_await (races : List Token) (t : Token) :
    Bars (await races t : Run S Unit) (await races t) := by
  refine bars_get_bind fun shell => bars_ite _ (bars_pure ()) ?_
  refine (bars_giveWay races).bind fun _ => bars_get_bind fun shell => ?_
  exact bars_ite _ (bars_throw _) (bars_pure ())

end Run

/-! ### Programs -/

/-- The first engine is the second one, but those who submit a line wait for what never comes. -/
structure Engine.Bars (engine engine' : Engine S) : Prop where
  submit : ∀ races t, Run.Bars (engine.submit races t) (engine'.submit races t)
  signalReady : ∀ races, Run.Bars (engine.signalReady races) (engine'.signalReady races)

namespace Run

variable {engine engine' : Engine S} {app : Application S}

/-- The step lemma: any effect. -/
lemma bars_effect (h : engine.Bars engine') (races : List Token) (e : Effect S) :
    Bars (effect engine races e) (effect engine' races e) := by
  have hmodify : ∀ f : Shell S → Shell S, (∀ shell, (f shell).terminal = shell.terminal) →
      (∀ shell, (f shell).keys = shell.keys) →
      (∀ shell, (f shell).completion = shell.completion) → Bars (modify f) (modify f) :=
    fun _ => bars_modify
  cases e with
  | output o => exact bars_output o
  | setInput text => exact bars_edit (.setInput text)
  | signalReady => exact h.signalReady races
  | submit t => exact h.submit races t
  | record | forgetHistory | requestExit | pressBreak | register | setState =>
    exact hmodify _ (fun _ => rfl) (fun _ => rfl) fun _ => rfl
  | interrupt =>
    exact (bars_giveWay races).bind fun _ => hmodify _ (fun _ => rfl) (fun _ => rfl) fun _ => rfl
  | pause => exact bars_giveWay races
  | await t => exact bars_await races t
  | hang => exact (bars_giveWay races).bind fun _ => bars_throw _

/-- The run lemma: any program. -/
lemma bars_program (h : engine.Bars engine') (races : List Token) (p : Program S α) :
    Bars (program engine races p) (program engine' races p) := by
  induction p with
  | done a => exact bars_pure a
  | fail f => exact bars_throw _
  | look next ih => exact bars_get_bind ih
  | act e next ih => exact (bars_effect h races e).bind fun _ => ih

lemma ending_race (races : List Token) (t : Token) (body : List Token → Run S Unit)
    (shell : Shell S) :
    ending (race races t body shell) =
      if shell.isCancelled t then shell else ending (body (races ++ [t]) shell) := by
  rw [race]
  split_ifs
  · rfl
  cases body (races ++ [t]) shell with
  | ok a ended => rfl
  | error halt ended =>
    cases halt with
    | failure f => rfl
    | aborted u =>
      dsimp only
      split_ifs <;> rfl
    | stuck => rfl

/-- A race hands failures over as values, but not that it waits for what never comes. -/
lemma bars_race (races : List Token) (t : Token) {body body' : List Token → Run S Unit}
    (h : Bars (body (races ++ [t])) (body' (races ++ [t]))) :
    Bars (race races t body) (race races t body') := by
  intro shell
  by_cases hcancelled : shell.isCancelled t
  · rw [race, race, if_pos hcancelled, if_pos hcancelled]
    exact .same ⟨rfl, rfl⟩ rfl
  · refine (h shell).handedOn (f := fun z => race races t (fun _ _ => z) shell) (fun z => ?_)
      fun ended => ?_
    · exact (ending_race races t _ shell).trans (if_neg hcancelled)
    · exact if_neg hcancelled

lemma bars_report (outcome : Except Failure Unit) :
    Bars (report outcome : Run S Unit) (report outcome) := by
  match outcome with
  | .ok () => exact bars_pure ()
  | .error .cancelled => exact bars_output _
  | .error (.system _) | .error (.malformed _) | .error (.command _) | .error (.other _) =>
    exact bars_output _

lemma bars_executeCommand (h : engine.Bars engine') (races : List Token) (t : Token)
    (command : Command S) (line : Line) :
    Bars (executeCommand engine races t command line)
      (executeCommand engine' races t command line) := by
  refine bars_get_bind fun shell => ?_
  refine Bars.bind (bars_modify (fun _ => rfl) (fun _ => rfl) fun _ => rfl) fun _ => ?_
  refine (bars_race races _ (bars_program h _ _)).bind fun outcome => ?_
  refine Bars.bind (bars_modify (fun _ => rfl) (fun _ => rfl) fun _ => rfl) fun _ => ?_
  exact bars_report outcome

/-- The induction is on the commands that are left to ask. -/
lemma bars_dispatch (h : engine.Bars engine') (app : Application S) (races : List Token) (t : Token)
    (line : Line) (commands : List S.Command) :
    Bars (dispatch app engine races t line commands)
      (dispatch app engine' races t line commands) := by
  induction commands with
  | nil => exact bars_output _
  | cons c commands ih =>
    refine (bars_program h races _).bind fun answer => ?_
    cases answer with
    | notMine => exact ih
    | invalid => exact bars_pure ()
    | valid => exact bars_executeCommand h races t _ line

lemma bars_signalReady (h : engine.Bars engine') (app : Application S) (races : List Token) :
    Bars (signalReady app engine races) (signalReady app engine' races) := by
  refine bars_get_bind fun shell => bars_ite _ (bars_pure ()) ?_
  refine Bars.bind (bars_modify (fun _ => rfl) (fun _ => rfl) fun _ => rfl) fun _ => ?_
  exact bars_program h races app.announce

lemma bars_takeLine (h : engine.Bars engine') (app : Application S) (races : List Token)
    (t : Token) : Bars (takeLine app engine races t) (takeLine app engine' races t) := by
  refine bars_get_bind fun shell => bars_ite _ (bars_pure ()) ?_
  refine Bars.bind (bars_modify (fun _ => rfl) (fun _ => rfl) fun _ => rfl) fun _ => ?_
  exact bars_get_bind fun shell => bars_dispatch h app races t _ _

lemma bars_concludeLine (h : engine.Bars engine') (app : Application S) (races : List Token) :
    Bars (concludeLine app engine races) (concludeLine app engine' races) := by
  refine bars_get_bind fun shell => bars_ite _ (bars_pure ()) ?_
  exact (bars_writeLine "").bind fun _ => bars_signalReady h app races

/-- The completion is forgotten first of all when a line is submitted, and nothing that is done then
brings another one. -/
lemma ending_submit (h : engine.Bars engine') (app : Application S) (races : List Token) (t : Token)
    (shell : Shell S) :
    shell.SameKeys (ending (submit app engine' races t shell)) ∧
      (ending (submit app engine' races t shell)).completion = none := by
  let rest (engine : Engine S) : Run S Unit := do
    writeLine ""
    takeLine app engine races t
    concludeLine app engine races
    onTerminal Terminal.resetInput
  let begun : Shell S := { shell with ready := false, completion := none }
  have hrest : Bars (rest engine) (rest engine') := by
    refine (bars_writeLine "").bind fun _ => ?_
    refine (bars_takeLine h app races t).bind fun _ => ?_
    refine (bars_concludeLine h app races).bind fun _ => ?_
    exact bars_onTerminal fun _ => rfl
  have hsubmit : submit app engine' races t shell = rest engine' begun := by
    rw [submit_eq]
    rfl
  obtain ⟨hsame, hnone⟩ := (hrest begun).of_none
  rw [hsubmit]
  exact ⟨⟨hsame.keys, hsame.queue⟩, hnone⟩

end Run

/-! ### The engine without submissions -/

namespace Engine

/-- The engine with so many levels, but those who submit a line wait for what never comes. -/
def withoutLines (app : Application S) : Nat → Engine S
  | 0 => ofLevels app 0
  | n + 1 => {
      submit := fun _ _ => throw .stuck
      signalReady := fun races => Run.signalReady app (withoutLines app n) races }

/-- The induction is on the levels that are left for what programs make run. -/
lemma bars_ofLevels (app : Application S) (n : Nat) :
    (withoutLines app n).Bars (ofLevels app n) := by
  induction n with
  | zero =>
    refine ⟨fun _ _ => Run.bars_throw _, fun races => ?_⟩
    exact Run.bars_get_bind fun shell => Run.bars_ite _ (Run.bars_throw _) (Run.bars_pure ())
  | succ n ih =>
    refine ⟨fun races t shell => ?_, fun races => Run.bars_signalReady ih app races⟩
    obtain ⟨hsame, hnone⟩ := Run.ending_submit ih app races t shell
    exact .submitted hsame hnone

end Engine

end LineShell
