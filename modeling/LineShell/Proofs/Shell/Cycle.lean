import LineShell.Proofs.Cancellation.NewestScope
import LineShell.Proofs.Shell.Logged

/-!
# One line, one cycle

Commands may do whatever they like but submit lines. Whatever that is, submitting a line comes to
its end, unless the command that is run waits for what never comes: the line goes on record,
commands are asked in order until one takes it, that one is run once, an error is reported once, and
readiness is announced once, be it by the command, by the announcement itself or at the end
(`Run.submit_one_cycle`).
-/

namespace LineShell

variable {S : Signature} {α β : Type}

/-! ### What programs do -/

namespace Effect

/-- The effect gives no way and submits no line. -/
def IsDirect : Effect S → Prop
  | .submit _ | .interrupt | .pause | .await _ | .hang => False
  | _ => True

/-- The effect submits no line. -/
def IsOwn : Effect S → Prop
  | .submit _ => False
  | _ => True

/-- The effect does not wait for anything. -/
def IsPrompt : Effect S → Prop
  | .await _ | .hang => False
  | _ => True

end Effect

/-- All effects of the program are of a kind. -/
def Program.Only (kind : Effect S → Prop) : Program S α → Prop
  | .done _ => True
  | .fail _ => True
  | .look next => ∀ shell, (next shell).Only kind
  | .act e next => kind e ∧ next.Only kind

/-- None of some commands submits lines. What they say about lines, and what is done when the shell
is ready, is done at once and does not fail. -/
structure Application.IsOrderly (app : Application S) (commands : List S.Command) : Prop where
  canHandle : ∀ c ∈ commands, ∀ line, ((app.command c).canHandle line).Only Effect.IsDirect
  canHandle_succeeds : ∀ c ∈ commands, ∀ line, ((app.command c).canHandle line).Succeeds
  execute : ∀ c ∈ commands, ∀ line t, ((app.command c).execute line t).Only Effect.IsOwn
  announce : app.announce.Only Effect.IsDirect
  announce_succeeds : app.announce.Succeeds

/-- What is said about how a command ended. -/
def reports : Except Failure Unit → List (Entry S)
  | .ok () => []
  | .error .cancelled => [.reported Run.commandCancelled]
  | .error f => [.reported (Run.errorReport f)]

/-- What the shell does about a line that is offered to commands. They are asked in order, and none
after the first one that takes the line. That one is run once if it can run the line and the token
is not cancelled to begin with, and an error is reported once. -/
inductive Offered : List S.Command → List (Entry S) → Prop
  /-- Nobody takes the line. -/
  | nobody : Offered [] [.reported Run.noMatchingCommand]
  /-- The line is not for the first command. -/
  | passedOn {c commands entries cancelled} (h : Offered commands entries) :
    Offered (c :: commands) (.asked c .notMine cancelled :: entries)
  /-- The line is for the first command but cannot be run. -/
  | rejected {c commands cancelled} : Offered (c :: commands) [.asked c .invalid cancelled]
  /-- The first command would run the line, but the token is cancelled. -/
  | late {c commands} :
    Offered (c :: commands)
      (.asked c .valid true :: .ended (.error .cancelled) :: reports (.error .cancelled))
  /-- The first command runs the line and ends in some way. -/
  | run {c commands} (outcome : Except Failure Unit) :
    Offered (c :: commands)
      (.asked c .valid false :: .executed c :: .ended outcome :: reports outcome)

/-- Whether the entry is about readiness. -/
def Entry.isAnnounced : Entry S → Bool
  | .announced => true
  | _ => false

/-! ### How runs end -/

/-- A run keeps a property. It ends with a result, or with a failure, or because it lost a race, or
waiting for what never comes. -/
inductive EndsIn {σ : Type} (I : σ → Prop) (races : List Token) (waits : Prop) :
    EStateM.Result Halt σ α → Prop
  | ok (a : α) {s : σ} (h : I s) : EndsIn I races waits (.ok a s)
  | failure (f : Failure) {s : σ} (h : I s) : EndsIn I races waits (.error (.failure f) s)
  | aborted {t : Token} (ht : t ∈ races) {s : σ} (h : I s) :
    EndsIn I races waits (.error (.aborted t) s)
  | stuck (hwaits : waits) {s : σ} (h : I s) : EndsIn I races waits (.error .stuck s)

section EndsIn

variable {σ : Type} {I J : σ → Prop} {races : List Token} {waits waits' : Prop}

lemma EndsIn.imp {x : EStateM.Result Halt σ α} (h : EndsIn I races waits x) (hI : ∀ s, I s → J s)
    (hwaits : waits → waits') : EndsIn J races waits' x := by
  cases h with
  | ok a h => exact .ok a (hI _ h)
  | failure f h => exact .failure f (hI _ h)
  | aborted ht h => exact .aborted ht (hI _ h)
  | stuck hw h => exact .stuck (hwaits hw) (hI _ h)

lemma EndsIn.bind {r : EStateM Halt σ α} {f : α → EStateM Halt σ β} {s : σ}
    (h : EndsIn I races waits (r s)) (hf : ∀ a s, I s → EndsIn J races waits (f a s))
    (hI : ∀ s, I s → J s) : EndsIn J races waits ((r >>= f) s) := by
  show EndsIn J races waits (EStateM.bind r f s)
  rw [EStateM.bind]
  generalize r s = x at h
  cases h with
  | ok a h => exact hf a _ h
  | failure f h => exact .failure f (hI _ h)
  | aborted ht h => exact .aborted ht (hI _ h)
  | stuck hw h => exact .stuck hw (hI _ h)

end EndsIn

/-! ### Effects -/

namespace Shell

/-- The console refuses nothing, no completion is in progress, the token was made, and readiness is
as it is. -/
structure Steady (t : Token) (ready : Bool) (shell : Shell S) : Prop where
  refusals : shell.console.refusals = []
  completion : shell.completion = none
  sound : shell.breaks.tokens.Sound
  made : t < shell.breaks.tokens.next
  ready_eq : shell.ready = ready

variable {t : Token} {ready : Bool} {shell : Shell S}

lemma Steady.display (h : shell.Steady t ready) (os : List Output) (record : List Output) :
    ((shell.display os).withRecord record).Steady t ready :=
  ⟨(Console.refusals_display _ _).trans h.refusals, h.completion, h.sound, h.made, h.ready_eq⟩

lemma Steady.edited (h : shell.Steady t ready) (edit : Edit) (record : List Output) :
    ((shell.edited edit).withRecord record).Steady t ready :=
  ⟨(refusals_edited shell edit).trans h.refusals, h.completion, h.sound, h.made, h.ready_eq⟩

lemma Steady.pressBreak (h : shell.Steady t ready) : shell.pressBreak.2.Steady t ready :=
  ⟨h.refusals, h.completion, BreakScope.sound_trigger h.sound,
    (BreakScope.next_trigger _).symm ▸ h.made, h.ready_eq⟩

lemma Steady.withInterrupted (h : shell.Steady t ready) (interrupted : Bool) :
    ({ shell with interrupted } : Shell S).Steady t ready :=
  ⟨h.refusals, h.completion, h.sound, h.made, h.ready_eq⟩

end Shell

namespace Run

variable {engine : Engine S} {races : List Token} {t : Token} {ready : Bool} {shell : Shell S}

lemma output_steady (h : shell.Steady t ready) (o : Output) :
    ∃ shell', output o shell = .ok () shell' ∧ shell'.Steady t ready :=
  ⟨_, output_eq h.refusals o, h.display _ _⟩

lemma writeLine_steady (h : shell.Steady t ready) :
    ∃ shell', writeLine "" shell = .ok () shell' ∧ shell'.Steady t ready ∧
      shell'.editor = shell.editor ∧ shell'.commands = shell.commands := by
  have htext := output_eq h.refusals (.text "")
  have hend := h.display [.text ""] (.text "" :: shell.console.record)
  refine ⟨_, (bind_of_ok htext _).trans (output_eq hend.refusals (.text "\n")), hend.display _ _,
    rfl, rfl⟩

/-- A direct effect does not fail. -/
lemma effect_steady {e : Effect S} (he : e.IsDirect) (hsignal : e ≠ .signalReady)
    (h : shell.Steady t ready) (engine : Engine S) (races : List Token) :
    ∃ shell', effect engine races e shell = .ok () shell' ∧ shell'.Steady t ready := by
  cases e with
  | output o => exact output_steady h o
  | setInput text => exact ⟨_, edit_eq h.refusals (.setInput text), h.edited _ _⟩
  | pressBreak => exact ⟨_, rfl, h.pressBreak⟩
  | record | forgetHistory | requestExit | register | setState =>
    exact ⟨_, rfl, h.refusals, h.completion, h.sound, h.made, h.ready_eq⟩
  | signalReady => exact absurd rfl hsignal
  | submit | interrupt | pause | await | hang => exact he.elim

/-- To give way does to the shell at most what an interrupt does. -/
lemma giveWay_endsIn {I : Shell S → Prop} {waits : Prop}
    (hinterrupt : ∀ shell, I shell → I { shell.pressBreak.2 with interrupted := false })
    (h : I shell) (races : List Token) : EndsIn I races waits (giveWay races shell) := by
  obtain ⟨noticed, hnotice, hnoticed⟩ : ∃ shell', noticeInterrupt shell = .ok () shell' ∧
      I shell' := by
    refine ⟨_, rfl, ?_⟩
    dsimp only
    split_ifs
    · exact hinterrupt shell h
    · exact h
  have hget : (get : Run S (Shell S)) noticed = .ok noticed noticed := rfl
  rw [giveWay, bind_of_ok hnotice, bind_of_ok hget]
  cases hfind : races.find? noticed.isCancelled with
  | none => exact .ok () hnoticed
  | some u => exact .aborted (List.mem_of_find?_eq_some hfind) hnoticed

lemma await_endsIn {I : Shell S → Prop} {waits : Prop} (hwaits : waits)
    (hinterrupt : ∀ shell, I shell → I { shell.pressBreak.2 with interrupted := false })
    (h : I shell) (races : List Token) (u : Token) :
    EndsIn I races waits (await races u shell) := by
  show EndsIn _ _ _ ((if shell.isCancelled u then pure () else _ : Run S Unit) shell)
  split_ifs
  · exact .ok () h
  · refine (giveWay_endsIn hinterrupt h races).bind (fun _ noticed hnoticed => ?_) fun _ h => h
    show EndsIn _ _ _
      ((if !noticed.isCancelled u then throw .stuck else pure () : Run S Unit) noticed)
    split_ifs
    · exact .stuck hwaits hnoticed
    · exact .ok () hnoticed

/-- The step lemma: whatever effect it is, unless a line is submitted. -/
lemma effect_endsIn {e : Effect S} (he : e.IsOwn) (hsignal : e ≠ .signalReady)
    (h : shell.Steady t ready) (engine : Engine S) (races : List Token) :
    EndsIn (Shell.Steady t ready) races (¬ e.IsPrompt) (effect engine races e shell) := by
  by_cases hdirect : e.IsDirect
  · obtain ⟨shell', hrun, h'⟩ := effect_steady hdirect hsignal h engine races
    rw [hrun]
    exact .ok () h'
  have hinterrupt : ∀ shell : Shell S, shell.Steady t ready →
      ({ shell.pressBreak.2 with interrupted := false } : Shell S).Steady t ready :=
    fun _ h => h.pressBreak.withInterrupted false
  cases e with
  | submit => exact he.elim
  | interrupt =>
    exact (giveWay_endsIn hinterrupt h races).bind
      (fun _ _ h => .ok () (h.withInterrupted true)) fun _ h => h
  | pause => exact giveWay_endsIn hinterrupt h races
  | await u => exact await_endsIn id hinterrupt h races u
  | hang =>
    exact (giveWay_endsIn hinterrupt h races).bind (fun _ _ h => .stuck id h) fun _ h => h
  | _ => exact absurd trivial hdirect

end Run

/-! ### Programs with a log -/

namespace Logged

/-- The shell goes on, readiness was announced once if it was signalled, and the other entries are
given. -/
structure Ongoing (t : Token) (entries : List (Entry S)) (state : Shell S × List (Entry S)) :
    Prop where
  steady : state.1.Steady t state.1.ready
  announced : state.2.countP Entry.isAnnounced = if state.1.ready then 1 else 0
  entries_eq : state.2.filter (!·.isAnnounced) = entries

variable {app : Application S} {registered : List S.Command}
  {signal : List Token → Logged S Unit} {engine : Engine S} {races : List Token} {t : Token}
  {entries : List (Entry S)} {state : Shell S × List (Entry S)}

lemma Ongoing.note (h : Ongoing t entries state) (entry : Entry S)
    (hentry : entry.isAnnounced = false) :
    Ongoing t (entries ++ [entry]) (state.1, state.2 ++ [entry]) := by
  refine ⟨h.steady, ?_, ?_⟩
  · rw [List.countP_append, h.announced, List.countP_singleton, hentry]
    rfl
  · rw [List.filter_append, h.entries_eq]
    simp [hentry]

/-- A shell that is as steady as before. -/
lemma Ongoing.of_steady (h : Ongoing t entries state) {shell : Shell S}
    (hshell : shell.Steady t state.1.ready) : Ongoing t entries (shell, state.2) := by
  refine ⟨?_, ?_, h.entries_eq⟩
  · dsimp only
    rw [hshell.ready_eq]
    exact hshell
  · dsimp only
    rw [hshell.ready_eq]
    exact h.announced

lemma bind_of_ok {r : Logged S α} {a : α} {state' : Shell S × List (Entry S)}
    (h : r state = .ok a state') (f : α → Logged S β) : (r >>= f) state = f a state' := by
  show EStateM.bind r f state = _
  rw [EStateM.bind, h]

lemma lift_of_ok {r : Run S α} {a : α} {shell : Shell S} (h : r state.1 = .ok a shell) :
    lift r state = .ok a (shell, state.2) := by
  obtain ⟨shell, log⟩ := state
  rw [lift]
  dsimp only at h ⊢
  rw [h]

lemma lift_endsIn {r : Run S α} {waits : Prop} (h : Ongoing t entries state)
    (hr : EndsIn (Shell.Steady t state.1.ready) races waits (r state.1)) :
    EndsIn (Ongoing t entries) races waits (lift r state) := by
  obtain ⟨shell, log⟩ := state
  rw [lift]
  dsimp only at hr ⊢
  generalize r shell = x at hr ⊢
  cases hr with
  | ok a hshell => exact .ok a (h.of_steady hshell)
  | failure f hshell => exact .failure f (h.of_steady hshell)
  | aborted hu hshell => exact .aborted hu (h.of_steady hshell)
  | stuck hwaits hshell => exact .stuck hwaits (h.of_steady hshell)

/-- What direct effects keep, direct programs that succeed keep, and they end with a result. -/
lemma program_ok {I : Shell S × List (Entry S) → Prop}
    (hI : ∀ e : Effect S, e.IsDirect → ∀ state, I state →
      ∃ state', effect signal engine races e state = .ok () state' ∧ I state')
    {p : Program S α} (hp : p.Only Effect.IsDirect) (hok : p.Succeeds) (h : I state) :
    ∃ a state', program signal engine races p state = .ok a state' ∧ I state' := by
  induction p generalizing state with
  | done a => exact ⟨a, state, rfl, h⟩
  | fail f => exact hok.elim
  | look next ih => exact ih state.1 (hp _) (hok _) h
  | act e next ih =>
    obtain ⟨middle, heffect, hmiddle⟩ := hI e hp.1 state h
    obtain ⟨a, state', hrun, h'⟩ := ih hp.2 hok hmiddle
    exact ⟨a, state', (bind_of_ok heffect _).trans hrun, h'⟩

/-- A direct effect does not fail, if to signal readiness does not. -/
lemma effect_ok {P : Bool → Prop}
    (hsignal : ∀ ⦃state⦄, Ongoing t entries state → P state.1.ready →
      ∃ state', signal races state = .ok () state' ∧ Ongoing t entries state' ∧ P state'.1.ready)
    (e : Effect S) (he : e.IsDirect) (state : Shell S × List (Entry S))
    (h : Ongoing t entries state ∧ P state.1.ready) :
    ∃ state', effect signal engine races e state = .ok () state' ∧ Ongoing t entries state' ∧
      P state'.1.ready := by
  by_cases hready : e = .signalReady
  · rw [hready]
    exact hsignal h.1 h.2
  · obtain ⟨shell, hrun, hshell⟩ := Run.effect_steady he hready h.1.steady engine races
    rw [effect_of_ne hready]
    exact ⟨_, lift_of_ok hrun, h.1.of_steady hshell, hshell.ready_eq.symm ▸ h.2⟩

/-- What effects keep, programs keep. -/
lemma program_endsIn {I : Shell S × List (Entry S) → Prop}
    (hI : ∀ e : Effect S, e.IsOwn → ∀ state, I state →
      EndsIn I races (¬ e.IsPrompt) (effect signal engine races e state))
    {p : Program S α} (hp : p.Only Effect.IsOwn) (h : I state) :
    EndsIn I races (¬ p.Only Effect.IsPrompt) (program signal engine races p state) := by
  induction p generalizing state with
  | done a => exact .ok a h
  | fail f => exact .failure f h
  | look next ih =>
    exact (ih state.1 (hp _) h).imp (fun _ h => h) fun hwaits hall => hwaits (hall _)
  | act e next ih =>
    refine EndsIn.bind ((hI e hp.1 state h).imp (fun _ h => h) fun hwaits hall => hwaits hall.1)
      (fun _ state h => ?_) fun _ h => h
    exact (ih hp.2 h).imp (fun _ h => h) fun hwaits hall => hwaits hall.2

/-! ### Readiness -/

/-- Readiness is signalled, and announced unless that was done before. -/
def Signals (signal : List Token → Logged S Unit) : Prop :=
  ∀ races ⦃t entries state⦄, Ongoing t entries state →
    ∃ state', signal races state = .ok () state' ∧ Ongoing t entries state' ∧
      state'.1.ready = true

/-- Where readiness was signalled, to signal it does nothing. -/
def IsIdle (signal : List Token → Logged S Unit) : Prop :=
  ∀ races ⦃state⦄, state.1.ready = true → signal races state = .ok () state

lemma isIdle_signalReady (app : Application S) (signal : List Token → Logged S Unit)
    (engine : Engine S) : IsIdle (signalReady app signal engine) := by
  intro races state h
  show (if state.1.ready then pure () else _ : Logged S Unit) state = _
  rw [if_pos h]
  rfl

lemma isIdle_signalAt (app : Application S) (n : Nat) : IsIdle (signalAt app n) := by
  cases n with
  | zero =>
    intro races state h
    apply lift_of_ok
    show (if !state.1.ready then throw .stuck else pure () : Run S Unit) state.1 = _
    rw [h]
    rfl
  | succ n => exact isIdle_signalReady app _ _

/-- The announcement may signal readiness in its turn, which does nothing then. -/
lemma signals_signalReady (happ : app.IsOrderly registered) (hidle : IsIdle signal)
    (engine : Engine S) : Signals (signalReady app signal engine) := by
  intro races t entries state h
  by_cases hready : state.1.ready = true
  · exact ⟨state, isIdle_signalReady app signal engine races hready, h, hready⟩
  let begun : Shell S × List (Entry S) :=
    ({ state.1 with ready := true }, state.2 ++ [.announced])
  have hbegun : Ongoing t entries begun := by
    refine ⟨⟨h.steady.refusals, h.steady.completion, h.steady.sound, h.steady.made, rfl⟩, ?_, ?_⟩
    · rw [List.countP_append, h.announced, if_neg hready]
      rfl
    · rw [List.filter_append, h.entries_eq]
      exact List.append_nil entries
  have hagain : ∀ ⦃state⦄, Ongoing t entries state → state.1.ready = true →
      ∃ state', signal races state = .ok () state' ∧ Ongoing t entries state' ∧
        state'.1.ready = true :=
    fun state h hready => ⟨state, hidle races hready, h, hready⟩
  obtain ⟨⟨⟩, state', hrun, h'⟩ :=
    program_ok (effect_ok (P := (· = true)) hagain) happ.announce happ.announce_succeeds
      ⟨hbegun, rfl⟩
  refine ⟨state', ?_, h'⟩
  show (if state.1.ready then pure () else _ : Logged S Unit) state = _
  rw [if_neg hready]
  exact hrun

lemma signals_signalAt (happ : app.IsOrderly registered) (n : Nat) :
    Signals (signalAt app (n + 1)) :=
  signals_signalReady happ (isIdle_signalAt app n) _

/-! ### Commands -/

/-- A command that is asked answers. -/
lemma canHandle_ok (happ : app.IsOrderly registered) (hsignal : Signals signal)
    (h : Ongoing t entries state) (engine : Engine S) (races : List Token) {c : S.Command}
    (hc : c ∈ registered) (line : Line) :
    ∃ answer state', program signal engine races ((app.command c).canHandle line) state =
      .ok answer state' ∧ Ongoing t entries state' := by
  have hsignalled : ∀ ⦃state⦄, Ongoing t entries state → True →
      ∃ state', signal races state = .ok () state' ∧ Ongoing t entries state' ∧ True := by
    intro state h _
    obtain ⟨state', hrun, h', -⟩ := hsignal races h
    exact ⟨state', hrun, h', trivial⟩
  obtain ⟨answer, state', hrun, h', -⟩ := program_ok (effect_ok (P := fun _ => True) hsignalled)
    (happ.canHandle c hc line) (happ.canHandle_succeeds c hc line) ⟨h, trivial⟩
  exact ⟨answer, state', hrun, h'⟩

lemma execute_endsIn (happ : app.IsOrderly registered) (hsignal : Signals signal)
    (h : Ongoing t entries state) (engine : Engine S) (races : List Token) {c : S.Command}
    (hc : c ∈ registered) (line : Line) (child : Token) :
    EndsIn (Ongoing t entries) races (¬ ((app.command c).execute line child).Only Effect.IsPrompt)
      (program signal engine races ((app.command c).execute line child) state) := by
  refine program_endsIn (fun e he state h => ?_) (happ.execute c hc line child) h
  by_cases hready : e = .signalReady
  · obtain ⟨state', hrun, h', -⟩ := hsignal races h
    rw [hready, show effect signal engine races .signalReady state = _ from hrun]
    exact .ok () h'
  · rw [effect_of_ne hready]
    exact lift_endsIn h (Run.effect_endsIn he hready h.steady engine races)

lemma errorLine_ok (h : Ongoing t entries state) (text : String) :
    ∃ state', errorLine text state = .ok () state' ∧
      Ongoing t (entries ++ [.reported text]) state' := by
  have hnoted := h.note (.reported text) rfl
  obtain ⟨shell, hrun, hshell⟩ := Run.output_steady hnoted.steady (.errorLine text)
  exact ⟨_, lift_of_ok hrun, hnoted.of_steady hshell⟩

lemma report_ok (h : Ongoing t entries state) (outcome : Except Failure Unit) :
    ∃ state', report outcome state = .ok () state' ∧
      Ongoing t (entries ++ reports outcome) state' := by
  match outcome with
  | .ok () => exact ⟨state, rfl, (List.append_nil entries).symm ▸ h⟩
  | .error .cancelled => exact errorLine_ok h _
  | .error (.system _) | .error (.malformed _) | .error (.command _) | .error (.other _) =>
    exact errorLine_ok h _

/-- How offering a line to commands ends, with some entries before. -/
inductive OffersTo (app : Application S) (line : Line) (t : Token) (commands : List S.Command)
    (entries : List (Entry S)) : EStateM.Result Halt (Shell S × List (Entry S)) Unit → Prop
  /-- It comes to its end. -/
  | ok {more state} (hoffered : Offered commands more)
    (hstate : Ongoing t (entries ++ more) state) :
    OffersTo app line t commands entries (.ok () state)
  /-- The command that is run waits for what never comes. -/
  | waits (before) {c child state}
    (hoffered : ∀ outcome,
      Offered commands (before ++ .executed c :: .ended outcome :: reports outcome))
    (hwaits : ¬ ((app.command c).execute line child).Only Effect.IsPrompt)
    (hstate : Ongoing t (entries ++ (before ++ [.executed c])) state) :
    OffersTo app line t commands entries (.error .stuck state)

lemma OffersTo.passedOn {line : Line} {commands : List S.Command} {c : S.Command} {late : Bool}
    {x : EStateM.Result Halt (Shell S × List (Entry S)) Unit}
    (h : OffersTo app line t commands (entries ++ [.asked c .notMine late]) x) :
    OffersTo app line t (c :: commands) entries x := by
  cases h with
  | ok hoffered hstate =>
    rw [List.append_assoc] at hstate
    exact .ok hoffered.passedOn hstate
  | @waits before c child state hoffered hwaits hstate =>
    rw [List.append_assoc] at hstate
    exact .waits (.asked _ .notMine late :: before)
      (fun outcome => (hoffered outcome).passedOn) hwaits hstate

lemma endCommand_ok (h : Ongoing t entries state) (child : Token) (outcome : Except Failure Unit) :
    ∃ state', endCommand child outcome state = .ok () state' ∧
      Ongoing t (entries ++ .ended outcome :: reports outcome) state' := by
  have hnoted := h.note (.ended outcome) rfl
  have hsteady := hnoted.steady
  have hreleased : ({ state.1 with breaks :=
      { state.1.breaks with tokens := state.1.breaks.tokens.release child } } : Shell S).Steady t
        state.1.ready :=
    ⟨hsteady.refusals, hsteady.completion, hsteady.sound.release child, hsteady.made, rfl⟩
  obtain ⟨state', hrun, h'⟩ := report_ok (hnoted.of_steady hreleased) outcome
  rw [List.append_assoc] at h'
  exact ⟨state', hrun, h'⟩

/-- A command is run unless its token is cancelled to begin with. It may wait for what never comes.
-/
lemma runCommand_ends (happ : app.IsOrderly registered) (hsignal : Signals signal)
    (h : Ongoing t entries state) (engine : Engine S) {c : S.Command} (hc : c ∈ registered)
    (line : Line) {child : Token} (hchild : state.1.isCancelled child = false) :
    (∃ outcome state', runCommand app signal engine [] c line child state = .ok outcome state' ∧
      Ongoing t (entries ++ [.executed c]) state') ∨
    ∃ state', runCommand app signal engine [] c line child state = .error .stuck state' ∧
      Ongoing t (entries ++ [.executed c]) state' ∧
        ¬ ((app.command c).execute line child).Only Effect.IsPrompt := by
  have hends := execute_endsIn happ hsignal (h.note (.executed c) rfl) engine [child] hc line child
  have hbody : (do
      note (.executed c)
      program signal engine ([] ++ [child]) ((app.command c).execute line child)) state =
        program signal engine [child] ((app.command c).execute line child)
          (state.1, state.2 ++ [.executed c]) := rfl
  obtain ⟨shell, log⟩ := state
  rw [runCommand, race, if_neg (Bool.eq_false_iff.mp hchild), hbody]
  generalize program signal engine [child] _ _ = x at hends ⊢
  cases hends with
  | ok _ h' => exact .inl ⟨_, _, rfl, h'⟩
  | failure f h' => exact .inl ⟨_, _, rfl, h'⟩
  | aborted hu h' => exact .inl ⟨_, _, if_pos (List.mem_singleton.mp hu), h'⟩
  | stuck hwaits h' => exact .inr ⟨_, rfl, h', hwaits⟩

lemma executeCommand_offersTo (happ : app.IsOrderly registered) (hsignal : Signals signal)
    (engine : Engine S) {c : S.Command} (hc : c ∈ registered) (line : Line)
    (commands : List S.Command) {late : Bool} (hlate : state.1.isCancelled t = late)
    (h : Ongoing t (entries ++ [.asked c .valid late]) state) :
    OffersTo app line t (c :: commands) entries
      (executeCommand app signal engine [] t c line state) := by
  have hsteady := h.steady
  let child := (state.1.breaks.tokens.derive t).1
  let derived : Shell S := { state.1 with breaks :=
    { state.1.breaks with tokens := (state.1.breaks.tokens.derive t).2 } }
  have hexecute : executeCommand app signal engine [] t c line state =
      (runCommand app signal engine [] c line child >>= endCommand child) (derived, state.2) := rfl
  have hderived : derived.Steady t state.1.ready := by
    refine ⟨hsteady.refusals, hsteady.completion, hsteady.sound.derive hsteady.made, ?_, rfl⟩
    show t < (state.1.breaks.tokens.derive t).2.next
    rw [Tokens.derive_eq hsteady.sound hsteady.made]
    exact Nat.lt_succ_of_lt hsteady.made
  -- the token of the command is cancelled to begin with if the given one is
  have hchild : derived.isCancelled child = late :=
    (Tokens.isCancelled_derive hsteady.sound hsteady.made).trans hlate
  have hbegun := h.of_steady hderived
  rw [hexecute]
  cases late with
  | true =>
    have hrun : runCommand app signal engine [] c line child (derived, state.2) =
        .ok (.error .cancelled) (derived, state.2) := if_pos hchild
    obtain ⟨state', hend, h'⟩ := endCommand_ok hbegun child (.error .cancelled)
    rw [bind_of_ok hrun, hend]
    rw [List.append_assoc] at h'
    exact .ok .late h'
  | false =>
    rcases runCommand_ends happ hsignal hbegun engine hc line hchild with
      ⟨outcome, middle, hrun, hmiddle⟩ | ⟨state', hrun, h', hwaits⟩
    · obtain ⟨state', hend, h'⟩ := endCommand_ok hmiddle child outcome
      rw [bind_of_ok hrun, hend]
      rw [List.append_assoc, List.append_assoc] at h'
      exact .ok (.run outcome) h'
    · have hstuck : (runCommand app signal engine [] c line child >>= endCommand child)
          (derived, state.2) = .error .stuck state' := by
        show EStateM.bind _ _ _ = _
        rw [EStateM.bind, hrun]
      rw [hstuck]
      rw [List.append_assoc] at h'
      exact .waits [.asked c .valid false] (fun outcome => .run outcome) hwaits h'

/-- The induction is on the commands that are left to ask. -/
lemma dispatch_offersTo (happ : app.IsOrderly registered) (hsignal : Signals signal)
    (engine : Engine S) (line : Line) {commands : List S.Command}
    (hcommands : commands ⊆ registered) (h : Ongoing t entries state) :
    OffersTo app line t commands entries
      (dispatch app signal engine [] t line commands state) := by
  induction commands generalizing entries state with
  | nil =>
    obtain ⟨state', hrun, h'⟩ := errorLine_ok h Run.noMatchingCommand
    rw [dispatch, hrun]
    exact .ok .nobody h'
  | cons c commands ih =>
    obtain ⟨hc, hcommands⟩ := List.cons_subset.mp hcommands
    obtain ⟨answer, asked, hrun, hasked⟩ := canHandle_ok happ hsignal h engine [] hc line
    have hnoted := hasked.note (.asked c answer (asked.1.isCancelled t)) rfl
    rw [dispatch, bind_of_ok hrun]
    cases answer with
    | notMine => exact (ih hcommands hnoted).passedOn
    | invalid => exact .ok .rejected hnoted
    | valid => exact executeCommand_offersTo happ hsignal engine hc line commands (by rfl) hnoted

/-! ### The line -/

lemma takeLine_blank (app : Application S) (hblank : Text.allBlank state.1.editor.text = true)
    (engine : Engine S) : takeLine app signal engine [] t state = .ok () state := by
  show (if Text.allBlank state.1.editor.text then pure () else _ : Logged S Unit) state = _
  rw [if_pos hblank]
  rfl

lemma takeLine_offersTo (happ : app.IsOrderly state.1.commands) (hsignal : Signals signal)
    (h : Ongoing t [] state) (hblank : Text.allBlank state.1.editor.text = false)
    (engine : Engine S) :
    OffersTo app (.parse state.1.editor.text state.1.editor.text.length) t state.1.commands
      [.recorded state.1.editor.text] (takeLine app signal engine [] t state) := by
  let text := state.1.editor.text
  let recorded : Shell S := { state.1 with history := state.1.history.add text }
  have hsteady := h.steady
  have hrecorded : recorded.Steady t state.1.ready :=
    ⟨hsteady.refusals, hsteady.completion, hsteady.sound, hsteady.made, rfl⟩
  have hnoted := (h.of_steady hrecorded).note (.recorded text) rfl
  show OffersTo _ _ _ _ _ ((if Text.allBlank text then pure () else _ : Logged S Unit) state)
  rw [if_neg (Bool.eq_false_iff.mp hblank)]
  exact dispatch_offersTo happ hsignal engine _ (List.Subset.refl _) hnoted

lemma concludeLine_ok (happ : app.IsOrderly registered) (hidle : IsIdle signal)
    (h : Ongoing t entries state) (engine : Engine S) :
    ∃ state', concludeLine app signal engine [] state = .ok () state' ∧ Ongoing t entries state' ∧
      state'.1.ready = true := by
  by_cases hready : state.1.ready = true
  · refine ⟨state, ?_, h, hready⟩
    show (if state.1.ready then pure () else _ : Logged S Unit) state = _
    rw [if_pos hready]
    rfl
  · obtain ⟨ended, hend, hended, -⟩ := Run.writeLine_steady h.steady
    obtain ⟨state', hrun, h'⟩ :=
      signals_signalReady happ hidle engine [] (h.of_steady hended)
    refine ⟨state', ?_, h'⟩
    show (if state.1.ready then pure () else _ : Logged S Unit) state = _
    rw [if_neg hready, bind_of_ok (lift_of_ok hend)]
    exact hrun

/-- The end of a line that was taken. -/
lemma cycle_of_takeLine {taken : Shell S × List (Entry S)} (happ : app.IsOrderly registered)
    (hidle : IsIdle signal) (htake : takeLine app signal engine [] t state = .ok () taken)
    (h : Ongoing t entries taken) :
    ∃ state', cycle app signal engine [] t state = .ok () state' ∧
      state'.2.filter (!·.isAnnounced) = entries ∧ state'.2.countP Entry.isAnnounced = 1 ∧
      state'.1.ready = true ∧ state'.1.editor.buffer = [] ∧ state'.1.editor.caret = 0 ∧
      state'.1.completion = none := by
  obtain ⟨concluded, hrun, hconcluded, hready⟩ := concludeLine_ok happ hidle h engine
  refine ⟨(concluded.1.emptied, concluded.2), ?_, hconcluded.entries_eq, ?_, hready, rfl, rfl,
    hconcluded.steady.completion⟩
  · rw [cycle, bind_of_ok htake, bind_of_ok hrun]
    rfl
  · rw [hconcluded.announced, if_pos hready]

/-- What submitting a line comes to, for a shell with such commands and such a line. -/
inductive CycleEnds (app : Application S) (commands : List S.Command) (text : String) :
    EStateM.Result Halt (Shell S × List (Entry S)) Unit → Prop
  /-- It comes to its end. -/
  | ok {shell log}
    (hentries : if Text.allBlank text then log.filter (!·.isAnnounced) = []
      else ∃ entries, Offered commands entries ∧
        log.filter (!·.isAnnounced) = .recorded text :: entries)
    (hannounced : log.countP Entry.isAnnounced = 1) (hready : shell.ready = true)
    (hbuffer : shell.editor.buffer = []) (hcaret : shell.editor.caret = 0)
    (hcompletion : shell.completion = none) : CycleEnds app commands text (.ok () (shell, log))
  /-- The command that is run waits for what never comes. -/
  | waits {shell log before c child}
    (hentries : log.filter (!·.isAnnounced) = .recorded text :: before ++ [.executed c])
    (hoffered : ∀ outcome,
      Offered commands (before ++ .executed c :: .ended outcome :: reports outcome))
    (hwaits : ¬ ((app.command c).execute (.parse text text.length) child).Only Effect.IsPrompt) :
    CycleEnds app commands text (.error .stuck (shell, log))

lemma cycle_ends (happ : app.IsOrderly state.1.commands) (hsignal : Signals signal)
    (hidle : IsIdle signal) (h : Ongoing t [] state) (engine : Engine S) :
    CycleEnds app state.1.commands state.1.editor.text (cycle app signal engine [] t state) := by
  cases hblank : Text.allBlank state.1.editor.text with
  | true =>
    obtain ⟨⟨shell, log⟩, hrun, hentries, hannounced, hready, hbuffer, hcaret, hcompletion⟩ :=
      cycle_of_takeLine happ hidle (takeLine_blank app hblank engine) h
    rw [hrun]
    exact .ok (by rwa [if_pos hblank]) hannounced hready hbuffer hcaret hcompletion
  | false =>
    have hoffers := takeLine_offersTo happ hsignal h hblank engine
    generalize htake : takeLine app signal engine [] t state = x at hoffers
    cases hoffers with
    | @ok entries taken hoffered htaken =>
      obtain ⟨⟨shell, log⟩, hrun, hentries, hannounced, hready, hbuffer, hcaret, hcompletion⟩ :=
        cycle_of_takeLine happ hidle htake htaken
      rw [hrun]
      refine .ok ?_ hannounced hready hbuffer hcaret hcompletion
      rw [if_neg (Bool.eq_false_iff.mp hblank)]
      exact ⟨entries, hoffered, hentries⟩
    | @waits before c child state' hoffered hwaits hstate =>
      have hstuck : cycle app signal engine [] t state = .error .stuck state' := by
        rw [cycle]
        show EStateM.bind _ _ _ = _
        rw [EStateM.bind, htake]
      rw [hstuck]
      exact .waits hstate.entries_eq hoffered hwaits

end Logged

namespace Run

variable {app : Application S} {shell : Shell S} {t : Token}

/-- Let commands do what they like but submit lines, and a console refuse nothing. Then to submit a
line comes to its end, unless the command that is run waits for what never comes. Unless the line is
blank, it goes on record first, and then the commands are asked in order until one of them takes it;
that one is run, once, if it can run the line and the token is not cancelled by then, and the shell
reports on it once if it fails, is cancelled or is not there. Readiness is announced once. In the
end the shell is ready, and the line is empty. -/
theorem submit_one_cycle (happ : app.IsOrderly shell.commands)
    (hrefusals : shell.console.refusals = []) (hsound : shell.breaks.tokens.Sound)
    (ht : t < shell.breaks.tokens.next) (n : Nat) :
    Logged.CycleEnds app shell.commands shell.editor.text
        (Logged.submit app (n + 1) [] t (shell, [])) ∧
      submit app (.ofLevels app (n + 1)) [] t shell =
        Logged.forget (Logged.submit app (n + 1) [] t (shell, [])) := by
  refine ⟨?_, (Logged.erases_submit app (n + 1) [] t shell []).symm⟩
  let begun : Shell S := { shell with ready := false, completion := none }
  have hbegun : begun.Steady t false := ⟨hrefusals, rfl, hsound, ht, rfl⟩
  obtain ⟨ended, hend, hended, heditor, hcommands⟩ := writeLine_steady hbegun
  have happ' : app.IsOrderly ended.commands := hcommands ▸ happ
  have hongoing : Logged.Ongoing t [] (ended, []) := by
    refine ⟨hended.ready_eq.symm ▸ hended, ?_, rfl⟩
    rw [hended.ready_eq]
    rfl
  have hsubmit : Logged.submit app (n + 1) [] t (shell, []) =
      Logged.cycle app (Logged.signalAt app (n + 1)) (.ofLevels app (n + 1)) [] t (ended, []) :=
    Logged.bind_of_ok (show Logged.lift _ (begun, []) = _ from Logged.lift_of_ok hend) _
  have hcycle := Logged.cycle_ends happ' (Logged.signals_signalAt happ n)
    (Logged.isIdle_signalAt app (n + 1)) hongoing (.ofLevels app (n + 1))
  dsimp only at hcycle
  rw [heditor, hcommands] at hcycle
  rw [hsubmit]
  exact hcycle

/-- The second one of three commands takes the line, signals readiness by itself, and fails. -/
theorem submit_one_cycle_signalled :
    let app : Application ⟨Bool, Empty, Unit⟩ := {
      command takes := {
        name := "", grammar := none
        canHandle _ := .done (if takes then .valid else .notMine)
        execute _ _ := .act .signalReady (.act (.output (.text "late")) (.fail (.other "broken")))
        suggest _ _ := [], summary _ := none, details _ _ := none }
      handle h := h.elim }
    let shell : Shell ⟨Bool, Empty, Unit⟩ := {
      state := (), history := .inMemory 5, commands := [false, true, true]
      terminal := { editor := { buffer := ['x'] } }
      breaks := { tokens := (Tokens.create {} none).2 } }
    app.IsOrderly shell.commands ∧ shell.console.refusals = [] ∧ shell.breaks.tokens.Sound ∧
      0 < shell.breaks.tokens.next ∧ ∃ shell' log entries,
        Logged.submit app 1 [] 0 (shell, []) = .ok () (shell', log) ∧
        submit app (.ofLevels app 1) [] 0 shell = .ok () shell' ∧
        Offered shell.commands entries ∧ log.filter (!·.isAnnounced) = .recorded "x" :: entries ∧
        log.countP Entry.isAnnounced = 1 ∧ shell'.ready = true := by
  intro app shell
  have happ : app.IsOrderly shell.commands :=
    ⟨fun _ _ _ => trivial, fun _ _ _ => trivial, fun _ _ _ _ => ⟨trivial, trivial, trivial⟩,
      fun _ => ⟨trivial, trivial⟩, fun _ => trivial⟩
  have hprompt : ∀ c line child, ((app.command c).execute line child).Only Effect.IsPrompt :=
    fun _ _ _ => ⟨trivial, trivial, trivial⟩
  have hsound : shell.breaks.tokens.Sound :=
    Tokens.sound_empty.cons rfl nofun
  have hmade : 0 < shell.breaks.tokens.next := by decide
  obtain ⟨hends, hsubmit⟩ :=
    submit_one_cycle happ (rfl : shell.console.refusals = []) hsound hmade 0
  refine ⟨happ, rfl, hsound, hmade, ?_⟩
  rw [hsubmit]
  generalize Logged.submit app 1 [] 0 (shell, []) = x at hends
  cases hends with
  | @ok shell' log hentries hannounced hready =>
    have hline : ¬ Text.allBlank shell.editor.text = true := by decide
    rw [if_neg hline] at hentries
    obtain ⟨entries, hoffered, hentries⟩ := hentries
    exact ⟨shell', log, entries, rfl, rfl, hoffered, hentries, hannounced, hready⟩
  | waits _ _ hwaits => exact absurd (hprompt _ _ _) hwaits

end Run

end LineShell
