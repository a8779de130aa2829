import LineShell.Proofs.Shell.ByGrammar

/-!
# Failures of commands

On a console that refuses nothing, to submit a line comes to a ready shell with an empty line,
whatever a command does while it is run: commands may fail, submit lines, cancel tokens and register
other commands. What a command fails with is caught by the race that it is run in. The race does not
begin until a command has taken the line, though. If a command fails when it is asked whether the
line is for it, that failure is the one of the submission, and neither is readiness signalled nor
the line forgotten (`Run.submit_contained`).
-/

namespace LineShell

variable {S : Signature} {α β : Type}

/-- What some commands say about lines, and what is done when the shell is ready, is done at once.
The latter does not fail. -/
structure Application.IsSynchronous (app : Application S) (commands : List S.Command) : Prop where
  canHandle : ∀ c ∈ commands, ∀ line, ((app.command c).canHandle line).Only Effect.IsDirect
  announce : app.announce.Only Effect.IsDirect
  announce_succeeds : app.announce.Succeeds

/-! ### Asking and answering -/

/-- What the commands that were asked about a line leave to be done. -/
inductive Verdict (S : Signature)
  /-- Nothing: the line is blank, or it is for a command that cannot run it. -/
  | settled
  /-- No command takes the line. -/
  | unclaimed
  /-- A command will run the line. -/
  | accepted (c : S.Command) (line : Line)

namespace Run

/-- Asks commands whether a line is for them, one after the other, until one of them takes it. -/
def ask (app : Application S) (engine : Engine S) (races : List Token) (line : Line) :
    List S.Command → Run S (Verdict S)
  | [] => return .unclaimed
  | c :: commands => do
    match ← program engine races ((app.command c).canHandle line) with
    | .notMine => ask app engine races line commands
    | .invalid => return .settled
    | .valid => return .accepted c line

/-- The first part of submitting a line: ends and records it, and asks the commands about it, unless
it is blank. -/
def hear (app : Application S) (engine : Engine S) (races : List Token) : Run S (Verdict S) := do
  modify fun shell => { shell with ready := false, completion := none }
  writeLine ""
  let text := (← get).editor.text
  if Text.allBlank text then return .settled
  modify fun shell => { shell with history := shell.history.add text }
  ask app engine races (Line.parse text text.length) (← get).commands

/-- Does what is left to be done about a line. -/
def carryOut (app : Application S) (engine : Engine S) (races : List Token) (t : Token) :
    Verdict S → Run S Unit
  | .settled => return
  | .unclaimed => output (.errorLine noMatchingCommand)
  | .accepted c line => executeCommand engine races t (app.command c) line

lemma dispatch_eq_ask (app : Application S) (engine : Engine S) (races : List Token) (t : Token)
    (line : Line) (commands : List S.Command) :
    dispatch app engine races t line commands =
      ask app engine races line commands >>= carryOut app engine races t := by
  induction commands with
  | nil => rfl
  | cons c commands ih =>
    rw [dispatch, ask, bind_assoc]
    congr 1
    funext answer
    cases answer with
    | notMine => exact ih
    | invalid => rfl
    | valid => rfl

/-- To submit a line is to hear the commands, to do what they leave to be done, and to end the
line. -/
lemma submit_eq_hear (app : Application S) (engine : Engine S) (races : List Token) (t : Token) :
    submit app engine races t = (do
      let verdict ← hear app engine races
      carryOut app engine races t verdict
      concludeLine app engine races
      onTerminal Terminal.resetInput) := by
  rw [submit_eq, hear]
  simp only [bind_assoc]
  congr 1
  funext _
  congr 1
  funext _
  simp only [takeLine, bind_assoc, dispatch_eq_ask]
  congr 1
  funext shell
  cases Text.allBlank shell.editor.text <;> simp [carryOut]

end Run

/-! ### Unless the shell is ready -/

namespace Run

lemma signalReady_apply (app : Application S) (engine : Engine S) (races : List Token)
    (shell : Shell S) :
    signalReady app engine races shell = if shell.ready then .ok () shell
      else program engine races app.announce { shell with ready := true } := by
  show (if shell.ready then pure () else _ : Run S Unit) shell = _
  split_ifs <;> rfl

lemma concludeLine_apply (app : Application S) (engine : Engine S) (races : List Token)
    (shell : Shell S) :
    concludeLine app engine races shell = if shell.ready then .ok () shell
      else (writeLine "" >>= fun _ => signalReady app engine races) shell := by
  show (if shell.ready then pure () else _ : Run S Unit) shell = _
  split_ifs <;> rfl

end Run

/-! ### Runs that do not fail -/

/-- A run keeps a property and does not fail. It ends with a result, or because it lost a race, or
waiting in a shell of some kind for what never comes. -/
inductive Holds (I : Shell S → Prop) (races : List Token) (waits : Shell S → Prop) :
    EStateM.Result Halt (Shell S) α → Prop
  | ok (a : α) {shell : Shell S} (h : I shell) : Holds I races waits (.ok a shell)
  | aborted {t : Token} (ht : t ∈ races) {shell : Shell S} (h : I shell) :
    Holds I races waits (.error (.aborted t) shell)
  | stuck {shell : Shell S} (hwaits : waits shell) (h : I shell) :
    Holds I races waits (.error .stuck shell)

section Holds

variable {I : Shell S → Prop} {races : List Token} {waits : Shell S → Prop} {shell : Shell S}

lemma Holds.endsIn {x : EStateM.Result Halt (Shell S) α} (h : Holds I races waits x) :
    EndsIn I races True x := by
  cases h with
  | ok a h => exact .ok a h
  | aborted ht h => exact .aborted ht h
  | stuck _ h => exact .stuck trivial h

lemma Holds.bind {r : Run S α} {k : α → Run S β} (h : Holds I races waits (r shell))
    (hk : ∀ a shell, I shell → Holds I races waits (k a shell)) :
    Holds I races waits ((r >>= k) shell) := by
  show Holds I races waits (EStateM.bind r k shell)
  rw [EStateM.bind]
  generalize r shell = x at h
  cases h with
  | ok a h => exact hk a _ h
  | aborted ht h => exact .aborted ht h
  | stuck hwaits h => exact .stuck hwaits h

/-- What is run in a race fails within it. -/
lemma Run.race_holds {t : Token} (body : List Token → Run S Unit) (h : I shell)
    (hbody : EndsIn I (races ++ [t]) True (body (races ++ [t]) shell)) :
    Holds I races (body (races ++ [t]) shell = .error .stuck ·) (race races t body shell) := by
  rw [race]
  split_ifs
  · exact .ok _ h
  generalize body (races ++ [t]) shell = x at hbody
  cases hbody with
  | ok a h => exact .ok _ h
  | failure f h => exact .ok _ h
  | @aborted u hu _ h =>
    dsimp only
    split_ifs with heq
    · exact .ok _ h
    · have hmem : u ∈ races := (List.mem_append.mp hu).resolve_right (by simpa using heq)
      exact .aborted hmem h
  | stuck _ h => exact .stuck rfl h

end Holds

/-! ### A console that goes on working -/

/-- The console refuses nothing. -/
def Shell.Works (shell : Shell S) : Prop :=
  shell.console.refusals = []

/-- Whatever the engine makes run leaves the console working. -/
structure Engine.KeepsWorking (engine : Engine S) : Prop where
  submit : ∀ races t shell, shell.Works →
    EndsIn Shell.Works races True (engine.submit races t shell)
  signalReady : ∀ races shell, shell.Works →
    EndsIn Shell.Works races True (engine.signalReady races shell)

namespace Run

variable {app : Application S} {engine : Engine S} {races : List Token} {t : Token} {line : Line}
  {shell : Shell S}

lemma output_works (h : shell.Works) (o : Output) :
    ∃ shell', output o shell = .ok () shell' ∧ shell'.Works ∧ shell'.ready = shell.ready :=
  ⟨_, output_eq h o, (Console.refusals_display _ _).trans h, rfl⟩

lemma writeLine_works (h : shell.Works) :
    ∃ shell', writeLine "" shell = .ok () shell' ∧ shell'.Works ∧
      shell'.editor = shell.editor ∧ shell'.commands = shell.commands := by
  have hfirst := output_eq h (.text "")
  have hmiddle : ((shell.display [.text ""]).withRecord
      (.text "" :: shell.console.record)).Works := (Console.refusals_display _ _).trans h
  exact ⟨_, (bind_of_ok hfirst _).trans (output_eq hmiddle (.text "\n")),
    (Console.refusals_display _ _).trans hmiddle, rfl, rfl⟩

/-- A direct effect does not fail, and leaves readiness as it is unless it is to signal it. -/
lemma effect_works {e : Effect S} (he : e.IsDirect) (hsignal : e ≠ .signalReady) (h : shell.Works)
    (engine : Engine S) (races : List Token) :
    ∃ shell', effect engine races e shell = .ok () shell' ∧ shell'.Works ∧
      shell'.ready = shell.ready := by
  cases e with
  | output o => exact output_works h o
  | setInput text =>
    have hrefusals : (shell.edited (.setInput text)).console.refusals = [] :=
      (Shell.refusals_edited shell (.setInput text)).trans h
    exact ⟨_, edit_eq h (.setInput text), hrefusals, rfl⟩
  | pressBreak | record | forgetHistory | requestExit | register | setState =>
    exact ⟨_, rfl, h, rfl⟩
  | signalReady => exact absurd rfl hsignal
  | submit | interrupt | pause | await | hang => exact he.elim

/-- The step lemma: any effect leaves the console working. -/
lemma effect_keepsWorking (hengine : engine.KeepsWorking) (e : Effect S) (h : shell.Works) :
    EndsIn Shell.Works races True (effect engine races e shell) := by
  have hinterrupt : ∀ shell : Shell S, shell.Works →
      Shell.Works { shell.pressBreak.2 with interrupted := false } := fun _ h => h
  by_cases hsignal : e = .signalReady
  · rw [hsignal]
    exact hengine.signalReady races shell h
  by_cases hdirect : e.IsDirect
  · obtain ⟨shell', hrun, h', -⟩ := effect_works hdirect hsignal h engine races
    rw [hrun]
    exact .ok () h'
  cases e with
  | submit t => exact hengine.submit races t shell h
  | interrupt => exact (giveWay_endsIn hinterrupt h races).bind (fun _ _ h => .ok () h) fun _ h => h
  | pause => exact giveWay_endsIn hinterrupt h races
  | await u => exact await_endsIn trivial hinterrupt h races u
  | hang =>
    exact (giveWay_endsIn hinterrupt h races).bind (fun _ _ h => .stuck trivial h) fun _ h => h
  | _ => exact absurd trivial hdirect

/-- The run lemma: any program leaves the console working. -/
lemma program_keepsWorking (hengine : engine.KeepsWorking) (races : List Token) (p : Program S α)
    (h : shell.Works) :
    EndsIn Shell.Works races True (program engine races p shell) := by
  induction p generalizing shell with
  | done a => exact .ok a h
  | fail f => exact .failure f h
  | look next ih => exact ih shell h
  | act e next ih =>
    exact (effect_keepsWorking hengine e h).bind (fun _ _ h => ih h) fun _ h => h

lemma report_works (outcome : Except Failure Unit) (h : shell.Works) :
    ∃ shell', report outcome shell = .ok () shell' ∧ shell'.Works := by
  have hline : ∀ text, ∃ shell', output (.errorLine text) shell = .ok () shell' ∧
      shell'.Works := by
    intro text
    obtain ⟨shell', hrun, h', -⟩ := output_works h (.errorLine text)
    exact ⟨shell', hrun, h'⟩
  match outcome with
  | .ok () => exact ⟨shell, rfl, h⟩
  | .error .cancelled => exact hline _
  | .error (.system _) | .error (.malformed _) | .error (.command _) | .error (.other _) =>
    exact hline _

/-- The command is run in a shell, in a race against a token of its own, and in the end it waits for
what never comes. -/
def Waits (engine : Engine S) (races : List Token) (t : Token) (command : Command S) (line : Line)
    (shell ended : Shell S) : Prop :=
  let (child, tokens) := shell.breaks.tokens.derive t
  program engine (races ++ [child]) (command.execute line child) (shell.withTokens tokens) =
    .error .stuck ended

/-- To run a command does not fail. -/
lemma executeCommand_holds (hengine : engine.KeepsWorking) (races : List Token) (t : Token)
    (command : Command S) (line : Line) (h : shell.Works) :
    Holds Shell.Works races (Waits engine races t command line shell)
      (executeCommand engine races t command line shell) := by
  let child := (shell.breaks.tokens.derive t).1
  let derived := shell.withTokens (shell.breaks.tokens.derive t).2
  have hderived : derived.Works := h
  have hbody := program_keepsWorking hengine (races ++ [child]) (command.execute line child)
    hderived
  show Holds _ _ _ ((do
    let outcome ← race races child fun races => program engine races (command.execute line child)
    modify fun ended : Shell S => ended.withTokens (ended.breaks.tokens.release child)
    report outcome) derived)
  refine (race_holds (fun races => program engine races (command.execute line child)) hderived
    hbody).bind fun outcome ended hended => ?_
  have hreleased : (ended.withTokens (ended.breaks.tokens.release child)).Works := hended
  obtain ⟨shell', hrun, h'⟩ := report_works outcome hreleased
  show Holds _ _ _ (report outcome (ended.withTokens (ended.breaks.tokens.release child)))
  rw [hrun]
  exact .ok () h'

lemma carryOut_holds (hengine : engine.KeepsWorking) (app : Application S) (races : List Token)
    (t : Token) (verdict : Verdict S) (h : shell.Works) :
    Holds Shell.Works races
      (fun ended => ∃ c line, verdict = .accepted c line ∧
        Waits engine races t (app.command c) line shell ended)
      (carryOut app engine races t verdict shell) := by
  cases verdict with
  | settled => exact .ok () h
  | unclaimed =>
    obtain ⟨shell', hrun, h', -⟩ := output_works h (.errorLine noMatchingCommand)
    rw [carryOut, hrun]
    exact .ok () h'
  | accepted c line =>
    have hends := executeCommand_holds hengine races t (app.command c) line h
    rw [carryOut]
    generalize executeCommand engine races t (app.command c) line shell = x at hends
    cases hends with
    | ok a h => exact .ok a h
    | aborted hu h => exact .aborted hu h
    | stuck hwaits h => exact .stuck ⟨c, line, rfl, hwaits⟩ h

lemma ask_keepsWorking (hengine : engine.KeepsWorking) (commands : List S.Command)
    (h : shell.Works) :
    EndsIn Shell.Works races True (ask app engine races line commands shell) := by
  induction commands generalizing shell with
  | nil => exact .ok _ h
  | cons c commands ih =>
    refine (program_keepsWorking hengine races _ h).bind (fun answer _ h => ?_) fun _ h => h
    cases answer with
    | notMine => exact ih h
    | invalid | valid => exact .ok _ h

lemma hear_keepsWorking (hengine : engine.KeepsWorking) (h : shell.Works) :
    EndsIn Shell.Works races True (hear app engine races shell) := by
  let begun : Shell S := { shell with ready := false, completion := none }
  have hbegun : begun.Works := h
  obtain ⟨ended, hend, hended, -⟩ := writeLine_works hbegun
  show EndsIn _ _ _ ((writeLine "" >>= fun _ => _ : Run S (Verdict S)) begun)
  rw [bind_of_ok hend]
  show EndsIn _ _ _
    ((if Text.allBlank ended.editor.text then pure .settled else _ : Run S (Verdict S)) ended)
  split_ifs
  · exact .ok _ hended
  · exact ask_keepsWorking hengine _ hended

lemma signalReady_keepsWorking (hengine : engine.KeepsWorking) (h : shell.Works) :
    EndsIn Shell.Works races True (signalReady app engine races shell) := by
  rw [signalReady_apply]
  split_ifs
  · exact .ok () h
  · exact program_keepsWorking hengine races app.announce h

lemma submit_keepsWorking (hengine : engine.KeepsWorking) (h : shell.Works) :
    EndsIn Shell.Works races True (submit app engine races t shell) := by
  rw [submit_eq_hear]
  refine (hear_keepsWorking hengine h).bind (fun verdict shell h => ?_) fun _ h => h
  have hcarryOut := (carryOut_holds hengine app races t verdict h).endsIn
  refine hcarryOut.bind (fun _ shell h => ?_) fun _ h => h
  have hconclude : EndsIn Shell.Works races True (concludeLine app engine races shell) := by
    rw [concludeLine_apply]
    split_ifs
    · exact .ok () h
    · obtain ⟨ended, hend, hended, -⟩ := writeLine_works h
      rw [bind_of_ok hend]
      exact signalReady_keepsWorking hengine hended
  exact hconclude.bind (fun _ _ h => .ok () h) fun _ h => h

/-- The induction is on the levels that are left for what programs make run. -/
lemma keepsWorking_ofLevels (app : Application S) (n : Nat) :
    (Engine.ofLevels app n).KeepsWorking := by
  induction n with
  | zero =>
    refine ⟨fun _ _ _ h => .stuck trivial h, fun races shell h => ?_⟩
    show EndsIn _ _ _ ((if !shell.ready then throw .stuck else pure () : Run S Unit) shell)
    split_ifs
    · exact .stuck trivial h
    · exact .ok () h
  | succ n ih => exact ⟨fun _ _ _ h => submit_keepsWorking ih h,
      fun _ _ h => signalReady_keepsWorking ih h⟩

/-! ### What is done at once -/

/-- What direct effects keep, direct programs keep, unless they fail by themselves. -/
lemma finishes_direct {P : Bool → Prop}
    (hsignal : ∀ ⦃shell⦄, shell.Works → P shell.ready →
      ∃ shell', engine.signalReady races shell = .ok () shell' ∧ shell'.Works ∧ P shell'.ready)
    {p : Program S α} (hp : p.Only Effect.IsDirect) (h : shell.Works) (hready : P shell.ready) :
    Finishes (fun shell' => shell'.Works ∧ P shell'.ready) (fun _ => ¬ p.Succeeds)
      (program engine races p shell) := by
  induction p generalizing shell with
  | done a => exact .ok a ⟨h, hready⟩
  | fail f => exact .failure f id
  | look next ih =>
    exact (ih shell (hp shell) h hready).imp (fun _ h => h) fun _ hfails hall => hfails (hall _)
  | act e next ih =>
    obtain ⟨middle, heffect, hmiddle, hready'⟩ : ∃ middle,
        effect engine races e shell = .ok () middle ∧ middle.Works ∧ P middle.ready := by
      by_cases he : e = .signalReady
      · rw [he]
        exact hsignal h hready
      · obtain ⟨middle, heffect, hmiddle, heq⟩ := effect_works hp.1 he h engine races
        exact ⟨middle, heffect, hmiddle, heq ▸ hready⟩
    rw [program_act, bind_of_ok heffect]
    exact ih hp.2 hmiddle hready'

/-- Where readiness was signalled, to signal it does nothing. -/
lemma signalReady_ofLevels_of_ready (app : Application S) (n : Nat) (races : List Token)
    (hready : shell.ready = true) :
    (Engine.ofLevels app n).signalReady races shell = .ok () shell := by
  cases n with
  | zero =>
    show (if !shell.ready then throw .stuck else pure () : Run S Unit) shell = _
    rw [hready]
    rfl
  | succ n => exact (signalReady_apply app (.ofLevels app n) races shell).trans (if_pos hready)

variable {commands : List S.Command}

/-- To signal readiness does not fail. The announcement may signal it in its turn, which does
nothing then. -/
lemma signalReady_works (happ : app.IsSynchronous commands) (n : Nat) (races : List Token)
    (h : shell.Works) :
    ∃ shell', signalReady app (.ofLevels app n) races shell = .ok () shell' ∧ shell'.Works ∧
      shell'.ready = true := by
  rw [signalReady_apply]
  split_ifs with hready
  · exact ⟨shell, rfl, h, hready⟩
  let begun : Shell S := { shell with ready := true }
  have hbegun : begun.Works := h
  have hannounce := finishes_direct (P := (· = true))
    (fun shell h hready => ⟨shell, signalReady_ofLevels_of_ready app n races hready, h, hready⟩)
    happ.announce hbegun rfl
  generalize program (.ofLevels app n) races app.announce begun = x at hannounce
  cases hannounce with
  | ok _ h => exact ⟨_, rfl, h⟩
  | failure _ hfails => exact absurd happ.announce_succeeds hfails

/-- The induction is on the commands that are left to ask. -/
lemma finishes_ask (happ : app.IsSynchronous commands) (n : Nat) (races : List Token) (line : Line)
    {asked : List S.Command} (hasked : asked ⊆ commands) (h : shell.Works) :
    Finishes Shell.Works (fun _ => ∃ c ∈ asked, ¬ ((app.command c).canHandle line).Succeeds)
      (ask app (.ofLevels app (n + 1)) races line asked shell) := by
  induction asked generalizing shell with
  | nil => exact .ok _ h
  | cons c asked ih =>
    obtain ⟨hc, hasked⟩ := List.cons_subset.mp hasked
    have hsignal : ∀ ⦃shell : Shell S⦄, shell.Works → True → ∃ shell',
        (Engine.ofLevels app (n + 1)).signalReady races shell = .ok () shell' ∧ shell'.Works ∧
          True := by
      intro shell h _
      obtain ⟨shell', hrun, h', -⟩ := signalReady_works happ n races h
      exact ⟨shell', hrun, h', trivial⟩
    have hanswer := finishes_direct (P := fun _ => True) hsignal (happ.canHandle c hc line) h
      trivial
    refine (hanswer.imp (fun _ h => h.1) fun _ hfails => ?_).bind fun answer shell h => ?_
    · exact ⟨c, List.mem_cons_self, hfails⟩
    · cases answer with
      | notMine =>
        exact (ih hasked h).imp (fun _ h => h)
          fun _ ⟨d, hd, hfails⟩ => ⟨d, List.mem_cons_of_mem c hd, hfails⟩
      | invalid | valid => exact .ok _ h

lemma finishes_hear (happ : app.IsSynchronous shell.commands) (n : Nat) (races : List Token)
    (h : shell.Works) :
    Finishes Shell.Works (fun _ => ∃ c ∈ shell.commands, ¬ ((app.command c).canHandle
        (.parse shell.editor.text shell.editor.text.length)).Succeeds)
      (hear app (.ofLevels app (n + 1)) races shell) := by
  let begun : Shell S := { shell with ready := false, completion := none }
  have hbegun : begun.Works := h
  obtain ⟨ended, hend, hended, heditor, hcommands⟩ := writeLine_works hbegun
  have heditor : ended.editor = shell.editor := heditor
  have hcommands : ended.commands = shell.commands := hcommands
  rw [← heditor, ← hcommands]
  rw [← hcommands] at happ
  show Finishes _ _ ((writeLine "" >>= fun _ => _ : Run S (Verdict S)) begun)
  rw [bind_of_ok hend]
  show Finishes _ _
    ((if Text.allBlank ended.editor.text then pure .settled else _ : Run S (Verdict S)) ended)
  split_ifs
  · exact .ok _ hended
  · exact finishes_ask happ n races _ (List.Subset.refl _) hended

lemma concludeLine_works (happ : app.IsSynchronous commands) (n : Nat) (races : List Token)
    (h : shell.Works) :
    ∃ shell', concludeLine app (.ofLevels app n) races shell = .ok () shell' ∧
      shell'.ready = true := by
  rw [concludeLine_apply]
  split_ifs with hready
  · exact ⟨shell, rfl, hready⟩
  · obtain ⟨ended, hend, hended, -⟩ := writeLine_works h
    obtain ⟨shell', hrun, -, hready'⟩ := signalReady_works happ n races hended
    exact ⟨shell', (bind_of_ok hend _).trans hrun, hready'⟩

/-! ### Submitting a line -/

/-- What submitting a line comes to, by what hearing the commands comes to. -/
inductive Contained (app : Application S) (engine : Engine S) (races : List Token) (t : Token)
    (heard : EStateM.Result Halt (Shell S) (Verdict S)) :
    EStateM.Result Halt (Shell S) Unit → Prop
  /-- The commands were heard. Whatever was done then, the shell is ready and the line empty. -/
  | ok {verdict before after} (hheard : heard = .ok verdict before) (hready : after.ready = true)
    (hbuffer : after.editor.buffer = []) (hcaret : after.editor.caret = 0) :
    Contained app engine races t heard (.ok () after)
  /-- A command failed when it was asked. Nothing is done after that. -/
  | failure {f shell} (hheard : heard = .error (.failure f) shell) :
    Contained app engine races t heard (.error (.failure f) shell)
  /-- A race was lost that the line was submitted in. -/
  | aborted {verdict before u shell} (hheard : heard = .ok verdict before) (hu : u ∈ races) :
    Contained app engine races t heard (.error (.aborted u) shell)
  /-- The command that is run waits for what never comes. -/
  | stuck {c line before shell} (hheard : heard = .ok (.accepted c line) before)
    (hwaits : Waits engine races t (app.command c) line before shell) :
    Contained app engine races t heard (.error .stuck shell)

/-- What is done once the commands were heard does not fail. -/
lemma contained_of_heard (happ : app.IsSynchronous commands) (n : Nat) (races : List Token)
    (t : Token) {heard : EStateM.Result Halt (Shell S) (Verdict S)} {verdict : Verdict S}
    (hheard : heard = .ok verdict shell) (h : shell.Works) :
    Contained app (.ofLevels app (n + 1)) races t heard
      ((do
        carryOut app (.ofLevels app (n + 1)) races t verdict
        concludeLine app (.ofLevels app (n + 1)) races
        onTerminal Terminal.resetInput) shell) := by
  have hcarryOut := carryOut_holds (keepsWorking_ofLevels app (n + 1)) app races t verdict h
  show Contained _ _ _ _ _ (EStateM.bind (carryOut _ _ _ _ _) _ _)
  rw [EStateM.bind]
  generalize carryOut app (.ofLevels app (n + 1)) races t verdict shell = x at hcarryOut
  cases hcarryOut with
  | ok _ h =>
    obtain ⟨concluded, hrun, hready⟩ := concludeLine_works happ (n + 1) races h
    dsimp only
    rw [bind_of_ok hrun]
    exact .ok hheard hready rfl rfl
  | aborted hu _ => exact .aborted hheard hu
  | stuck hwaits _ =>
    obtain ⟨c, line, rfl, hwaits⟩ := hwaits
    exact .stuck hheard hwaits

/-- The first command that is asked ends the submission where it fails. -/
lemma submit_of_canHandle_eq_fail {c : S.Command} {f : Failure}
    (hcommands : shell.commands = c :: commands)
    (hfails : (app.command c).canHandle
      (.parse shell.editor.text shell.editor.text.length) = .fail f)
    (h : shell.Works) (hblank : Text.allBlank shell.editor.text = false) (engine : Engine S)
    (races : List Token) (t : Token) :
    submit app engine races t shell = .error (.failure f) shell.offered := by
  let begun : Shell S := { shell with ready := false, completion := none }
  let ended : Shell S := begun.withConsole (shell.console.puts Shell.lineEnd)
  have hbegun : begun.console.refusals = [] := h
  have hend : writeLine "" begun = .ok () ended := writeLine_eq_puts hbegun ""
  have hheard : hear app engine races shell = .error (.failure f) shell.offered := by
    show (writeLine "" >>= fun _ => _ : Run S (Verdict S)) begun = _
    rw [bind_of_ok hend]
    show (if Text.allBlank shell.editor.text then pure .settled else _ : Run S (Verdict S)) ended =
      _
    rw [if_neg (Bool.eq_false_iff.mp hblank)]
    show ask app engine races (.parse shell.editor.text shell.editor.text.length) shell.commands
      shell.offered = _
    rw [hcommands, ask, hfails]
    rfl
  rw [submit_eq_hear]
  show EStateM.bind _ _ _ = _
  rw [EStateM.bind, hheard]

/-- On a console that refuses nothing, no failure leaves the submission of a line but that of a
command that cannot say whether the line is for it, and that one always does. Whatever the command
does that takes the line, if it comes to an end or its token is cancelled, the shell is ready and
the line is empty in the end. -/
theorem submit_contained (happ : app.IsSynchronous shell.commands) (h : shell.Works) (n : Nat)
    (races : List Token) (t : Token) :
    Contained app (.ofLevels app (n + 1)) races t (hear app (.ofLevels app (n + 1)) races shell)
        (submit app (.ofLevels app (n + 1)) races t shell) ∧
      ((∀ c ∈ shell.commands, ((app.command c).canHandle
          (.parse shell.editor.text shell.editor.text.length)).Succeeds) →
        ∀ f shell', submit app (.ofLevels app (n + 1)) races t shell ≠
          .error (.failure f) shell') := by
  have hheard := finishes_hear happ n races h
  have hends : Contained app (.ofLevels app (n + 1)) races t
      (hear app (.ofLevels app (n + 1)) races shell)
      (submit app (.ofLevels app (n + 1)) races t shell) := by
    rw [submit_eq_hear]
    show Contained _ _ _ _ _ (EStateM.bind (hear _ _ _) _ _)
    rw [EStateM.bind]
    generalize hear app (.ofLevels app (n + 1)) races shell = heard at hheard
    cases hheard with
    | ok verdict h => exact contained_of_heard happ n races t rfl h
    | failure f _ => exact .failure rfl
  refine ⟨hends, fun hsucceeds f shell' hfailure => ?_⟩
  rw [hfailure] at hends
  cases hends with
  | failure hheard' =>
    rw [hheard'] at hheard
    cases hheard with
    | failure _ hfails =>
      obtain ⟨c, hc, hfails⟩ := hfails
      exact hfails (hsucceeds c hc)

/-- The second one of two commands takes the line, submits another one in its turn, and fails. -/
theorem submit_contained_nested :
    let app : Application ⟨Bool, Empty, Unit⟩ := {
      command takes := {
        name := "", grammar := none
        canHandle _ := .done (if takes then .valid else .notMine)
        execute _ t := .act (.setInput "") (.act (.submit t) (.fail (.other "broken")))
        suggest _ _ := [], summary _ := none, details _ _ := none }
      handle h := h.elim }
    let shell : Shell ⟨Bool, Empty, Unit⟩ := {
      state := (), history := .inMemory 5, commands := [false, true]
      terminal := { editor := { buffer := ['x'] } } }
    app.IsSynchronous shell.commands ∧ shell.Works ∧ ∃ shell',
      submit app (.ofLevels app 2) [] 0 shell = .ok () shell' ∧ shell'.ready = true ∧
      shell'.editor.buffer = [] ∧ shell'.editor.caret = 0 := by
  intro app shell
  have happ : app.IsSynchronous shell.commands :=
    ⟨fun _ _ _ => trivial, fun _ => ⟨trivial, trivial⟩, fun _ => trivial⟩
  obtain ⟨hends, -⟩ := submit_contained happ (rfl : shell.Works) 1 [] 0
  have hrun : (submit app (.ofLevels app 2) [] 0).run' shell = some () := by decide +kernel
  obtain ⟨shell', hrun⟩ := exists_of_run_eq_some hrun
  rw [hrun] at hends
  cases hends with
  | ok _ hready hbuffer hcaret => exact ⟨happ, rfl, shell', hrun, hready, hbuffer, hcaret⟩

/-- A command cannot say whether a line is for it. The failure leaves the submission, readiness is
not signalled, and the line is left as it was. -/
theorem undecided_leaves_submission :
    let app : Application ⟨Unit, Empty, Unit⟩ := {
      command _ := {
        name := "", grammar := none
        canHandle _ := .fail (.command "cannot decide")
        execute _ _ := .done ()
        suggest _ _ := [], summary _ := none, details _ _ := none }
      handle h := h.elim }
    let shell : Shell ⟨Unit, Empty, Unit⟩ := {
      state := (), history := .inMemory 5, commands := [()]
      terminal := { editor := { buffer := ['x'] } } }
    app.IsSynchronous shell.commands ∧ shell.Works ∧ ∃ shell',
      submit app (.standard app) [] 0 shell =
        .error (.failure (.command "cannot decide")) shell' ∧
      shell'.console.errors = [] ∧ shell'.ready = false ∧ shell'.editor.buffer = ['x'] := by
  intro app shell
  have happ : app.IsSynchronous shell.commands :=
    ⟨fun _ _ _ => trivial, fun _ => ⟨trivial, trivial⟩, fun _ => trivial⟩
  have hfailure := submit_of_canHandle_eq_fail (rfl : shell.commands = [()])
    (rfl : (app.command ()).canHandle _ = .fail (.command "cannot decide")) rfl (by decide)
    (.standard app) [] 0
  exact ⟨happ, rfl, shell.offered, hfailure, rfl, rfl, rfl⟩

end Run

end LineShell
