import LineShell.Proofs.Shell.ByGrammar

/-!
# Who takes a line, by the log

The log of a submission tells who took the line: a command took it if it was asked and did not say
that the line is for another one (`Logged.Took`). Where all commands have a grammar, that is the
first one whose grammar binds the line, and nobody else; and it is said that no command matches just
when there is none (`Logged.tells_submit`). Whatever a command does after it took the line, it adds
nothing to the log that would tell otherwise (`Logged.Adds`).
-/

namespace LineShell

variable {S : Signature} {α β : Type}

/-- The entry tells nothing about who takes the line. -/
def Entry.IsNeutral : Entry S → Prop
  | .asked .. => False
  | .reported text => text ≠ Run.noMatchingCommand
  | .recorded _ | .executed _ | .ended _ | .announced => True

namespace Logged

/-! ### What is added to a log -/

/-- The log that a run leaves behind. -/
def entries : EStateM.Result Halt (Shell S × List (Entry S)) α → List (Entry S)
  | .ok _ (_, log) => log
  | .error _ (_, log) => log

/-- The run adds nothing to the log but entries that tell nothing about who takes the line. -/
def Adds (l : Logged S α) : Prop :=
  ∀ state, ∃ more, entries (l state) = state.2 ++ more ∧ ∀ entry ∈ more, entry.IsNeutral

lemma adds_lift (r : Run S α) : Adds (lift r) := by
  rintro ⟨shell, log⟩
  refine ⟨[], ?_, List.forall_mem_nil _⟩
  rw [lift, List.append_nil]
  cases r shell <;> rfl

lemma adds_pure (a : α) : Adds (pure a : Logged S α) :=
  fun state => ⟨[], (List.append_nil state.2).symm, List.forall_mem_nil _⟩

lemma adds_note (entry : Entry S) (h : entry.IsNeutral) : Adds (note entry) :=
  fun _ => ⟨[entry], rfl, List.forall_mem_singleton.mpr h⟩

/-- What comes after some run adds to the log of that run. -/
lemma Adds.after {k : α → Logged S β} (hk : ∀ a, Adds (k a)) (l : Logged S α)
    (state : Shell S × List (Entry S)) :
    ∃ more, entries ((l >>= k) state) = entries (l state) ++ more ∧
      ∀ entry ∈ more, entry.IsNeutral := by
  show ∃ more, entries (EStateM.bind l k state) = _ ∧ _
  rw [EStateM.bind]
  cases l state with
  | ok a state => exact hk a state
  | error halt state => exact ⟨[], (List.append_nil _).symm, List.forall_mem_nil _⟩

lemma Adds.bind {l : Logged S α} {k : α → Logged S β} (h : Adds l) (hk : ∀ a, Adds (k a)) :
    Adds (l >>= k) := by
  intro state
  obtain ⟨more, hmore, hneutral⟩ := h state
  obtain ⟨rest, hrest, hneutral'⟩ := Adds.after hk l state
  refine ⟨more ++ rest, ?_, List.forall_mem_append.mpr ⟨hneutral, hneutral'⟩⟩
  rw [hrest, hmore, List.append_assoc]

lemma Adds.ite {c : Prop} [Decidable c] {l l' : Logged S α} (h : Adds l) (h' : Adds l') :
    Adds (if c then l else l') := by
  split_ifs
  · exact h
  · exact h'

section

variable {app : Application S} {structured : S.Command → Structured S}
  {signal : List Token → Logged S Unit} {engine : Engine S}

/-- The run lemma: programs add only what is added when they signal readiness. -/
lemma adds_program (hsignal : ∀ races, Adds (signal races)) (races : List Token)
    (p : Program S α) : Adds (program signal engine races p) := by
  induction p with
  | done a => exact adds_pure a
  | fail f => exact adds_lift _
  | look next ih => exact (adds_lift _).bind ih
  | act e next ih =>
    have heffect : Adds (effect signal engine races e) := by
      by_cases he : e = .signalReady
      · rw [he]
        exact hsignal races
      · rw [effect_of_ne he]
        exact adds_lift _
    exact heffect.bind fun _ => ih

lemma adds_signalReady (app : Application S) (hsignal : ∀ races, Adds (signal races))
    (races : List Token) : Adds (signalReady app signal engine races) := by
  refine (adds_lift _).bind fun shell => (adds_pure ()).ite ?_
  refine (adds_lift _).bind fun _ => (adds_note .announced trivial).bind fun _ => ?_
  exact adds_program hsignal races _

lemma adds_signalAt (app : Application S) (n : ℕ) (races : List Token) :
    Adds (signalAt app n races) := by
  induction n generalizing races with
  | zero => exact adds_lift _
  | succ n ih => exact adds_signalReady app ih races

lemma adds_race {body : List Token → Logged S Unit} (h : ∀ races, Adds (body races))
    (races : List Token) (t : Token) : Adds (race races t body) := by
  rintro ⟨shell, log⟩
  rw [race]
  split_ifs
  · exact adds_pure _ (shell, log)
  · have hbody := h (races ++ [t]) (shell, log)
    cases hrun : body (races ++ [t]) (shell, log) with
    | ok a state =>
      rw [hrun] at hbody
      exact hbody
    | error halt state =>
      rw [hrun] at hbody
      cases halt with
      | failure f => exact hbody
      | aborted u =>
        dsimp only
        split_ifs
        · exact hbody
        · exact hbody
      | stuck => exact hbody

lemma adds_errorLine {text : String} (h : text ≠ Run.noMatchingCommand) :
    Adds (errorLine text : Logged S Unit) :=
  (adds_note (.reported text) h).bind fun _ => adds_lift _

lemma errorReport_ne_noMatchingCommand (f : Failure) :
    Run.errorReport f ≠ Run.noMatchingCommand := by
  intro h
  have hchars := congrArg String.toList h
  rw [Run.errorReport, String.toList_append] at hchars
  cases hchars

/-- What is said about how a command ended is not that there was none. -/
lemma adds_report (outcome : Except Failure Unit) : Adds (report outcome : Logged S Unit) := by
  match outcome with
  | .ok () => exact adds_pure ()
  | .error .cancelled => exact adds_errorLine (by decide)
  | .error (.system _) | .error (.malformed _) | .error (.command _) | .error (.other _) =>
    exact adds_errorLine (errorReport_ne_noMatchingCommand _)

lemma adds_endCommand (child : Token) (outcome : Except Failure Unit) :
    Adds (endCommand child outcome : Logged S Unit) :=
  (adds_note (.ended outcome) trivial).bind fun _ => (adds_lift _).bind fun _ =>
    adds_report outcome

lemma adds_executeInput (hsignal : ∀ races, Adds (signal races)) (races : List Token)
    (c : S.Command) (input : Input) (child : Token) :
    Adds (executeInput structured signal engine races c input child) := by
  refine (adds_race (fun races => ?_) races child).bind fun outcome => adds_endCommand child outcome
  exact (adds_note (.executed c) trivial).bind fun _ => adds_program hsignal races _

/-- The end of a line. -/
lemma adds_conclude (app : Application S) (n : ℕ) (races : List Token) :
    Adds (do
      concludeLine app (signalAt app n) (.ofLevels app n) races
      lift (Run.onTerminal Terminal.resetInput)) := by
  have hconclude : Adds (concludeLine app (signalAt app n) (.ofLevels app n) races) := by
    refine (adds_lift _).bind fun shell => (adds_pure ()).ite ?_
    exact (adds_lift _).bind fun _ => adds_signalReady app (adds_signalAt app n) races
  exact hconclude.bind fun _ => adds_lift _

end

/-! ### What a log tells -/

/-- A command was asked, and did not say that the line is for another one. -/
def Took (log : List (Entry S)) (c : S.Command) : Prop :=
  ∃ answer cancelled, .asked c answer cancelled ∈ log ∧ answer ≠ .notMine

/-- The log tells who took the line, if any command did, and whether it was said that none
matches. -/
structure Tells (taker : Option S.Command) (missed : Prop) (log : List (Entry S)) : Prop where
  took : ∀ c, Took log c ↔ taker = some c
  missed : .reported Run.noMatchingCommand ∈ log ↔ missed

lemma took_append {log log' : List (Entry S)} {c : S.Command} :
    Took (log ++ log') c ↔ Took log c ∨ Took log' c := by
  simp only [Took, List.mem_append, or_and_right, exists_or]

section Tells

variable {taker : Option S.Command} {missed : Prop} {log log' : List (Entry S)}

/-- A part of the log that tells nothing makes no difference. -/
lemma Tells.append (h : Tells taker missed log) (h' : Tells none False log') :
    Tells taker missed (log ++ log') where
  took c := by rw [took_append, h.took, h'.took]; simp
  missed := by rw [List.mem_append, h.missed, h'.missed, or_false]

lemma Tells.of_append (h : Tells none False log) (h' : Tells taker missed log') :
    Tells taker missed (log ++ log') where
  took c := by rw [took_append, h.took, h'.took]; simp
  missed := by rw [List.mem_append, h.missed, h'.missed, false_or]

lemma tells_neutral (h : ∀ entry ∈ log, entry.IsNeutral) : Tells none False log where
  took c := by
    refine iff_of_false ?_ (by simp)
    rintro ⟨answer, cancelled, hasked, -⟩
    exact h _ hasked
  missed := iff_of_false (fun hmissed => h _ hmissed rfl) id

lemma tells_passed (commands : List S.Command) : Tells none False (commands.map passed) where
  took c := by simp [Took, passed]
  missed := by simp [passed]

lemma tells_asked (c : S.Command) {answer : Answer} (hanswer : answer ≠ .notMine) :
    Tells (some c) False [.asked c answer false] where
  took d := by simp [Took, hanswer, eq_comm]
  missed := by simp

lemma tells_missed : Tells none True [(.reported Run.noMatchingCommand : Entry S)] where
  took c := by simp [Took]
  missed := by simp

end Tells

/-! ### Who takes a line -/

section

variable {app : Application S} {structured : S.Command → Structured S}
  {signal : List Token → Logged S Unit} {engine : Engine S} {races : List Token} {t : Token}
  {line : Line} {commands : List S.Command} {shell : Shell S} {log : List (Entry S)}
  {x : EStateM.Result Halt (Shell S × List (Entry S)) Unit}

/-- The commands that the line is not for come first in the log, then the one that takes it. -/
lemma Tells.asked {before after : List S.Command} {c : S.Command} {input : Input}
    {issues : List Issue} {answer : Answer} (hlog : Tells none False log)
    (hcommands : commands = before ++ c :: after)
    (hbefore : ∀ d ∈ before, ((structured d).grammar.bind line).isMismatch)
    (hbind : (structured c).grammar.bind line = .bound input issues) (hanswer : answer ≠ .notMine) :
    Tells ((claimant? structured line commands).map (·.1))
      (claimant? structured line commands = none)
      (log ++ (before.map passed ++ [.asked c answer false])) := by
  have hclaimant := claimant?_eq_some_iff.mpr ⟨before, after, hcommands, hbefore, hbind⟩
  have hfound : (claimant? structured line commands = none) = False := by simp [hclaimant]
  rw [hfound, hclaimant]
  exact hlog.of_append ((tells_passed before).of_append (tells_asked c hanswer))

/-- The first command whose grammar binds the line takes it. -/
lemma ByGrammar.tells (h : ByGrammar structured signal engine races t line commands shell log x)
    (hsignal : ∀ races, Adds (signal races)) (hlog : Tells none False log) :
    Tells ((claimant? structured line commands).map (·.1))
      (claimant? structured line commands = none) (entries x) := by
  cases h with
  | unclaimed hcommands =>
    have hclaimant := claimant?_eq_none_iff.mpr hcommands
    have hmissed : (claimant? structured line commands = none) = True := by simp [hclaimant]
    rw [hmissed, hclaimant]
    exact hlog.of_append ((tells_passed commands).of_append tells_missed)
  | rejected hcommands hbefore hbind _ => exact hlog.asked hcommands hbefore hbind (by decide)
  | declined hcommands hbefore hbind _ => exact hlog.asked hcommands hbefore hbind (by decide)
  | accepted hcommands hbefore hbind _ _ _ =>
    obtain ⟨more, hmore, hneutral⟩ := adds_executeInput hsignal races _ _ _ (_, _)
    rw [hmore]
    exact (hlog.asked hcommands hbefore hbind (by decide)).append (tells_neutral hneutral)

/-- The log of a submission tells who takes the line: nobody if it is blank, and otherwise the first
command whose grammar binds it. It is said that no command matches if there is none. -/
theorem tells_submit (hcommands : ∀ c ∈ shell.commands, app.command c = (structured c).toCommand)
    (hdetails : ∀ c ∈ shell.commands, (structured c).ownDetails = none)
    (hrefusals : shell.console.refusals = []) (hsound : shell.breaks.tokens.Sound)
    (hmade : t < shell.breaks.tokens.next) (hcancelled : shell.isCancelled t = false) (n : ℕ)
    (races : List Token) :
    let text := shell.editor.text
    let claimant := claimant? structured (.parse text text.length) shell.commands
    Tells (if Text.allBlank text then none else claimant.map (·.1))
      (Text.allBlank text = false ∧ claimant = none)
      (entries (submit app n races t (shell, []))) := by
  intro text claimant
  cases hblank : Text.allBlank text with
  | true =>
    let ended : Shell S := { shell.withConsole (shell.console.puts Shell.lineEnd) with
      ready := false, completion := none }
    have htake : takeLine app (signalAt app n) (.ofLevels app n) races t (ended, []) =
        .ok () (ended, []) := by
      show (if Text.allBlank text then pure () else _ : Logged S Unit) (ended, []) = _
      rw [if_pos hblank]
      rfl
    obtain ⟨more, hmore, hneutral⟩ := adds_conclude app n races (ended, [])
    rw [submit_eq_cycle hrefusals, cycle, bind_of_ok htake, hmore]
    simpa using tells_neutral hneutral
  | false =>
    have hoffered : shell.offered.console.refusals = [] :=
      (Console.refusals_puts shell.console _).trans hrefusals
    have hby := dispatch_byGrammar hcommands hdetails hoffered hsound hmade hcancelled
      (signalAt app n) (.ofLevels app n) races (.parse text text.length) [.recorded text]
    have hstart : Tells none False [(.recorded text : Entry S)] :=
      tells_neutral (List.forall_mem_singleton.mpr trivial)
    obtain ⟨more, hmore, hneutral⟩ := Adds.after (fun _ => adds_conclude app n races)
      (dispatch app (signalAt app n) (.ofLevels app n) races t (.parse text text.length)
        shell.commands) (shell.offered, [.recorded text])
    rw [submit_eq hrefusals hblank, hmore]
    simpa using (hby.tells (adds_signalAt app n) hstart).append (tells_neutral hneutral)

end

end Logged

end LineShell
