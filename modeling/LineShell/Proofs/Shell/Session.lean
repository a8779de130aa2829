import LineShell.Proofs.Shell.Completion
import LineShell.Proofs.Shell.Submission

/-!
# Sessions on calm shells

Where the application is plain, all that a session does is told by the view of the shell: a key with
a binding (`Shell.pressed`), and keys one after the other with characters put by (`Shell.session`).
-/

namespace LineShell

variable {S : Signature}

/-! ### Keys -/

/-- The edit of the line that an action is, if it is no more than that. -/
def EditAction.edit? : EditAction → Option Edit
  | .moveLeft => some (.move .left)
  | .moveRight => some (.move .right)
  | .moveToStart => some (.move .toStart)
  | .moveToEnd => some (.move .toEnd)
  | .moveWordBack => some (.move .wordBack)
  | .moveWordForward => some (.move .wordForward)
  | .clearLine => some (.setInput "")
  | .breakLine => some (.setInput "")
  | .removePrevious => some .removePrevious
  | .removeCurrent => some .removeCurrent
  | .toggleOverwrite => some .toggleOverwrite
  | _ => none

namespace Shell

/-- The shell with its history replaced, and a line out of it in the place of the line, if there is
one. -/
def recalled (shell : Shell S) (found : Option String × History) : Shell S :=
  let shell' := { shell with history := found.2 }
  found.1.elim shell' fun text => shell'.edited (.setInput text)

/-- The shell after an action of the line editor. -/
def performed (app : Application S) (structured : S.Command → Structured S) (a : EditAction)
    (shell : Shell S) : Shell S :=
  match a with
  | .previousHistory => shell.recalled shell.history.previous
  | .nextHistory =>
    shell.recalled (some (shell.history.next.1.getD ""), shell.history.next.2)
  | .nextSuggestion => shell.completed app .forward
  | .previousSuggestion => shell.completed app .backward
  | .execute => shell.submitted app structured
  | a => a.edit?.elim shell shell.edited

/-- The shell after a report on how a key did its work. -/
def keyReported (shell : Shell S) : Except Failure Unit → Shell S
  | .error .cancelled => shell
  | .error f => shell.display [.errorLine (Run.errorReport f)]
  | .ok () => shell

/-- The shell after a key did what it is bound to. -/
def pressed (app : Application S) (structured : S.Command → Structured S) (key : Key)
    (b : KeyBinding S.Handler) (shell : Shell S) : Shell S :=
  match b with
  | .action a => shell.performed app structured a
  | .handler h => shell.executed (app.handle h key 0) keyReported

/-- The shell after some keys, with characters put by, the latest first, and the keys that were not
read because the shell was asked to stop. Characters are typed into the line before a key that is
bound, and at the end. -/
def session (app : Application S) (structured : S.Command → Structured S) (rawMode : Bool) :
    List Key → List Char → Shell S → Shell S × List Key
  | [], typed, shell => (shell.edited (.insert typed.reverse), [])
  | key :: keys, typed, shell =>
    if shell.exitRequested then (shell.edited (.insert typed.reverse), key :: keys)
    else match Run.bindingOf shell rawMode key with
      | some b =>
        session app structured rawMode keys []
          ((shell.edited (.insert typed.reverse)).pressed app structured key b)
      | none => session app structured rawMode keys (key.character?.toList ++ typed) shell

/-- Typing nothing changes nothing. -/
lemma edited_insert_nil (shell : Shell S) : shell.edited (.insert []) = shell := by
  rw [edited, Edit.apply_insert_nil]
  rfl

variable {app : Application S} {structured : S.Command → Structured S} {shell : Shell S}

lemma session_of_exitRequested (h : shell.exitRequested = true) {rawMode : Bool}
    {keys : List Key} {typed : List Char} :
    shell.session app structured rawMode keys typed =
      (shell.edited (.insert typed.reverse), keys) := by
  cases keys with
  | nil => rfl
  | cons key keys => exact if_pos h

end Shell

namespace Run

variable {app : Application S} {structured : S.Command → Structured S} {engine : Engine S}

/-! ### Bound keys -/

lemma nextCompletion_view (happ : app.IsPlain structured) (shell : Shell S) (d : Direction) :
    shell.view.nextCompletion app d = shell.nextCompletion app d := by
  have hsuggestions : ∀ line, shell.view.suggestions app line = shell.suggestions app line := by
    intro line
    have hone : ∀ c, (app.command c).suggest shell.view line =
        (app.command c).suggest shell line := by
      intro c
      rw [happ.command_eq]
      exact happ.suggest_view c shell line
    simp only [Shell.suggestions, hone]
    rfl
  simp only [Shell.nextCompletion, hsuggestions]
  rfl

lemma does_complete (happ : app.IsPlain structured) (d : Direction) :
    Does (complete app d) (modify (Shell.completed app d)) := by
  apply does_of_exists_record
  · intro shell hcalm
    exact exists_complete app hcalm.refusals d
  · intro shell
    rw [Shell.completed, Shell.completed, nextCompletion_view happ]
    cases shell.nextCompletion app d with
    | none => rfl
    | some c =>
      rw [Shell.view_edited, Shell.view_edited]
      rfl
  · intro shell hcalm
    rw [Shell.completed]
    cases shell.nextCompletion app d with
    | none => exact ⟨hcalm.refusals, hcalm.quiet⟩
    | some c =>
      have hcalm' : ({ shell with completion := some c } : Shell S).Calm :=
        ⟨hcalm.refusals, hcalm.quiet⟩
      exact (hcalm'.edited _).edited _
  · intro shell
    rw [Shell.completed]
    cases shell.nextCompletion app d with
    | none => rfl
    | some c =>
      rw [Shell.queue_edited, Shell.queue_edited]
      rfl

/-- Recalling a line out of the history. -/
lemma does_recall (f : History → Option String × History) :
    Does (do
      let (entry, history) := f (← get).history
      modify fun shell : Shell S => { shell with history }
      match entry with
      | some text => setInput text
      | none => return) (modify fun shell => shell.recalled (f shell.history)) := by
  intro shell hcalm
  have hmove := does_modify_of_terminal_eq
    (fun shell' : Shell S => { shell' with history := (f shell.history).2 })
    (fun _ => rfl) (fun _ => rfl) fun _ => rfl
  show EndsAs _ (.ok () (shell.view.recalled (f shell.history))) ((do
    modify fun shell' : Shell S => { shell' with history := (f shell.history).2 }
    match (f shell.history).1 with
    | some text => setInput text
    | none => return : Run S Unit) shell)
  rw [Shell.recalled]
  cases (f shell.history).1 with
  | none => exact (hmove.andThen does_id) shell hcalm
  | some text => exact (hmove.andThen (does_edit (.setInput text))) shell hcalm

/-- An action of the line editor. -/
lemma does_action (happ : app.IsPlain structured)
    (hengine : ∀ races t, Does (engine.submit races t) (modify (Shell.submitted app structured)))
    (t : Token) (a : EditAction) :
    Does (action app engine t a) (modify (Shell.performed app structured a)) := by
  cases a with
  | moveLeft => exact does_edit (.move .left)
  | moveRight => exact does_edit (.move .right)
  | moveToStart => exact does_edit (.move .toStart)
  | moveToEnd => exact does_edit (.move .toEnd)
  | moveWordBack => exact does_edit (.move .wordBack)
  | moveWordForward => exact does_edit (.move .wordForward)
  | previousHistory => exact does_recall History.previous
  | nextHistory => exact does_recall fun h => (some (h.next.1.getD ""), h.next.2)
  | nextSuggestion => exact does_complete happ .forward
  | previousSuggestion => exact does_complete happ .backward
  | clearLine | breakLine => exact does_edit (.setInput "")
  | removePrevious => exact does_edit .removePrevious
  | removeCurrent => exact does_edit .removeCurrent
  | toggleOverwrite => exact does_edit .toggleOverwrite
  | execute => exact hengine [] t

lemma does_reportKey (outcome : Except Failure Unit) :
    Does (reportKey outcome : Run S Unit) (modify (·.keyReported outcome)) := by
  match outcome with
  | .ok () | .error .cancelled => exact does_id
  | .error (.system e) | .error (.malformed _) | .error (.command _) | .error (.other _) =>
    exact does_output _

/-- A run that hands the failures of another one over as values. -/
def caught (r : Run S Unit) : Run S (Except Failure Unit) := fun shell =>
  match r shell with
  | .ok () shell => .ok (.ok ()) shell
  | .error (.failure f) shell => .ok (.error f) shell
  | .error halt shell => .error halt shell

lemma inScope_eq (body : Token → Run S Unit) :
    inScope body = (do
      let t ← openScope
      let outcome ← caught (body t)
      closeScope t
      reportKey outcome) :=
  rfl

/-- What is done in a scope of its own, which does not show. -/
lemma does_inScope {body : Token → Run S Unit} {m : Attempt (Shell S) Unit}
    (h : ∀ t, Does (body t) m) :
    Does (inScope body) (do
      let outcome ← m.caught
      modify (·.keyReported outcome)) := by
  intro shell hcalm
  let t := shell.breaks.start.1
  have hopen := does_setBreaks (S := S) (f := fun b => b.start.2)
    fun b h => BreakScope.quiet_start h
  have hclose := does_setBreaks (S := S) (f := fun b => b.close t)
    fun b h => BreakScope.quiet_close h t
  have hcaught : Does (caught (body t)) m.caught :=
    (h t).caught (fun _ _ _ hbody => by rw [caught, hbody])
      fun _ _ _ _ hbody => by rw [caught, hbody]
  have hrest := hcaught.bind fun outcome => hclose.andThen (does_reportKey outcome)
  rw [inScope_eq]
  exact (hopen.bind fun _ => hrest) shell hcalm

/-- A key that is bound. -/
lemma does_binding (happ : app.IsPlain structured)
    (hengine : ∀ races t, Does (engine.submit races t) (modify (Shell.submitted app structured)))
    (key : Key) (b : KeyBinding S.Handler) :
    Does (inScope fun t => binding app engine key t b)
      (modify (Shell.pressed app structured key b)) := by
  cases b with
  | action a => exact does_inScope fun t => does_action happ hengine t a
  | handler h =>
    have hbody : ∀ t,
        Does (program engine [] (app.handle h key t)) (app.handle h key 0).outcome := by
      intro t
      rw [happ.handle_eq h key t 0]
      exact does_program engine [] (happ.handle h key 0)
    have hscope := does_inScope hbody
    rw [caught_bind_report] at hscope
    exact hscope

/-! ### The loop -/

lemma readKey_of_nil {shell : Shell S} (hcalm : shell.Calm) (h : shell.console.queue = []) :
    ∃ shell', readKey shell = .ok .exhausted shell' ∧ shell'.Calm ∧ shell'.view = shell.view ∧
      shell'.console.queue = [] := by
  let t := shell.breaks.start.1
  let opened := { shell with breaks := shell.breaks.start.2 }
  have hnext : nextEvent opened = .ok none opened := by
    rw [nextEvent, show opened.console.queue = [] from h]
  refine ⟨{ opened with breaks := opened.breaks.close t }, ?_, ⟨hcalm.refusals, ?_⟩, rfl, h⟩
  · exact (bind_of_ok (show openScope shell = .ok t opened from rfl) _).trans (bind_of_ok hnext _)
  · exact BreakScope.quiet_close (BreakScope.quiet_start hcalm.quiet) t

/-- Reading a key leaves its break scope closed. -/
lemma readKey_eq_of_cons {shell : Shell S} {key : Key} {rest : List Event}
    (h : shell.console.queue = .key key :: rest) :
    readKey shell = .ok (.key key)
      { shell.withConsole { shell.console with queue := rest } with
        breaks := shell.breaks.start.2.close shell.breaks.start.1 } := by
  let opened := { shell with breaks := shell.breaks.start.2 }
  have hopen : openScope shell = .ok shell.breaks.start.1 opened := rfl
  have hnext : nextEvent opened = .ok (some (.key key))
      (opened.withConsole { opened.console with queue := rest }) := by
    rw [nextEvent, show opened.console.queue = .key key :: rest from h]
  exact (bind_of_ok hopen _).trans (bind_of_ok hnext _)

lemma readKey_of_cons {shell : Shell S} (hcalm : shell.Calm) {key : Key} {rest : List Event}
    (h : shell.console.queue = .key key :: rest) :
    ∃ shell', readKey shell = .ok (.key key) shell' ∧ shell'.Calm ∧ shell'.view = shell.view ∧
      shell'.console.queue = rest := by
  refine ⟨_, readKey_eq_of_cons h, ⟨hcalm.refusals, ?_⟩, rfl, rfl⟩
  exact BreakScope.quiet_close (BreakScope.quiet_start hcalm.quiet) _

/-- On a calm shell, a run ends with a result, does to the view what is said, and leaves the shell
calm and some keys in the queue. -/
def Leads {α : Type} (r : Run S α) (shell : Shell S) (a : α) (view : Shell S)
    (rest : List Key) : Prop :=
  ∃ shell', r shell = .ok a shell' ∧ shell'.Calm ∧ shell'.view = view ∧
    shell'.console.queue = rest.map .key

lemma Does.leads {r : Run S Unit} {f : Shell S → Shell S} (h : Does r (modify f))
    {shell : Shell S} (hcalm : shell.Calm) {rest : List Key}
    (hqueue : shell.console.queue = rest.map .key) : Leads r shell () (f shell.view) rest := by
  have hend : EndsAs _ (.ok PUnit.unit (f shell.view)) (r shell) := h shell hcalm
  generalize hresult : r shell = y at hend
  generalize hview : f shell.view = view at hend ⊢
  cases hend with
  | ok _ hcalm' hqueue' => exact ⟨_, hresult, hcalm', rfl, hqueue'.trans hqueue⟩

/-- One change and a run after it. -/
lemma Does.bind_leads {α : Type} {r : Run S Unit} {r' : Run S α} {f : Shell S → Shell S}
    (h : Does r (modify f)) {shell view : Shell S} {a : α} {keys rest : List Key}
    (hcalm : shell.Calm) (hqueue : shell.console.queue = keys.map .key)
    (h' : ∀ shell', shell'.Calm → shell'.view = f shell.view →
      shell'.console.queue = keys.map .key → Leads r' shell' a view rest) :
    Leads (r >>= fun _ => r') shell a view rest := by
  obtain ⟨shell', hrun, hcalm', hview, hqueue'⟩ := h.leads hcalm hqueue
  obtain ⟨shell'', hrun', hrest⟩ := h' shell' hcalm' hview hqueue'
  exact ⟨shell'', (bind_of_ok hrun _).trans hrun', hrest⟩

lemma Leads.map {α β : Type} {r : Run S α} {shell view : Shell S} {a : α} {rest : List Key}
    (h : Leads r shell a view rest) (f : α → β) :
    Leads (f <$> r) shell (f a) view rest := by
  obtain ⟨shell', hrun, hrest⟩ := h
  refine ⟨shell', ?_, hrest⟩
  rw [map_eq_pure_bind, bind_of_ok hrun]
  rfl

lemma does_flush (typed : List Char) :
    Does (flush typed : Run S Unit) (modify (·.edited (.insert typed.reverse))) :=
  does_edit (.insert typed.reverse)

end Run

end LineShell
