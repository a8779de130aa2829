import LineShell.Proofs.Shell.Session

/-!
# Runs with notes

A run of the key loop can be taken notes of: each time before a key is read, and each time before a
key does what it is bound to (`Run.notedAll`). Without the notes it is the run (`Run.map_notedAll`).
Where the application is plain, the whole run of a shell is readiness and then a session, and the
notes are told by the view (`Run.notedAll_leads`, `Run.all_leads`).
-/

namespace LineShell

variable {S : Signature}

/-- What is noted of a shell: before a key is read, and before one does what it is bound to. It is
told by the view. -/
structure Notes (S : Signature) (α : Type) where
  reading : Shell S → List α
  pressing : KeyBinding S.Handler → Shell S → List α
  reading_view : ∀ shell, reading shell.view = reading shell
  pressing_view : ∀ b shell, pressing b shell.view = pressing b shell

/-- The line that a binding submits, if it does. -/
def KeyBinding.submission {Handler : Type} (b : KeyBinding Handler) (e : Editor) : List String :=
  match b with
  | .action .execute => [e.text]
  | _ => []

/-- Of keys that submit a line, the line is noted. -/
def Notes.submissions : Notes S String where
  reading _ := []
  pressing b shell := b.submission shell.editor
  reading_view _ := rfl
  pressing_view _ _ := rfl

namespace Shell

variable {app : Application S} {structured : S.Command → Structured S} {shell : Shell S}

/-- What is noted in a session, in order. Characters that are put by are typed before a key that is
bound, and when no key is left. -/
def noted {α : Type} (notes : Notes S α) (app : Application S)
    (structured : S.Command → Structured S) (rawMode : Bool) :
    List Key → List Char → Shell S → List α
  | [], _, shell => if shell.exitRequested then [] else notes.reading shell
  | key :: keys, typed, shell =>
    if shell.exitRequested then []
    else notes.reading shell ++ match Run.bindingOf shell rawMode key with
      | some b =>
        let flushed := shell.edited (.insert typed.reverse)
        notes.pressing b flushed ++
          noted notes app structured rawMode keys [] (flushed.pressed app structured key b)
      | none =>
        let typed := key.character?.toList ++ typed
        if keys.isEmpty then
          noted notes app structured rawMode keys [] (shell.edited (.insert typed.reverse))
        else noted notes app structured rawMode keys typed shell

lemma noted_of_exitRequested {α : Type} {notes : Notes S α} (h : shell.exitRequested = true)
    {rawMode : Bool} {keys : List Key} {typed : List Char} :
    shell.noted notes app structured rawMode keys typed = [] := by
  cases keys with
  | nil => exact if_pos h
  | cons key keys => exact if_pos h

end Shell

namespace Run

variable {app : Application S} {structured : S.Command → Structured S} {engine : Engine S}

/-! ### The loop with notes -/

section Loop

variable (app engine) {α : Type} (notes : Notes S α) (rawMode : Bool)

/-- What is done about a key with the binding that it has, if any, and then again. The result holds
what is noted. -/
def notedKey (again : List Char → Run S (List α)) (typed : List Char) (key : Key) :
    Option (KeyBinding S.Handler) → Run S (List α)
  | some b => do
    flush typed
    let noted := notes.pressing b (← get)
    inScope fun t => binding app engine key t b
    return noted ++ (← again [])
  | none => do
    let typed := key.character?.toList ++ typed
    if (← get).console.isKeyAvailable then
      again typed
    else do
      flush typed
      again []

/-- What is done about what was read, and then again. -/
def notedRead (again : List Char → Run S (List α)) (typed : List Char) : KeyRead → Run S (List α)
  | .exhausted => do
    flush typed
    return []
  | .broken => do
    flush typed
    setInput ""
    again []
  | .key key => do
    notedKey app engine notes again typed key (bindingOf (← get) rawMode key)

/-- One round of the loop, and then again. -/
def notedRound (again : List Char → Run S (List α)) (typed : List Char) : Run S (List α) := do
  let shell ← get
  if shell.exitRequested then
    flush typed
    return []
  else
    return notes.reading shell ++ (← notedRead app engine notes rawMode again typed (← readKey))

/-- The loop, with what is noted for its result. -/
def notedLoop : Nat → List Char → Run S (List α)
  | 0, typed => do
    flush typed
    return []
  | n + 1, typed => notedRound app engine notes rawMode (notedLoop n) typed

/-- Without the notes it is the loop. -/
lemma map_notedLoop (n : Nat) (typed : List Char) :
    (fun _ => ()) <$> notedLoop app engine notes rawMode n typed =
      loop app engine rawMode n typed := by
  induction n generalizing typed with
  | zero => simp [notedLoop, loop]
  | succ n ih =>
    rw [notedLoop, notedRound, loop, map_bind]
    congr 1
    funext shell
    rw [apply_ite (Functor.map _)]
    congr 1
    · simp
    · rw [map_bind]
      congr 1
      funext read
      cases read with
      | exhausted => simp [notedRead]
      | broken => simp [notedRead, ← ih]
      | key key =>
        simp only [notedRead, bind_assoc, map_bind]
        congr 1
        funext shell
        cases bindingOf shell rawMode key with
        | some b => simp [notedKey, ← ih]
        | none =>
          simp only [notedKey, bind_assoc]
          congr 1
          funext shell
          split_ifs <;> simp [← ih]

end Loop

section Loop

variable {α : Type} {notes : Notes S α} {rawMode : Bool} {again : List Char → Run S (List α)}
  {n : Nat} {key : Key} {keys : List Key} {shell : Shell S}

/-- With less than so many keys in the queue, it is the session. -/
def IsNotedSession (notes : Notes S α) (app : Application S)
    (structured : S.Command → Structured S) (rawMode : Bool) (n : Nat)
    (r : List Char → Run S (List α)) : Prop :=
  ∀ ⦃keys : List Key⦄, keys.length < n → ∀ ⦃shell : Shell S⦄, shell.Calm →
    shell.console.queue = keys.map .key → ∀ typed : List Char,
      Leads (r typed) shell (shell.view.noted notes app structured rawMode keys typed)
        (shell.view.session app structured rawMode keys typed).1
        (shell.view.session app structured rawMode keys typed).2

/-- A key that is bound, after the characters before it were typed. -/
lemma IsNotedSession.bound (hagain : IsNotedSession notes app structured rawMode n again)
    (happ : app.IsPlain structured)
    (hengine : ∀ races t, Does (engine.submit races t) (modify (Shell.submitted app structured)))
    (hn : keys.length < n) (hcalm : shell.Calm) (hqueue : shell.console.queue = keys.map .key)
    (typed : List Char) (b : KeyBinding S.Handler) :
    let flushed := shell.view.edited (.insert typed.reverse)
    let pressed := flushed.pressed app structured key b
    Leads (notedKey app engine notes again typed key (some b)) shell
      (notes.pressing b flushed ++ pressed.noted notes app structured rawMode keys [])
      (pressed.session app structured rawMode keys []).1
      (pressed.session app structured rawMode keys []).2 := by
  refine (does_flush typed).bind_leads hcalm hqueue fun flushed hcalm hflushed hqueue => ?_
  show Leads (do
    inScope fun t => binding app engine key t b
    return notes.pressing b flushed ++ (← again [])) flushed _ _ _
  rw [← hflushed, notes.pressing_view]
  refine (does_binding happ hengine key b).bind_leads hcalm hqueue
    fun pressed hcalm hpressed hqueue => ?_
  have hrest := hagain hn hcalm hqueue []
  rw [hpressed] at hrest
  exact hrest.map _

/-- The character of a key that is not bound is put by. It is typed right away if it is the last. -/
lemma IsNotedSession.free (hagain : IsNotedSession notes app structured rawMode n again)
    (hn : keys.length < n) (hcalm : shell.Calm) (hqueue : shell.console.queue = keys.map .key)
    (typed : List Char) :
    let typed' := key.character?.toList ++ typed
    Leads (notedKey app engine notes again typed key none) shell
      (if keys.isEmpty then
        (shell.view.edited (.insert typed'.reverse)).noted notes app structured rawMode keys []
      else shell.view.noted notes app structured rawMode keys typed')
      (shell.view.session app structured rawMode keys typed').1
      (shell.view.session app structured rawMode keys typed').2 := by
  have havailable : shell.console.isKeyAvailable = !keys.isEmpty := by
    rw [Console.isKeyAvailable, hqueue, List.isEmpty_map]
  show Leads (if shell.console.isKeyAvailable then _ else _) shell _ _ _
  rw [havailable]
  cases keys with
  | cons next keys => exact hagain hn hcalm hqueue _
  | nil =>
    -- the session types the character when it ends, and it ends here
    refine (does_flush _).bind_leads hcalm hqueue fun flushed hcalm hflushed hqueue => ?_
    have hrest := hagain hn hcalm hqueue []
    rw [Shell.session, List.reverse_nil, Shell.edited_insert_nil, hflushed] at hrest
    exact hrest

/-- One round, with one event more than the rounds after it may read. -/
lemma IsNotedSession.round (hagain : IsNotedSession notes app structured rawMode n again)
    (happ : app.IsPlain structured)
    (hengine : ∀ races t, Does (engine.submit races t) (modify (Shell.submitted app structured))) :
    IsNotedSession notes app structured rawMode (n + 1)
      (notedRound app engine notes rawMode again) := by
  intro keys hn shell hcalm hqueue typed
  show Leads (if shell.exitRequested then _ else _) shell _ _ _
  by_cases hexit : shell.exitRequested
  · have hview : shell.view.exitRequested = true := hexit
    rw [if_pos hexit, Shell.session_of_exitRequested hview, Shell.noted_of_exitRequested hview]
    exact ((does_flush typed).leads hcalm hqueue).map fun _ => []
  rw [if_neg hexit]
  cases keys with
  | nil =>
    obtain ⟨shell', hread, hcalm', hview', hqueue'⟩ := readKey_of_nil hcalm hqueue
    have hnoted : shell.view.noted notes app structured rawMode [] typed =
        notes.reading shell ++ [] := by
      rw [Shell.noted, if_neg (show ¬ shell.view.exitRequested = true from hexit),
        notes.reading_view, List.append_nil]
    have hflush : Leads (flush typed) shell' () _ [] := (does_flush typed).leads hcalm' hqueue'
    rw [hview'] at hflush
    rw [Leads, bind_of_ok hread, hnoted]
    exact (hflush.map fun _ => ([] : List α)).map (notes.reading shell ++ ·)
  | cons key keys =>
    obtain ⟨shell', hread, hcalm', hview', hqueue'⟩ := readKey_of_cons hcalm hqueue
    have hlength : keys.length < n := Nat.lt_of_succ_lt_succ hn
    have hsession : shell.view.session app structured rawMode (key :: keys) typed = _ :=
      if_neg hexit
    have hnoted : shell.view.noted notes app structured rawMode (key :: keys) typed = _ :=
      if_neg hexit
    -- reading the key has only changed the queue and the tokens, which are not in view
    rw [Leads, bind_of_ok hread, hsession, hnoted, notes.reading_view, ← hview']
    show Leads ((notes.reading shell ++ ·) <$>
      notedKey app engine notes again typed key (bindingOf shell'.view _ _)) shell' _ _ _
    refine Leads.map ?_ _
    cases bindingOf shell'.view rawMode key with
    | some b => exact hagain.bound happ hengine hlength hcalm' hqueue' typed b
    | none => exact hagain.free hlength hcalm' hqueue' typed

/-- The loop is the session, as long as it may read one event more than there are. The induction is
on the number of events that it may read. -/
lemma isNotedSession_notedLoop (happ : app.IsPlain structured)
    (hengine : ∀ races t, Does (engine.submit races t) (modify (Shell.submitted app structured)))
    (n : Nat) :
    IsNotedSession notes app structured rawMode n (notedLoop app engine notes rawMode n) := by
  induction n with
  | zero => exact fun _ hn => absurd hn (Nat.not_lt_zero _)
  | succ n ih => exact ih.round happ hengine

end Loop

/-! ### The whole run -/

/-- The keys that have come in are read and handled, with what is noted for the result. -/
def notedKeys {α : Type} (app : Application S) (notes : Notes S α) (rawMode : Bool) :
    Run S (List α) := do
  notedLoop app (.standard app) notes rawMode ((← get).console.queue.length + 1) []

/-- Switches to raw mode if that is set. The result holds the settings to give back, if that went
well. -/
def acquireMode : Run S (Option String) := do
  if (← get).config.rawMode then onModeProgram (·.acquire) else return none

/-- No more than the program for the mode is changed, and without raw mode not even that. -/
lemma exists_acquireMode (shell : Shell S) :
    ∃ saved program, acquireMode shell = .ok saved { shell with modeProgram := program } ∧
      (shell.config.rawMode = false → saved = none) := by
  have hif : acquireMode shell = (if shell.config.rawMode then onModeProgram (·.acquire)
    else return none : Run S (Option String)) shell := rfl
  rw [hif]
  cases shell.config.rawMode with
  | true => exact ⟨_, _, rfl, fun h => absurd h.symm Bool.false_ne_true⟩
  | false => exact ⟨none, shell.modeProgram, rfl, fun _ => rfl⟩

/-- A run with the settings of the terminal given back after it, however it ends. -/
def restoring {α : Type} (saved : Option String) (r : Run S α) : Run S α := fun shell =>
  match r shell with
  | .ok a shell => .ok a { shell with modeProgram := shell.modeProgram.restore saved }
  | .error halt shell => .error halt { shell with modeProgram := shell.modeProgram.restore saved }

lemma map_restoring {α β : Type} (saved : Option String) (r : Run S α) (f : α → β) :
    f <$> restoring saved r = restoring saved (f <$> r) := by
  funext shell
  show EStateM.map f (restoring saved r) shell = restoring saved (EStateM.map f r) shell
  rw [EStateM.map, restoring, restoring, EStateM.map]
  cases r shell <;> rfl

lemma all_eq (app : Application S) :
    all app = (do
      signalReady app (.standard app) []
      let saved ← acquireMode
      restoring saved (Run.keys app saved.isSome)) := by
  simp only [all, acquireMode, bind_assoc]
  congr 1
  funext _
  congr 1
  funext shell
  split_ifs <;>
    · congr 1
      funext saved shell
      rw [restoring]
      cases Run.keys app saved.isSome shell <;> rfl

/-- The whole run, with what is noted for its result. -/
def notedAll {α : Type} (app : Application S) (notes : Notes S α) : Run S (List α) := do
  signalReady app (.standard app) []
  let saved ← acquireMode
  restoring saved (notedKeys app notes saved.isSome)

section Run

variable {α : Type} (notes : Notes S α)

/-- Without the notes it is the whole run. -/
lemma map_notedAll (app : Application S) :
    (fun _ => ()) <$> notedAll app notes = all app := by
  have hkeys : ∀ rawMode, (fun _ => ()) <$> notedKeys app notes rawMode = Run.keys app rawMode := by
    intro rawMode
    funext shell
    exact congrFun (map_notedLoop app (.standard app) notes rawMode _ []) shell
  simp only [notedAll, all_eq, map_bind, map_restoring, hkeys]

lemma notedKeys_leads (happ : app.IsPlain structured) (rawMode : Bool) {shell : Shell S}
    (hcalm : shell.Calm) {keys : List Key} (hqueue : shell.console.queue = keys.map .key) :
    Leads (notedKeys app notes rawMode) shell
      (shell.view.noted notes app structured rawMode keys [])
      (shell.view.session app structured rawMode keys []).1
      (shell.view.session app structured rawMode keys []).2 := by
  have hlength : keys.length < shell.console.queue.length + 1 := by
    rw [hqueue, List.length_map]
    exact Nat.lt_succ_self _
  exact isNotedSession_notedLoop happ (fun races t => does_submit happ _ races t) _ hlength hcalm
    hqueue []

/-- The whole run is readiness and then the session. Without raw mode, none of its chords work. -/
theorem notedAll_leads (happ : app.IsPlain structured) {shell : Shell S} (hcalm : shell.Calm)
    {keys : List Key} (hqueue : shell.console.queue = keys.map .key) :
    ∃ rawMode, ((shell.view.announced app).config.rawMode = false → rawMode = false) ∧
      Leads (notedAll app notes) shell
        ((shell.view.announced app).noted notes app structured rawMode keys [])
        ((shell.view.announced app).session app structured rawMode keys []).1
        ((shell.view.announced app).session app structured rawMode keys []).2 := by
  obtain ⟨ready, hrun, hcalm', hview, hqueue'⟩ :=
    (does_signalReady happ (.standard app) []).leads hcalm hqueue
  obtain ⟨saved, program, hmode, hraw⟩ := exists_acquireMode ready
  have hset : ({ ready with modeProgram := program } : Shell S).Calm :=
    ⟨hcalm'.refusals, hcalm'.quiet⟩
  obtain ⟨shell', hkeys, hcalm'', hrest⟩ := notedKeys_leads notes happ saved.isSome hset hqueue'
  rw [show Shell.view { ready with modeProgram := program } = ready.view from rfl, hview]
    at hkeys hrest
  refine ⟨saved.isSome, ?_, ?_⟩
  · intro hconfig
    rw [← hview] at hconfig
    rw [hraw hconfig]
    rfl
  · refine ⟨{ shell' with modeProgram := shell'.modeProgram.restore saved }, ?_,
      ⟨hcalm''.refusals, hcalm''.quiet⟩, hrest⟩
    rw [notedAll, bind_of_ok hrun, bind_of_ok hmode, restoring, hkeys]

end Run

/-- Without raw mode, none of its chords work. -/
theorem all_leads (happ : app.IsPlain structured) {shell : Shell S} (hcalm : shell.Calm)
    (hraw : (shell.view.announced app).config.rawMode = false) {keys : List Key}
    (hqueue : shell.console.queue = keys.map .key) :
    Leads (all app) shell () ((shell.view.announced app).session app structured false keys []).1
      ((shell.view.announced app).session app structured false keys []).2 := by
  obtain ⟨rawMode, hmode, hleads⟩ := notedAll_leads .submissions happ hcalm hqueue
  obtain rfl := hmode hraw
  rw [← map_notedAll .submissions]
  exact hleads.map fun _ => ()

end Run

end LineShell
