import LineShell.Proofs.Shell.OtherKeys

/-!
# Walking around the ring of candidates

The first completion key collects the candidates for the line at hand, and each further one steps on
among them: which candidate is in the line depends on nothing but the number of keys in either
direction and on the direction of the first one. The parts of the line around the candidate stay
those of the line in which the first key was pressed.
-/

namespace LineShell

variable {S : Signature} {α β : Type}

/-! ### Where a key leads in the ring -/

/-- How far a key goes around the ring, forwards. -/
def Direction.stride : Direction → Int
  | .forward => 1
  | .backward => -1

/-- The index of the candidate in the line after some completion keys, but for whole turns. -/
def ringPlace (ds : List Direction) : Int :=
  ds.count .forward - ds.count .backward - if ds.head? = some .forward then 1 else 0

lemma ringPlace_concat {ds : List Direction} (h : ds ≠ []) (d : Direction) :
    ringPlace (ds ++ [d]) = ringPlace ds + d.stride := by
  have hhead : (ds ++ [d]).head? = ds.head? := by
    cases ds with
    | nil => exact absurd rfl h
    | cons first ds => rfl
  rw [ringPlace, ringPlace, hhead, List.count_append, List.count_append]
  cases d with
  | forward =>
    rw [List.count_singleton_self, List.count_singleton, if_neg (by decide), Direction.stride]
    omega
  | backward =>
    rw [List.count_singleton_self, List.count_singleton, if_neg (by decide), Direction.stride]
    omega

namespace Completion

/-- The ring closes in both directions. -/
lemma index_step {c : Completion} (h : c.index < c.candidates.length) (d : Direction) :
    ((c.step d).index : Int) = (c.index + d.stride) % c.candidates.length := by
  cases d with
  | forward =>
    show (((c.index + 1) % c.candidates.length : Nat) : Int) = (c.index + 1) % _
    rw [Int.natCast_emod]
    rfl
  | backward =>
    show (((c.index + c.candidates.length - 1) % c.candidates.length : Nat) : Int) =
      (c.index + -1) % _
    have hcast : ((c.index + c.candidates.length - 1 : Nat) : Int) =
        c.index + -1 + c.candidates.length := by omega
    rw [Int.natCast_emod, hcast, Int.add_emod_right]

/-- A completion begins with the first candidate, or with the last one. -/
lemma index_start {e : Editor} {line : Line} {candidates : List String} {d : Direction}
    {c : Completion} (h : start? e line candidates d = some c) :
    (c.index : Int) = ringPlace [d] % c.candidates.length := by
  unfold start? at h
  by_cases hempty : candidates.isEmpty = true
  · rw [if_pos hempty] at h
    cases h
  have hpos : 0 < candidates.length := List.length_pos_iff.mpr (by simpa using hempty)
  rw [if_neg hempty] at h
  obtain rfl := Option.some.inj h
  cases d with
  | forward =>
    have hplace : ringPlace [.forward] = 0 := by decide
    rw [hplace]
    rfl
  | backward =>
    have hplace : ringPlace [.backward] = -1 := by decide
    have hlast : (-1 : Int) % candidates.length = candidates.length - 1 := by
      rw [← Int.add_emod_right, Int.emod_eq_of_lt (by omega) (by omega)]
      omega
    rw [hplace, hlast]
    show ((candidates.length - 1 : Nat) : Int) = _
    omega

end Completion

/-! ### Keys that succeed -/

namespace Run

variable {app : Application S} {engine : Engine S} {shell after : Shell S} {d : Direction}

lemma exists_of_bind_eq_ok {r : Run S α} {k : α → Run S β} {b : β}
    (h : (r >>= k) shell = .ok b after) :
    ∃ a middle, r shell = .ok a middle ∧ k a middle = .ok b after := by
  have hbind : EStateM.bind r k shell = .ok b after := h
  rw [EStateM.bind] at hbind
  cases hr : r shell with
  | ok a middle =>
    rw [hr] at hbind
    exact ⟨a, middle, rfl, hbind⟩
  | error halt middle =>
    rw [hr] at hbind
    cases hbind

/-- An edit that succeeds has done to the line what it does. -/
lemma exists_of_edit_eq_ok {edit : Edit} (h : onTerminal edit.run shell = .ok () after) :
    ∃ console, after = { shell with terminal := ⟨console, edit.apply shell.editor⟩ } := by
  have hsettles := edit.run_settles shell.terminal
  rw [onTerminal] at h
  generalize edit.run shell.terminal = x at hsettles h
  cases hsettles with
  | ok a hqueue => exact ⟨_, (EStateM.Result.ok.inj h).2.symm⟩
  | failure f hqueue hcuts => cases h

/-- A completion key that succeeds has put the next candidate into the line, whatever else the
console may refuse. -/
lemma complete_ok (h : complete app d shell = .ok () after) :
    after.completion = shell.nextCompletion app d ∧
      ∀ c, shell.nextCompletion app d = some c →
        after.editor.buffer = c.line ∧ after.editor.caret = c.caret := by
  rw [complete_eq] at h
  cases hnext : shell.nextCompletion app d with
  | none =>
    rw [hnext] at h
    obtain ⟨-, rfl⟩ := EStateM.Result.ok.inj h
    exact ⟨rfl, fun c hc => by cases hc⟩
  | some c =>
    rw [hnext] at h
    obtain ⟨⟨⟩, middle, hset, hmove⟩ := exists_of_bind_eq_ok h
    obtain ⟨console, rfl⟩ :=
      exists_of_edit_eq_ok (show onTerminal (Edit.setInput (.ofList c.line)).run _ = _ from hset)
    obtain ⟨console', rfl⟩ :=
      exists_of_edit_eq_ok (show onTerminal (Edit.move (.position c.caret)).run _ = _ from hmove)
    refine ⟨rfl, fun c' hc' => ?_⟩
    obtain rfl := Option.some.inj hc'
    have hcaret : min c.caret c.line.length = c.caret := by
      -- the caret is behind the candidate, hence within the line, and is not clamped
      simp only [Completion.line, Completion.caret, List.length_append]
      omega
    have hbuffer : (String.ofList c.line).toList = c.line := String.toList_ofList
    refine ⟨hbuffer, ?_⟩
    show min c.caret (String.ofList c.line).toList.length = c.caret
    rw [hbuffer, hcaret]

end Run

/-! ### Keys one after the other -/

/-- Nothing has happened to the completion and to the line with its caret. -/
structure Shell.SameRing (before after : Shell S) : Prop where
  completion : after.completion = before.completion
  buffer : after.editor.buffer = before.editor.buffer
  caret : after.editor.caret = before.editor.caret

/-- Some completion keys were pressed, and each of them has done its work. When the first one was
pressed, no completion was in progress. After each of them anything may have happened that leaves
completion, line and caret as they are. The later keys may even find other commands than the first
one did. -/
inductive Shell.Cycles (app : Application S) (shell : Shell S) :
    List Direction → Shell S → Prop
  | first {d : Direction} {done after : Shell S} (hfresh : shell.inProgress? = none)
    (hrun : Run.complete app d shell = .ok () done) (hafter : done.SameRing after) :
    Cycles app shell [d] after
  | next {ds : List Direction} {d : Direction} {app' : Application S} {before done after : Shell S}
    (h : Cycles app shell ds before) (hrun : Run.complete app' d before = .ok () done)
    (hafter : done.SameRing after) : Cycles app shell (ds ++ [d]) after

namespace Shell

variable {app : Application S} {shell before after : Shell S} {ds : List Direction} {d : Direction}

lemma SameRing.inProgress?_eq (h : before.SameRing after) :
    after.inProgress? = before.inProgress? := by
  rw [inProgress?, inProgress?, h.completion]
  congr 1
  funext c
  rw [Completion.isIn, Completion.isIn, h.buffer, h.caret]

lemma SameRing.trans (h : shell.SameRing before) (h' : before.SameRing after) :
    shell.SameRing after :=
  ⟨h'.completion.trans h.completion, h'.buffer.trans h.buffer, h'.caret.trans h.caret⟩

lemma Cycles.andThen (h : shell.Cycles app ds before) (h' : before.SameRing after) :
    shell.Cycles app ds after := by
  cases h with
  | first hfresh hrun hafter => exact .first hfresh hrun (hafter.trans h')
  | next h hrun hafter => exact .next h hrun (hafter.trans h')

lemma Cycles.ne_nil (h : shell.Cycles app ds after) : ds ≠ [] := by
  cases h with
  | first => exact List.cons_ne_nil _ _
  | next => exact List.append_ne_nil_of_right_ne_nil _ (List.cons_ne_nil _ _)

/-- The completion is in progress. -/
lemma inProgress?_of_complete {c : Completion} {done : Shell S}
    (hrun : Run.complete app d before = .ok () done) (hnext : before.nextCompletion app d = some c)
    (hafter : done.SameRing after) : after.inProgress? = some c := by
  obtain ⟨hcompletion, hline⟩ := Run.complete_ok hrun
  obtain ⟨hbuffer, hcaret⟩ := hline c hnext
  rw [hafter.inProgress?_eq, inProgress?, hcompletion, hnext, Option.filter_some, if_pos]
  simp [Completion.isIn, hbuffer, hcaret]

/-- The run lemma: the completion in progress is the one that the first key began, but for the
index. The step is that a key steps on in the completion in progress. -/
lemma Cycles.exists_inProgress? (h : shell.Cycles app ds after)
    (hne : shell.suggestions app shell.currentLine ≠ []) :
    ∃ c, after.inProgress? = some c ∧
      c.candidates = shell.suggestions app shell.currentLine ∧ c.Fills shell.currentLine ∧
      (c.index : Int) = ringPlace ds % c.candidates.length := by
  induction h with
  | @first d done after hfresh hrun hafter =>
    obtain ⟨c, hstart, hcandidates, hfills⟩ := Completion.exists_start hne d
    have hnext : shell.nextCompletion app d = some c := by
      rw [nextCompletion_eq, hfresh]
      exact hstart
    exact ⟨c, inProgress?_of_complete hrun hnext hafter, hcandidates, hfills,
      Completion.index_start hstart⟩
  | @next ds d app' before done after h hrun hafter ih =>
    obtain ⟨c, hprogress, hcandidates, hfills, hindex⟩ := ih
    have hnext : before.nextCompletion app' d = some (c.step d) := by
      rw [nextCompletion_eq, hprogress]
    refine ⟨c.step d, inProgress?_of_complete hrun hnext hafter, hcandidates, hfills.step d, ?_⟩
    rw [Completion.index_step hfills.index_lt, ringPlace_concat h.ne_nil, hindex,
      Int.emod_add_emod]
    rfl

end Shell

/-! ### Keys from the queue -/

namespace Run

variable {app : Application S} {engine : Engine S} {rawMode : Bool} {shell : Shell S}
  {ds : List Direction} {d : Direction}

lemma inScope_of_ok (body : Token → Run S Unit) {after : Shell S}
    (h : body shell.breaks.start.1 { shell with breaks := shell.breaks.start.2 } = .ok () after) :
    ∃ breaks, inScope body shell = .ok () { after with breaks } := by
  let t := shell.breaks.start.1
  have hopen : openScope shell = .ok t { shell with breaks := shell.breaks.start.2 } := rfl
  have hcaught : caught (body t) { shell with breaks := shell.breaks.start.2 } =
      .ok (.ok ()) after := by
    rw [caught, h]
  refine ⟨after.breaks.close t, ?_⟩
  rw [inScope_eq, bind_of_ok hopen, bind_of_ok hcaught]
  rfl

/-- One round of the loop in which a bound key is read. -/
lemma exists_loop_eq (hexit : shell.exitRequested = false) {key : Key} {rest : List Event}
    (hqueue : shell.console.queue = .key key :: rest) {b : KeyBinding S.Handler}
    (hbound : bindingOf shell rawMode key = some b) (app : Application S) (engine : Engine S)
    (n : Nat) :
    ∃ breaks, loop app engine rawMode (n + 1) [] shell = (do
        inScope fun t => binding app engine key t b
        loop app engine rawMode n [])
      { shell.withConsole { shell.console with queue := rest } with breaks } := by
  let breaks := shell.breaks.start.2.close shell.breaks.start.1
  let read : Shell S := { shell.withConsole { shell.console with queue := rest } with breaks }
  have hread : readKey shell = .ok (.key key) read := readKey_eq_of_cons hqueue
  have hbound' : bindingOf read rawMode key = some b := hbound
  have hget : ∀ (k : Shell S → Run S Unit) (s : Shell S), (get >>= k) s = k s s := fun _ _ => rfl
  refine ⟨breaks, ?_⟩
  rw [loop]
  show (if shell.exitRequested then flush [] else readKey >>= _ : Run S Unit) shell = _
  rw [if_neg (by simp [hexit]), bind_of_ok hread]
  dsimp only
  rw [hget, hbound']
  rfl

/-- What a completion key leaves as it is, on a console that refuses nothing. -/
lemma exists_complete_kept (app : Application S) (hrefusals : shell.console.refusals = [])
    (d : Direction) :
    ∃ done, complete app d shell = .ok () done ∧ done.console.refusals = [] ∧
      done.console.queue = shell.console.queue ∧ done.exitRequested = shell.exitRequested ∧
      done.keys = shell.keys := by
  obtain ⟨record, hrun⟩ := exists_complete app hrefusals d
  have hkept : (shell.completed app d).console.queue = shell.console.queue ∧
      (shell.completed app d).exitRequested = shell.exitRequested ∧
      (shell.completed app d).keys = shell.keys := by
    rw [Shell.completed]
    split
    · exact ⟨rfl, rfl, rfl⟩
    · rw [Shell.queue_edited, Shell.queue_edited, Shell.exitRequested_edited,
        Shell.exitRequested_edited, Shell.keys_edited, Shell.keys_edited]
      exact ⟨rfl, rfl, rfl⟩
  exact ⟨_, hrun, (Shell.refusals_completed app shell d).trans hrefusals, hkept⟩

/-- One round of the loop in which a completion key is read. -/
lemma exists_round (hrefusals : shell.console.refusals = []) (hexit : shell.exitRequested = false)
    {key : Key} {rest : List Event} (hqueue : shell.console.queue = .key key :: rest)
    (hbound : bindingOf shell rawMode key = some (.action d.action)) (app : Application S)
    (engine : Engine S) (n : Nat) :
    ∃ breaks done after,
      complete app d { shell.withConsole { shell.console with queue := rest } with breaks } =
        .ok () done ∧
      done.SameRing after ∧ after.console.refusals = [] ∧ after.exitRequested = false ∧
      after.console.queue = rest ∧ after.keys = shell.keys ∧
      loop app engine rawMode (n + 1) [] shell = loop app engine rawMode n [] after := by
  obtain ⟨breaks, hround⟩ := exists_loop_eq hexit hqueue hbound app engine n
  let read : Shell S := { shell.withConsole { shell.console with queue := rest } with breaks }
  let before : Shell S := { read with breaks := breaks.start.2 }
  have hbinding : ∀ t, binding app engine key t (.action d.action) = complete app d := by
    intro t
    cases d <;> rfl
  have hbefore : before.console.refusals = [] := hrefusals
  obtain ⟨done, hrun, hrefusals', hqueue', hexit', htable⟩ := exists_complete_kept app hbefore d
  have hbody : binding app engine key read.breaks.start.1 (.action d.action)
      { read with breaks := read.breaks.start.2 } = .ok () done :=
    (congrFun (hbinding _) before).trans hrun
  obtain ⟨breaks', hscope⟩ :=
    inScope_of_ok (fun t => binding app engine key t (.action d.action)) hbody
  refine ⟨breaks.start.2, done, { done with breaks := breaks' }, hrun, ⟨rfl, rfl, rfl⟩, hrefusals',
    hexit'.trans hexit, hqueue', htable, ?_⟩
  exact hround.trans (bind_of_ok hscope _)

/-- The induction is on the completion keys in the queue. -/
lemma exists_loop_cycles {first : Shell S} {keys : List Key} {rest : List Event}
    {pressed : List Direction} (hcycles : first.Cycles app pressed shell)
    (hrefusals : shell.console.refusals = []) (hexit : shell.exitRequested = false)
    (hqueue : shell.console.queue = keys.map .key ++ rest)
    (hbound : keys.map (bindingOf shell rawMode) = ds.map fun d => some (.action d.action))
    (engine : Engine S) :
    ∃ after, loop app engine rawMode keys.length [] shell = .ok () after ∧
      first.Cycles app (pressed ++ ds) after ∧ after.console.queue = rest := by
  induction keys generalizing shell pressed ds with
  | nil =>
    obtain rfl : ds = [] := List.map_eq_nil_iff.mp hbound.symm
    rw [List.append_nil]
    exact ⟨shell, rfl, hcycles, hqueue⟩
  | cons key keys ih =>
    cases ds with
    | nil => cases hbound
    | cons d ds =>
      obtain ⟨hkey, hkeys⟩ := List.cons.inj hbound
      obtain ⟨breaks, done, after, hrun, hsame, hrefusals', hexit', hqueue', htable, hround⟩ :=
        exists_round hrefusals hexit hqueue hkey app engine keys.length
      let before : Shell S :=
        { shell.withConsole { shell.console with queue := keys.map .key ++ rest } with breaks }
      -- reading the key opens and closes a scope, which leaves the ring as it is
      have hbefore : first.Cycles app pressed before := hcycles.andThen ⟨rfl, rfl, rfl⟩
      have hbound' : keys.map (bindingOf after rawMode) =
          ds.map fun d => some (.action d.action) := by
        rw [← hkeys]
        exact List.map_congr_left fun key _ => bindingOf_congr htable rawMode key
      obtain ⟨last, hloop, hlast, hrest⟩ :=
        ih (.next hbefore hrun hsame) hrefusals' hexit' hqueue' hbound'
      rw [List.append_assoc] at hlast
      exact ⟨last, hround.trans hloop, hlast, hrest⟩

end Run

/-! ### The ring -/

namespace Shell

variable {app : Application S} {rawMode : Bool} {shell after : Shell S} {ds : List Direction}

/-- The candidate in the line, and the parts of the line around it. -/
lemma Cycles.exists_candidate (h : shell.Cycles app ds after)
    (hne : shell.suggestions app shell.currentLine ≠ []) :
    let candidates := shell.suggestions app shell.currentLine
    let before := shell.editor.buffer.take shell.currentLine.slotStart
    let behind := shell.editor.buffer.drop shell.currentLine.slotStop
    ∃ (k : Nat) (x : String), (k : Int) = ringPlace ds % candidates.length ∧
      candidates[k]? = some x ∧ after.completion = some ⟨candidates, k, before, behind⟩ ∧
      after.editor.buffer = before ++ (quote x).toList ++ behind ∧
      after.editor.caret = before.length + (quote x).length := by
  intro candidates before behind
  obtain ⟨c, hprogress, hcandidates, hfills, hindex⟩ := h.exists_inProgress? hne
  obtain ⟨x, hx, hcandidate⟩ := hfills.exists_candidate
  obtain ⟨hcompletion, hin⟩ := Option.filter_eq_some_iff.mp hprogress
  obtain ⟨hbuffer, hcaret⟩ : after.editor.buffer = c.line ∧ after.editor.caret = c.caret := by
    simpa [Completion.isIn] using hin
  have htext : shell.currentLine.text.toList = shell.editor.buffer := String.toList_ofList
  have hbefore : c.before = before := by rw [hfills.before_eq, htext]
  have hbehind : c.after = behind := by rw [hfills.after_eq, htext]
  rw [hcandidates] at hx hindex
  refine ⟨c.index, x, hindex, hx, ?_, ?_, ?_⟩
  · rw [hcompletion, ← hbefore, ← hbehind]
    exact congrArg (fun candidates => some (Completion.mk candidates c.index c.before c.after))
      hcandidates
  · rw [hbuffer, Completion.line, hcandidate, hbefore, hbehind]
  · rw [hcaret, Completion.caret, hcandidate, hbefore, String.length_toList]

/-- Completion keys out of the queue do their work one after the other. -/
lemma exists_cycles {key : Key} {keys : List Key} {rest : List Event}
    (hrefusals : shell.console.refusals = []) (hexit : shell.exitRequested = false)
    (hfresh : shell.inProgress? = none)
    (hqueue : shell.console.queue = (key :: keys).map .key ++ rest)
    (hbound : (key :: keys).map (Run.bindingOf shell rawMode) =
      ds.map fun d => some (.action d.action)) (engine : Engine S) :
    ∃ breaks after,
      let first : Shell S := { shell.withConsole
        { shell.console with queue := keys.map .key ++ rest } with breaks }
      Run.loop app engine rawMode (key :: keys).length [] shell = .ok () after ∧
        first.Cycles app ds after ∧ after.console.queue = rest := by
  cases ds with
  | nil => cases hbound
  | cons d ds =>
    obtain ⟨hkey, hkeys⟩ := List.cons.inj hbound
    obtain ⟨breaks, done, before, hrun, hsame, hrefusals', hexit', hqueue', htable, hround⟩ :=
      Run.exists_round hrefusals hexit hqueue hkey app engine keys.length
    let first : Shell S := { shell.withConsole
      { shell.console with queue := keys.map .key ++ rest } with breaks }
    have hfirst : first.Cycles app [d] before := .first hfresh hrun hsame
    have hbound' : keys.map (Run.bindingOf before rawMode) =
        ds.map fun d => some (.action d.action) := by
      rw [← hkeys]
      exact List.map_congr_left fun key _ => Run.bindingOf_congr htable rawMode key
    obtain ⟨after, hloop, hcycles, hrest⟩ :=
      Run.exists_loop_cycles hfirst hrefusals' hexit' hqueue' hbound' engine
    exact ⟨breaks, after, hround.trans hloop, hcycles, hrest⟩

/-- After other keys, the completion is in progress if line and caret are as it left them and no
line was submitted; otherwise none is. -/
lemma inProgress?_after_others {c : Completion} {n : Nat} (hc : shell.completion = some c)
    (hothers : shell.ExpectsNoCompletion rawMode n)
    (hends : Run.loop app (.standard app) rawMode n [] shell = .ok () after ∨
      ∃ f, Run.loop app (.standard app) rawMode n [] shell = .error (.failure f) after) :
    (after.editor.buffer = c.line ∧ after.editor.caret = c.caret ∧
        Run.SubmitsNothing app rawMode n shell → after.inProgress? = some c) ∧
      (¬ (after.editor.buffer = c.line ∧ after.editor.caret = c.caret ∧
        Run.SubmitsNothing app rawMode n shell) → after.inProgress? = none) := by
  obtain ⟨x, hrun, hending, hstuck⟩ : ∃ x, Run.loop app (.standard app) rawMode n [] shell = x ∧
      ending x = after ∧ ∀ s, x ≠ .error .stuck s := by
    rcases hends with h | ⟨f, h⟩
    · exact ⟨.ok () after, h, rfl, fun _ hstuck => by cases hstuck⟩
    · exact ⟨.error (.failure f) after, h, rfl, fun _ hstuck => by cases hstuck⟩
  obtain ⟨hkept, hforgotten⟩ := Run.completion_after_others hothers hrun hstuck
  rw [hending] at hkept hforgotten
  have hin : c.isIn after.editor ↔
      after.editor.buffer = c.line ∧ after.editor.caret = c.caret := by
    simp [Completion.isIn]
  constructor
  · rintro ⟨hbuffer, hcaret, hnothing⟩
    rw [inProgress?, hkept hnothing, hc, Option.filter_some, if_pos (hin.mpr ⟨hbuffer, hcaret⟩)]
  · intro hchanged
    by_cases hnothing : Run.SubmitsNothing app rawMode n shell
    · have hout : ¬ c.isIn after.editor := fun h =>
        hchanged ⟨(hin.mp h).1, (hin.mp h).2, hnothing⟩
      rw [inProgress?, hkept hnothing, hc, Option.filter_some, if_neg hout]
    · rw [inProgress?, hforgotten hnothing]
      rfl

/-- The ring of candidates.

The first completion key collects the candidates for the line at hand. After it and after each
further one, the line is what it was around the slot of the caret, with one candidate in the slot
and the caret behind it; the index of the candidate is told by the number of keys in either
direction.

On a console that refuses nothing, completion keys out of the queue do just that.

After other keys, the next completion key steps on in the ring if line and caret are as the
completion left them and no line was submitted. Otherwise, and only then, it collects candidates
anew. -/
theorem completion_ring (app : Application S) (rawMode : Bool) (shell : Shell S) :
    (∀ ds after, shell.Cycles app ds after →
      let candidates := shell.suggestions app shell.currentLine
      let before := shell.editor.buffer.take shell.currentLine.slotStart
      let behind := shell.editor.buffer.drop shell.currentLine.slotStop
      candidates ≠ [] → ∃ (k : Nat) (x : String),
        (k : Int) = (ds.count .forward - ds.count .backward -
          if ds.head? = some .forward then 1 else 0) % candidates.length ∧
        candidates[k]? = some x ∧
        after.completion = some ⟨candidates, k, before, behind⟩ ∧
        after.editor.buffer = before ++ (quote x).toList ++ behind ∧
        after.editor.caret = before.length + (quote x).length) ∧
    (∀ key keys ds rest, shell.console.refusals = [] → shell.exitRequested = false →
      shell.inProgress? = none → shell.console.queue = (key :: keys).map .key ++ rest →
      (key :: keys).map (Run.bindingOf shell rawMode) =
        ds.map (fun d => some (.action d.action)) →
      ∃ breaks after,
        let first : Shell S := { shell.withConsole
          { shell.console with queue := keys.map .key ++ rest } with breaks }
        Run.loop app (.standard app) rawMode (key :: keys).length [] shell = .ok () after ∧
          first.Cycles app ds after ∧ after.console.queue = rest) ∧
    (∀ c n after, shell.completion = some c → shell.ExpectsNoCompletion rawMode n →
      (Run.loop app (.standard app) rawMode n [] shell = .ok () after ∨
        ∃ f, Run.loop app (.standard app) rawMode n [] shell = .error (.failure f) after) →
      ∀ app' d,
        (after.editor.buffer = c.line ∧ after.editor.caret = c.caret ∧
            Run.SubmitsNothing app rawMode n shell →
          after.nextCompletion app' d = some (c.step d)) ∧
        (¬ (after.editor.buffer = c.line ∧ after.editor.caret = c.caret ∧
            Run.SubmitsNothing app rawMode n shell) →
          after.nextCompletion app' d = Completion.start? after.editor after.currentLine
            (after.suggestions app' after.currentLine) d)) := by
  refine ⟨fun ds after hcycles => hcycles.exists_candidate, ?_, ?_⟩
  · intro key keys ds rest hrefusals hexit hfresh hqueue hbound
    exact exists_cycles hrefusals hexit hfresh hqueue hbound (.standard app)
  · intro c n after hc hothers hends app' d
    obtain ⟨hgoesOn, hstarts⟩ := inProgress?_after_others hc hothers hends
    rw [nextCompletion_eq]
    refine ⟨fun h => ?_, fun h => ?_⟩
    · rw [hgoesOn h]
    · rw [hstarts h]

/-- Two keys, and then the caret is moved to and fro, or a line is submitted that no command
takes. -/
theorem completion_ring_colours :
    let app : Application ⟨Unit, Empty, Unit⟩ := {
      command _ := {
        name := "", grammar := none
        canHandle _ := .done .notMine
        execute _ _ := .done ()
        suggest _ _ := ["red", "sky blue"], summary _ := none, details _ _ := none }
      handle h := h.elim }
    let shell (e : Editor) (completion : Option Completion) (codes : List KeyCode) :
        Shell ⟨Unit, Empty, Unit⟩ := {
      state := (), history := .inMemory 5, commands := [()], completion
      terminal := ⟨{ queue := codes.map fun code => .key { code } }, e⟩ }
    let blank : Editor := { buffer := "paint  on".toList, caret := 6 }
    let painted : Editor := { buffer := "paint \"sky blue\" on".toList, caret := 16 }
    let sky : Completion := ⟨["red", "sky blue"], 1, "paint ".toList, " on".toList⟩
    (∃ after, Run.loop app (.standard app) false 2 [] (shell blank none [.tab, .tab]) =
        .ok () after ∧ after.completion = some sky ∧
      after.editor.buffer = painted.buffer ∧ after.editor.caret = painted.caret) ∧
    (∃ after, Run.loop app (.standard app) false 2 [] (shell painted (some sky) [.left, .right]) =
        .ok () after ∧ after.nextCompletion app .forward = some (sky.step .forward)) ∧
    (∃ after, Run.loop app (.standard app) false 1 [] (shell painted (some sky) [.enter]) =
        .ok () after ∧ ¬ Run.SubmitsNothing app false 1 (shell painted (some sky) [.enter]) ∧
      after.nextCompletion app .forward = Completion.start? after.editor after.currentLine
        (after.suggestions app after.currentLine) .forward) := by
  intro app shell blank painted sky
  have hoffered : ∀ s : Shell ⟨Unit, Empty, Unit⟩, s.commands = [()] → ∀ line,
      s.suggestions app line = ["red", "sky blue"] := by
    intro s hcommands line
    have hdistinct : distinctIgnoringCase ["red", "sky blue"] = ["red", "sky blue"] := by
      decide +kernel
    rw [suggestions, hcommands]
    show (distinctIgnoringCase ["red", "sky blue"]).mergeSort _ = _
    rw [hdistinct]
    exact List.mergeSort_of_pairwise (by decide +kernel)
  refine ⟨?_, ?_, ?_⟩
  · obtain ⟨-, hkeys, -⟩ := completion_ring app false (shell blank none [.tab, .tab])
    obtain ⟨breaks, after, hrun, hcycles, -⟩ :=
      hkeys { code := .tab } [{ code := .tab }] [.forward, .forward] [] rfl rfl rfl rfl rfl
    obtain ⟨hring, -⟩ := completion_ring app false { (shell blank none [.tab]) with breaks }
    obtain ⟨k, x, hk, hx, hcompletion, hbuffer, hcaret⟩ := hring _ after hcycles
      (by rw [hoffered _ rfl]; exact List.cons_ne_nil _ _)
    rw [hoffered _ rfl] at hk hx hcompletion
    obtain rfl : k = 1 := Int.ofNat.inj (hk.trans (by decide))
    obtain rfl := Option.some.inj hx
    let before := blank.buffer.take (Line.parse blank.text blank.caret).slotStart
    let behind := blank.buffer.drop (Line.parse blank.text blank.caret).slotStop
    have hbefore : before = "paint ".toList := by decide
    have hbehind : behind = " on".toList := by decide
    refine ⟨after, hrun, hcompletion.trans ?_, hbuffer.trans ?_, hcaret.trans ?_⟩
    · show some (Completion.mk _ 1 before behind) = _
      rw [hbefore, hbehind]
    · show before ++ _ ++ behind = _
      rw [hbefore, hbehind]
      decide
    · show before.length + _ = _
      rw [hbefore]
      decide
  · let moved := shell painted (some sky) [.left, .right]
    have hnone : moved.ExpectsNoCompletion false 2 := by
      intro key hkey d hbound
      obtain rfl | rfl : key = { code := .left } ∨ key = { code := .right } := by
        simpa [moved, shell, console] using hkey
      all_goals
        cases d <;> cases hbound
    have hends : (Run.loop app (.standard app) false 2 []).run' moved = some () := by
      decide +kernel
    obtain ⟨after, hrun⟩ := Run.exists_of_run_eq_some hends
    have hlast : (do
        Run.loop app (.standard app) false 2 []
        return (← get).editor : Run _ Editor) moved = .ok after.editor after :=
      Run.bind_of_ok hrun _
    have heditor : (do
        Run.loop app (.standard app) false 2 []
        return (← get).editor : Run _ Editor).run' moved = some painted := by decide +kernel
    rw [Run.run_of_ok hlast] at heditor
    have heditor : after.editor = painted := Option.some.inj heditor
    have hnothing : Run.SubmitsNothing app false 2 moved :=
      (Run.submitsNothing_iff hnone hrun).mpr (by decide +kernel)
    obtain ⟨-, -, hothers⟩ := completion_ring app false moved
    obtain ⟨hstep, -⟩ := hothers sky 2 after rfl hnone (.inl hrun) app .forward
    rw [heditor] at hstep
    exact ⟨after, hrun, hstep ⟨by decide, by decide, hnothing⟩⟩
  · let entered := shell painted (some sky) [.enter]
    have hnone : entered.ExpectsNoCompletion false 1 := by
      intro key hkey d hbound
      obtain rfl : key = { code := .enter } := by simpa [entered, shell, console] using hkey
      cases d <;> cases hbound
    have hends : (Run.loop app (.standard app) false 1 []).run' entered = some () := by
      decide +kernel
    obtain ⟨after, hrun⟩ := Run.exists_of_run_eq_some hends
    have hsubmits : ¬ Run.SubmitsNothing app false 1 entered := by
      rw [Run.submitsNothing_iff hnone hrun]
      decide +kernel
    obtain ⟨-, -, hothers⟩ := completion_ring app false entered
    obtain ⟨-, hanew⟩ := hothers sky 1 after rfl hnone (.inl hrun) app .forward
    exact ⟨after, hrun, hsubmits, hanew fun h => hsubmits h.2.2⟩

end Shell

end LineShell
