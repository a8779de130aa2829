import LineShell.Proofs.Shell.Noted

/-!
# Lines one after the other

Lines that are typed and entered, key by key, come to the same as lines that are entered one by one
without any key, until the shell is asked to stop. This holds for plain applications on shells on
which characters are bound to nothing and the enter key submits the line.
-/

namespace LineShell

variable {S : Signature}

/-- Hiding the caret for a while. -/
lemma Console.hide_show {c : Console} (h : c.caretShown = true) :
    (c.apply (.caretShown false)).apply (.caretShown true) = c := by
  cases c
  cases h
  rfl

namespace KeyTable

/-- Characters are bound to nothing, and the enter key submits the line. -/
structure ReadsLines (table : KeyTable S.Handler) : Prop where
  find?_ofChar : ∀ c, table.find? (.ofChar c) = none
  find?_enter : table.find? { code := .enter } = some (.action .execute)

variable {table : KeyTable S.Handler} {shell : Shell S}

/-- No chord of raw mode types a character. -/
lemma ReadsLines.bindingOf_ofChar (h : table.ReadsLines) (hkeys : shell.keys = table)
    (rawMode : Bool) (c : Char) : Run.bindingOf shell rawMode (.ofChar c) = none := by
  have hchord : rawModeChord? (.ofChar c) = none := by
    simp [rawModeChord?, Key.ofChar, Key.ctrl, Key.alt]
  rw [Run.bindingOf, hkeys, h.find?_ofChar, hchord]
  exact ite_self none

lemma ReadsLines.bindingOf_enter (h : table.ReadsLines) (hkeys : shell.keys = table)
    (rawMode : Bool) :
    Run.bindingOf shell rawMode { code := .enter } = some (.action .execute) := by
  rw [Run.bindingOf, hkeys, h.find?_enter]

end KeyTable

namespace Shell

/-- The keys are bound as in a table, and the caret is seen. -/
structure TakesKeys (table : KeyTable S.Handler) (shell : Shell S) : Prop where
  keys_eq : shell.keys = table
  caretShown : shell.console.caretShown = true

/-- There is no line yet. -/
structure AwaitsLine (table : KeyTable S.Handler) (shell : Shell S) : Prop extends
    shell.TakesKeys table where
  buffer_eq : shell.editor.buffer = []
  caret_eq : shell.editor.caret = 0

variable {table : KeyTable S.Handler} {shell : Shell S} {app : Application S}
  {structured : S.Command → Structured S}

lemma TakesKeys.edited_setInput (h : shell.TakesKeys table) (text : String) :
    (shell.edited (.setInput text)).TakesKeys table := by
  refine ⟨h.keys_eq, ?_⟩
  show (shell.console.display (Edit.outputs shell.editor (.setInput text))).caretShown = true
  rw [Edit.outputs, Console.display_append]
  rfl

lemma TakesKeys.change (h : shell.TakesKeys table) {e : Effect S} {f : Shell S → Shell S}
    (hf : e.change? = some f) : (f shell).TakesKeys table := by
  cases e with
  | output o =>
    cases o with
    | caretShown shown => cases hf
    | _ =>
      obtain rfl := Option.some.inj hf
      exact ⟨h.keys_eq, h.caretShown⟩
  | setInput text =>
    obtain rfl := Option.some.inj hf
    exact h.edited_setInput text
  | record line | forgetHistory | requestExit | register c | setState s =>
    obtain rfl := Option.some.inj hf
    exact ⟨h.keys_eq, h.caretShown⟩
  | _ => cases hf

lemma isSubmissionInvariant_takesKeys (happ : app.IsPlain structured) :
    IsSubmissionInvariant app structured (TakesKeys table) where
  text _ h := ⟨h.keys_eq, h.caretShown⟩
  errorLine _ h := ⟨h.keys_eq, h.caretShown⟩
  begun h := ⟨h.keys_eq, h.caretShown⟩
  ready h := ⟨h.keys_eq, h.caretShown⟩
  recorded h := ⟨h.keys_eq, h.caretShown⟩
  announce := happ.announce.keeps fun hf h => h.change hf
  execute _ _ := (happ.execute _ _ _).keeps fun hf h => h.change hf

lemma TakesKeys.emptied (h : shell.TakesKeys table) : shell.emptied.AwaitsLine table :=
  ⟨⟨h.keys_eq, h.caretShown⟩, rfl, rfl⟩

/-- When a line was submitted the shell awaits the next one. -/
lemma TakesKeys.submitted (happ : app.IsPlain structured) (h : shell.TakesKeys table) :
    (shell.submitted app structured).AwaitsLine table :=
  (isSubmissionInvariant_takesKeys happ).submitted (fun h => h.emptied) h

/-! ### Typing and entering a line -/

/-- The shell after a line was entered without any key. -/
def entered (app : Application S) (structured : S.Command → Structured S) (shell : Shell S)
    (text : String) : Shell S :=
  (shell.edited (.setInput text)).submitted app structured

/-- On an empty line, typing is putting a line in. -/
lemma AwaitsLine.edited_insert_eq (h : shell.AwaitsLine table) (text : String) :
    shell.edited (.insert text.toList) = shell.edited (.setInput text) := by
  have heditor : Edit.apply shell.editor (.insert text.toList) =
      Edit.apply shell.editor (.setInput text) := by
    simp [Edit.apply, Editor.tail, h.buffer_eq, h.caret_eq]
  have hconsole : shell.console.display (Edit.outputs shell.editor (.insert text.toList)) =
      shell.console.display (Edit.outputs shell.editor (.setInput text)) := by
    simp only [Edit.outputs, Editor.tail, Editor.caretOutputs, h.buffer_eq, h.caret_eq]
    have hcommon : Terminal.commonLength [] text.toList = 0 := rfl
    -- putting a line in hides the caret for a while and shows it again, typing does not
    by_cases htext : text.toList = []
    · simpa [htext] using (Console.hide_show h.caretShown).symm
    · have hwritten : (shell.console.apply (.text text)).caretShown = true := h.caretShown
      have hlength : 0 < text.toList.length := List.length_pos_iff.mpr htext
      have hswap : (shell.console.apply (.caretShown false)).apply (.text text) =
          (shell.console.apply (.text text)).apply (.caretShown false) := rfl
      simpa [htext, hcommon, hlength, hswap] using (Console.hide_show hwritten).symm
  rw [edited, edited, heditor, hconsole]

/-- The keys that type a line and enter it. -/
def lineKeys (text : String) : List Key :=
  text.toList.map .ofChar ++ [{ code := .enter }]

/-- The characters of a line are put by until the next key. -/
lemma session_map_ofChar (htable : table.ReadsLines) (hkeys : shell.keys = table)
    (hexit : shell.exitRequested = false) (rawMode : Bool) (cs : List Char) (key : Key)
    (keys : List Key) (typed : List Char) :
    shell.session app structured rawMode (cs.map .ofChar ++ key :: keys) typed =
        shell.session app structured rawMode (key :: keys) (cs.reverse ++ typed) ∧
      shell.noted .submissions app structured rawMode (cs.map .ofChar ++ key :: keys) typed =
        shell.noted .submissions app structured rawMode (key :: keys) (cs.reverse ++ typed) := by
  induction cs generalizing typed with
  | nil => exact ⟨rfl, rfl⟩
  | cons c cs ih =>
    have hbinding := htable.bindingOf_ofChar hkeys rawMode c
    have htyped : cs.reverse ++ (c :: typed) = (c :: cs).reverse ++ typed := by simp
    have hcharacter : (Key.ofChar c).character?.toList ++ typed = c :: typed := by
      rw [Key.character?_ofChar]
      rfl
    have hmore : (cs.map Key.ofChar ++ key :: keys).isEmpty = false := by simp
    obtain ⟨hsession, hnoted⟩ := ih (c :: typed)
    rw [List.map_cons, List.cons_append, session, noted, if_neg (by simp [hexit]),
      if_neg (by simp [hexit]), hbinding]
    dsimp only
    rw [hcharacter, hmore, hsession, hnoted, htyped]
    exact ⟨rfl, rfl⟩

/-- The keys of one line. -/
lemma AwaitsLine.session_lineKeys (h : shell.AwaitsLine table) (htable : table.ReadsLines)
    (hexit : shell.exitRequested = false) (rawMode : Bool) (text : String) (keys : List Key) :
    shell.session app structured rawMode (lineKeys text ++ keys) [] =
        (shell.entered app structured text).session app structured rawMode keys [] ∧
      shell.noted .submissions app structured rawMode (lineKeys text ++ keys) [] =
        text :: (shell.entered app structured text).noted .submissions app structured rawMode
          keys [] := by
  have hbinding := htable.bindingOf_enter h.keys_eq rawMode
  have htext : (shell.edited (.setInput text)).editor.text = text := String.ofList_toList
  obtain ⟨hsession, hnoted⟩ := session_map_ofChar htable h.keys_eq hexit rawMode text.toList
    { code := .enter } keys []
  rw [lineKeys, List.append_assoc, List.singleton_append, hsession, hnoted, session, noted,
    if_neg (by simp [hexit]), if_neg (by simp [hexit]), hbinding, List.append_nil,
    List.reverse_reverse, h.edited_insert_eq]
  refine ⟨rfl, ?_⟩
  show [(shell.edited (.setInput text)).editor.text] ++ _ = _
  rw [htext]
  rfl

/-! ### Lines one by one -/

lemma AwaitsLine.entered (happ : app.IsPlain structured) (h : shell.AwaitsLine table)
    (text : String) : (shell.entered app structured text).AwaitsLine table :=
  (h.edited_setInput text).submitted happ

/-- The lines that are entered before the shell is asked to stop. -/
def batch (app : Application S) (structured : S.Command → Structured S) :
    List String → Shell S → List String
  | [], _ => []
  | text :: texts, shell =>
    if shell.exitRequested then []
    else text :: batch app structured texts (shell.entered app structured text)

lemma batch_prefix (texts : List String) (shell : Shell S) :
    shell.batch app structured texts <+: texts := by
  induction texts generalizing shell with
  | nil => exact List.prefix_rfl
  | cons text texts ih =>
    rw [batch]
    split_ifs
    · exact List.nil_prefix
    · exact List.cons_prefix_cons.mpr ⟨rfl, ih _⟩

/-- If not all lines are entered, the shell is asked to stop. -/
lemma exitRequested_of_unread {texts unread : List String} {shell : Shell S}
    (h : shell.batch app structured texts ++ unread = texts) (hne : unread ≠ []) :
    ((shell.batch app structured texts).foldl (Shell.entered app structured) shell).exitRequested =
      true := by
  induction texts generalizing shell with
  | nil => exact absurd (List.append_eq_nil_iff.mp h).2 hne
  | cons text texts ih =>
    rw [batch] at h ⊢
    split_ifs with hexit
    · exact hexit
    · rw [if_neg hexit] at h
      rw [List.foldl_cons]
      exact ih (List.cons.inj h).2

/-- The keys of some lines enter these lines one by one. The induction is on the lines: after each
of them the shell awaits the next one. -/
lemma AwaitsLine.session_flatMap_lineKeys (happ : app.IsPlain structured)
    (htable : table.ReadsLines) (h : shell.AwaitsLine table) (rawMode : Bool)
    (texts : List String) :
    shell.session app structured rawMode (texts.flatMap lineKeys) [] =
        ((shell.batch app structured texts).foldl (Shell.entered app structured) shell,
          (texts.drop (shell.batch app structured texts).length).flatMap lineKeys) ∧
      shell.noted .submissions app structured rawMode (texts.flatMap lineKeys) [] =
        shell.batch app structured texts := by
  induction texts generalizing shell with
  | nil => exact ⟨congrArg (·, []) (edited_insert_nil shell), ite_self []⟩
  | cons text texts ih =>
    rw [batch]
    split_ifs with hexit
    · rw [session_of_exitRequested hexit, noted_of_exitRequested hexit, List.reverse_nil,
        edited_insert_nil]
      exact ⟨rfl, rfl⟩
    · have hexit : shell.exitRequested = false := Bool.eq_false_iff.mpr hexit
      obtain ⟨hline, hfirst⟩ :=
        h.session_lineKeys htable hexit rawMode text (texts.flatMap lineKeys)
      obtain ⟨hsession, hnoted⟩ := ih (h.entered happ text)
      rw [List.flatMap_cons, hline, hfirst, hsession, hnoted, List.foldl_cons,
        List.length_cons, List.drop_succ_cons]
      exact ⟨rfl, rfl⟩

end Shell

/-! ### Runs -/

namespace Run

variable {app : Application S} {structured : S.Command → Structured S}

/-- Enters lines one by one without any key, until the shell is asked to stop. The result are the
lines that were entered. -/
def enterEach (app : Application S) : List String → Run S (List String)
  | [] => return []
  | text :: texts => do
    if (← get).exitRequested then return []
    enter app text false
    return text :: (← enterEach app texts)

/-- Entering a line: the token that is made for it does not show. -/
lemma does_enter (happ : app.IsPlain structured) (text : String) :
    Does (enter app text false) (modify (Shell.entered app structured · text)) := by
  intro shell hcalm
  have hcreate := does_setBreaks (S := S)
    (f := fun b => { b with tokens := (b.tokens.create none).2 })
    fun b h => h.create none
  exact (hcreate.andThen ((does_edit (.setInput text)).andThen
    (does_submit happ (.standard app) [] (shell.breaks.tokens.create none).1))) shell hcalm

/-- Entering lines one by one. -/
lemma enterEach_leads (happ : app.IsPlain structured) (texts : List String) {shell : Shell S}
    (hcalm : shell.Calm) {rest : List Key} (hqueue : shell.console.queue = rest.map .key) :
    Leads (enterEach app texts) shell (shell.view.batch app structured texts)
      ((shell.view.batch app structured texts).foldl (Shell.entered app structured) shell.view)
      rest := by
  induction texts generalizing shell with
  | nil => exact ⟨shell, rfl, hcalm, rfl, hqueue⟩
  | cons text texts ih =>
    have hround : enterEach app (text :: texts) shell =
        (if shell.exitRequested then return []
        else do
          enter app text false
          return text :: (← enterEach app texts) : Run S (List String)) shell := rfl
    rw [Leads, hround, Shell.batch]
    by_cases hexit : shell.exitRequested
    · rw [if_pos hexit, if_pos (show shell.view.exitRequested = true from hexit)]
      exact ⟨shell, rfl, hcalm, rfl, hqueue⟩
    · rw [if_neg hexit, if_neg (show ¬ shell.view.exitRequested = true from hexit)]
      refine (does_enter happ text).bind_leads hcalm hqueue
        fun entered hcalm' hentered hqueue' => ?_
      have hrest := ih hcalm' hqueue'
      rw [hentered] at hrest
      rw [List.foldl_cons]
      exact hrest.map (text :: ·)

/-- The lines are entered one by one once readiness was signalled. -/
lemma ready_enterEach_leads (happ : app.IsPlain structured) (texts : List String)
    {shell : Shell S} (hcalm : shell.Calm) {rest : List Key}
    (hqueue : shell.console.queue = rest.map .key) :
    let ready := shell.view.announced app
    Leads (do
      signalReady app (.standard app) []
      enterEach app texts) shell (ready.batch app structured texts)
        ((ready.batch app structured texts).foldl (Shell.entered app structured) ready) rest := by
  refine (does_signalReady happ (.standard app) []).bind_leads hcalm hqueue
    fun shell' hcalm hview hqueue => ?_
  have hleads := enterEach_leads happ texts hcalm hqueue
  rw [hview] at hleads
  exact hleads

/-- The whole run on the keys of some lines enters these lines, as far as it reads them. -/
lemma notedAll_lineKeys_leads (happ : app.IsPlain structured) {table : KeyTable S.Handler}
    (htable : table.ReadsLines) {shell : Shell S} (hcalm : shell.Calm)
    (hawaits : (shell.view.announced app).AwaitsLine table) (texts : List String)
    (hqueue : shell.console.queue = (texts.flatMap Shell.lineKeys).map .key) :
    let ready := shell.view.announced app
    let taken := ready.batch app structured texts
    Leads (notedAll app .submissions) shell taken (taken.foldl (Shell.entered app structured) ready)
      ((texts.drop taken.length).flatMap Shell.lineKeys) := by
  obtain ⟨rawMode, -, hleads⟩ := notedAll_leads .submissions happ hcalm hqueue
  obtain ⟨hsession, hnoted⟩ := hawaits.session_flatMap_lineKeys happ htable rawMode texts
  rw [hsession, hnoted] at hleads
  exact hleads

end Run

end LineShell
