import LineShell.Proofs.Builtin.Transaction
import LineShell.Proofs.Shell.Contained
import LineShell.Proofs.Shell.Taker

/-!
# Help on a topic

With arguments, `help` takes them for a line and describes the command that this line is for. It
finds that command on its own, but it is the one that would take the line if it were submitted
(`help_agrees_with_submit`): whether the line makes sense to the command makes no difference, and
there is no help just where no command would be asked, or none would match.
-/

namespace LineShell

/-! ### Lines after which the prompt is written -/

namespace Run

variable {S : Signature} {app : Application S} {shell told : Shell S} {engine : Engine S}
  {races : List Token} {t : Token}

lemma program_writeLine (engine : Engine S) (races : List Token) (text : String) :
    program engine races (.writeLine text) = writeLine text := by
  show (output (.text text) >>= fun _ => output (.text "\n") >>= fun _ => pure ()) = writeLine text
  simp only [bind_pure_unit]
  rfl

/-- A line is ended and the prompt written, where readiness was not signalled. -/
lemma concludeLine_eq_puts (hannounce : app.announce = .writePrompt) (hready : shell.ready = false)
    (hrefusals : shell.console.refusals = []) (engine : Engine S) (races : List Token) :
    concludeLine app engine races shell = .ok () ({ shell with ready := true }.withConsole
      (shell.console.puts (Shell.lineEnd ++ [Output.text shell.config.prompt]))) := by
  let ended : Shell S := shell.withConsole (shell.console.puts Shell.lineEnd)
  let announcing : Shell S := { ended with ready := true }
  have hend : writeLine "" shell = .ok () ended := writeLine_eq_puts hrefusals ""
  have hannouncing : announcing.console.refusals = [] :=
    (Console.refusals_puts shell.console _).trans hrefusals
  have hprompt : effect engine races (.output (.text shell.config.prompt)) announcing =
      .ok () (announcing.withConsole (announcing.console.puts [.text shell.config.prompt])) :=
    output_eq_puts hannouncing _
  have hunready : ended.ready = false := hready
  rw [concludeLine_apply, if_neg (Bool.eq_false_iff.mp hready), bind_of_ok hend, signalReady_apply,
    if_neg (Bool.eq_false_iff.mp hunready), hannounce, Console.puts_append]
  exact bind_of_ok hprompt _

/-- What a line comes to if it is dispatched to its end and readiness is not signalled meanwhile. -/
lemma submit_of_dispatch (hannounce : app.announce = .writePrompt)
    (hblank : Text.allBlank shell.editor.text = false) (hrefusals : shell.console.refusals = [])
    (hdispatch : dispatch app engine races t
      (.parse shell.editor.text shell.editor.text.length) shell.commands shell.offered =
        .ok () told)
    (hready : told.ready = false) (htold : told.console.refusals = []) :
    ∃ shell', submit app engine races t shell = .ok () shell' ∧ shell'.console =
      told.console.puts (Shell.lineEnd ++ [.text told.config.prompt]) := by
  let begun : Shell S := { shell with ready := false, completion := none }
  let ended : Shell S := begun.withConsole (begun.console.puts Shell.lineEnd)
  let concluded : Shell S := { told with ready := true }.withConsole
    (told.console.puts (Shell.lineEnd ++ [Output.text told.config.prompt]))
  have hbegun : begun.console.refusals = [] := hrefusals
  have hend : writeLine "" begun = .ok () ended := writeLine_eq_puts hbegun ""
  have htake : takeLine app engine races t ended = .ok () told := by
    show (if Text.allBlank shell.editor.text then pure () else _ : Run S Unit) ended = _
    rw [if_neg (Bool.eq_false_iff.mp hblank)]
    exact hdispatch
  have hconclude : concludeLine app engine races told = .ok () concluded :=
    concludeLine_eq_puts hannounce hready htold engine races
  refine ⟨concluded.emptied, ?_, rfl⟩
  rw [submit_eq]
  show (writeLine "" >>= fun _ => _ : Run S Unit) begun = _
  rw [bind_of_ok hend, bind_of_ok htake, bind_of_ok hconclude]
  rfl

end Run

/-- The shell with a text for the line being edited. -/
def Shell.withText {S : Signature} (shell : Shell S) (text : String) : Shell S :=
  { shell with terminal := { shell.terminal with
      editor := (Edit.setInput text).apply shell.editor } }

namespace Builtin

variable {shell : Shell signature} {line : Line} {commands : List Builtin} {input : Input}
  {t : Token}

/-! ### Descriptions -/

/-- What is put out to describe a command. -/
def description (c : Builtin) : List Output :=
  [.text (c.grammar.usualDetails (some c.summary)), .text "\n"]

/-- What is put out where there is no help on a topic. -/
def noHelp (topic : String) : List Output :=
  [.errorLine (Run.errorReport (.command ("No help available for '" ++ topic ++ "'")))]

lemma description_injective {c d : Builtin} (h : description c = description d) : c = d := by
  have htext : c.grammar.usualDetails (some c.summary) = d.grammar.usualDetails (some d.summary) :=
    Output.text.inj (List.cons.inj h).1
  revert htext
  cases c <;> cases d <;> decide +kernel

/-- The command that a line is for. -/
def taker? (commands : List Builtin) (line : Line) : Option Builtin :=
  (claimant? (S := signature) structured line commands).map (·.1)

/-- The arguments, taken for a line. -/
def topic (input : Input) : String :=
  " ".intercalate input.argumentValues

/-- The command that the arguments, taken for a line, are for. -/
def helped? (commands : List Builtin) (input : Input) : Option Builtin :=
  taker? commands (.parse (topic input) (topic input).length)

/-- What is put out for help on the arguments. -/
def answer (commands : List Builtin) (input : Input) : List Output :=
  match helped? commands input with
  | some c => description c
  | none => noHelp (topic input)

lemma description_ne_noHelp (c : Builtin) (topic : String) : description c ≠ noHelp topic :=
  fun h => Output.noConfusion (List.cons.inj h).1

lemma answer_eq_description_iff {c : Builtin} :
    answer commands input = description c ↔ helped? commands input = some c := by
  rw [answer]
  cases helped? commands input with
  | some d => exact ⟨fun h => congrArg some (description_injective h), fun h => by cases h; rfl⟩
  | none => exact iff_of_false (description_ne_noHelp c _).symm (Option.some_ne_none c).symm

lemma answer_eq_noHelp_iff :
    answer commands input = noHelp (topic input) ↔ helped? commands input = none := by
  rw [answer]
  cases helped? commands input with
  | some c => exact iff_of_false (description_ne_noHelp c _) (Option.some_ne_none c)
  | none => exact iff_of_true rfl rfl

lemma mem_of_helped?_eq_some {c : Builtin} (h : helped? commands input = some c) :
    c ∈ commands := by
  obtain ⟨⟨d, input', issues⟩, hclaimant, rfl⟩ := Option.map_eq_some_iff.mp h
  obtain ⟨before, after, hcommands, -⟩ := claimant?_eq_some_iff.mp hclaimant
  rw [hcommands]
  simp

/-- Nothing is found for blank arguments. -/
lemma helped?_of_allBlank (h : Text.allBlank (topic input)) (commands : List Builtin) :
    helped? commands input = none := by
  rw [helped?, taker?, Option.map_eq_none_iff]
  exact claimant?_eq_none_iff.mpr fun c _ => Grammar.isMismatch_bind_of_allBlank h c.grammar _

/-- What is found is all about the command that the line is for. -/
lemma findSome?_details (shell : Shell signature) (line : Line) :
    shell.commands.findSome? (·.details line) =
      (taker? shell.commands line).map fun c => c.grammar.usualDetails (some c.summary) := by
  rw [taker?, claimant?, List.map_findSome?, List.map_findSome?]
  congr 1
  funext c
  rw [details, Function.comp_apply, Function.comp_apply,
    show (structured c).grammar = c.grammar from rfl]
  cases c.grammar.bind line <;> rfl

/-- A line that a registered command binds is for that command. -/
lemma claimant?_of_bound {c : Builtin} (hc : c ∈ commands) {issues : List Issue}
    (hbind : c.grammar.bind line = .bound input issues) :
    claimant? (S := signature) structured line commands = some (c, input, issues) := by
  cases hclaimant : claimant? (S := signature) structured line commands with
  | none =>
    have hmismatch : (c.grammar.bind line).isMismatch := claimant?_eq_none_iff.mp hclaimant c hc
    rw [hbind] at hmismatch
    cases hmismatch
  | some claim =>
    obtain ⟨d, input', issues'⟩ := claim
    obtain ⟨-, -, -, -, hbind'⟩ := claimant?_eq_some_iff.mp hclaimant
    by_cases hd : c = d
    · subst hd
      obtain ⟨rfl, rfl⟩ := Binding.bound.inj (hbind.symm.trans hbind')
      rfl
    · have hmismatch := isMismatch_of_bound hd hbind'
      rw [hbind] at hmismatch
      cases hmismatch

/-! ### The run of the command -/

/-- What is found for the arguments is written, or the command fails. -/
lemma program_runHelp (harguments : input.argumentValues ≠ []) (shell : Shell signature)
    (engine : Engine signature) (races : List Token) :
    Run.program engine races (runHelp input) shell =
      Run.program engine races (match helped? shell.commands input with
        | some c => .writeLine (c.grammar.usualDetails (some c.summary))
        | none => .fail (.command ("No help available for '" ++ topic input ++ "'"))) shell := by
  have hnonempty : ¬ input.argumentValues.isEmpty = true := by
    rwa [List.isEmpty_iff]
  have htopic : " ".intercalate input.argumentValues = topic input := rfl
  rw [runHelp, Run.program_look_apply, if_neg hnonempty]
  dsimp only
  rw [htopic, findSome?_details, ← helped?]
  cases helped? shell.commands input <;> rfl

/-- To run the command puts out what there is to say about the arguments, and no more. -/
lemma executeCommand_help (harguments : input.argumentValues ≠ [])
    (hrefusals : shell.console.refusals = []) (hsound : shell.breaks.tokens.Sound)
    (hmade : t < shell.breaks.tokens.next) (hcancelled : shell.isCancelled t = false)
    (engine : Engine signature) (races : List Token) (line : Line) :
    ∃ told, Run.executeCommand engine races t ((structured .help).runningOn input) line shell =
        .ok () told ∧
      told.console = shell.console.puts (answer shell.commands input) ∧
      told.ready = shell.ready ∧ told.config = shell.config := by
  let child := (shell.breaks.tokens.derive t).1
  let derived := shell.withTokens (shell.breaks.tokens.derive t).2
  have hchild : derived.isCancelled child = false :=
    (Tokens.isCancelled_derive hsound hmade).trans hcancelled
  have hderived : derived.console.refusals = [] := hrefusals
  let body (races : List Token) : Run signature Unit :=
    Run.program engine races (((structured .help).runningOn input).execute line child)
  have hprogram : body (races ++ [child]) derived =
      Run.program engine (races ++ [child]) (match helped? shell.commands input with
        | some c => .writeLine (c.grammar.usualDetails (some c.summary))
        | none => .fail (.command ("No help available for '" ++ topic input ++ "'"))) derived :=
    program_runHelp harguments derived engine _
  rw [answer]
  cases hhelped : helped? shell.commands input with
  | some c =>
    rw [hhelped] at hprogram
    rw [Run.program_writeLine] at hprogram
    have hbody := hprogram.trans (Run.writeLine_eq_puts hderived _)
    rw [Run.executeCommand_of_race rfl (Run.race_of_ok hchild hbody)]
    exact ⟨_, rfl, rfl, rfl, rfl⟩
  | none =>
    rw [hhelped] at hprogram
    let released := derived.withTokens (derived.breaks.tokens.release child)
    have hreleased : released.console.refusals = [] := hrefusals
    rw [Run.executeCommand_of_race rfl (Run.race_of_failure hchild hprogram)]
    exact ⟨_, Run.output_eq_puts hreleased _, rfl, rfl, rfl⟩

/-! ### Help and submission -/

/-- The line that asks for help comes to its end with that answer. -/
lemma submit_help (hhelp : .help ∈ shell.commands)
    (hbind : (grammar .help).bind (.parse shell.editor.text shell.editor.text.length) =
      .bound input []) (harguments : input.argumentValues ≠ [])
    (hrefusals : shell.console.refusals = []) (hsound : shell.breaks.tokens.Sound)
    (hmade : t < shell.breaks.tokens.next) (hcancelled : shell.isCancelled t = false)
    (engine : Engine signature) (races : List Token) :
    ∃ shell', Run.submit application engine races t shell = .ok () shell' ∧
      shell'.console = shell.console.puts
        (Shell.lineEnd ++ answer shell.commands input ++ Shell.lineEnd ++
          [.text shell.config.prompt]) := by
  have hblank : Text.allBlank shell.editor.text = false := by
    rw [Bool.eq_false_iff]
    intro hblank
    have hmismatch := Grammar.isMismatch_bind_of_allBlank hblank (grammar .help)
      shell.editor.text.length
    rw [hbind] at hmismatch
    cases hmismatch
  have hoffered : shell.offered.console.refusals = [] :=
    (Console.refusals_puts shell.console _).trans hrefusals
  obtain ⟨told, hexecute, hconsole, hready, hconfig⟩ :=
    executeCommand_help harguments hoffered hsound hmade hcancelled engine races
      (.parse shell.editor.text shell.editor.text.length)
  have hreception : shell.offered.reception structured
      (.parse shell.editor.text shell.editor.text.length) = .accepted .help input := by
    have hclaimant : claimant? structured (.parse shell.editor.text shell.editor.text.length)
        shell.offered.commands = some (.help, input, []) := claimant?_of_bound hhelp hbind
    rw [Shell.reception, hclaimant]
    rfl
  have hsame : shell.offered.commands = shell.commands := rfl
  have hdispatch : Run.dispatch application engine races t
      (.parse shell.editor.text shell.editor.text.length) shell.commands shell.offered =
        .ok () told := by
    rw [Run.dispatch_eq_run_reception (fun _ _ => rfl) shell.offered hsame, hreception]
    exact hexecute
  have htold : told.console.refusals = [] := by
    rw [hconsole]
    exact (Console.refusals_puts shell.offered.console _).trans hoffered
  obtain ⟨shell', hsubmit, hconsole'⟩ :=
    Run.submit_of_dispatch rfl hblank hrefusals hdispatch hready htold
  refine ⟨shell', hsubmit, ?_⟩
  rw [hconsole', hconsole, hconfig]
  simp only [Console.puts_append]
  rfl

/-- The log of the arguments, submitted as a line, tells what help describes. -/
lemma tells_submit_topic (hrefusals : shell.console.refusals = [])
    (hsound : shell.breaks.tokens.Sound) (hmade : t < shell.breaks.tokens.next)
    (hcancelled : shell.isCancelled t = false) (input : Input) (n : ℕ) (races : List Token) :
    Logged.Tells (helped? shell.commands input)
      (Text.allBlank (topic input) = false ∧ helped? shell.commands input = none)
      (Logged.entries
        (Logged.submit application n races t (shell.withText (topic input), []))) := by
  let asking := shell.withText (topic input)
  have htext : asking.editor.text = topic input := String.ofList_toList
  have hcommands : ∀ c ∈ asking.commands, application.command c = (structured c).toCommand :=
    fun _ _ => rfl
  have hdetails : ∀ c ∈ asking.commands, (structured c).ownDetails = none := fun _ _ => rfl
  have hasking : asking.console.refusals = [] := hrefusals
  have htells := Logged.tells_submit hcommands hdetails hasking hsound hmade hcancelled n races
  rw [htext] at htells
  have hmissed : claimant? structured (.parse (topic input) (topic input).length) asking.commands =
      none ↔ helped? shell.commands input = none := Option.map_eq_none_iff.symm
  refine ⟨fun c => (htells.took c).trans ?_, htells.missed.trans (and_congr_right' hmissed)⟩
  split_ifs with hblank
  · simp [helped?_of_allBlank hblank]
  · rfl

/-- Let a line with arguments be for `help`, with nothing wrong with it, and be submitted under a
token that is not cancelled, on a console that refuses nothing. Then all that is put out until the
prompt is one answer: it describes a registered command, or says that there is no help. Think of the
arguments as a line of its own that is submitted instead, with a log. The answer describes just the
command that takes that line, and it says that there is no help just when that line is blank or the
shell says of it that no command matches. -/
theorem help_agrees_with_submit (hhelp : .help ∈ shell.commands)
    (hbind : (grammar .help).bind (.parse shell.editor.text shell.editor.text.length) =
      .bound input []) (harguments : input.argumentValues ≠ [])
    (hrefusals : shell.console.refusals = []) (hsound : shell.breaks.tokens.Sound)
    (hmade : t < shell.breaks.tokens.next) (hcancelled : shell.isCancelled t = false) (n : ℕ)
    (races : List Token) :
    let asking := shell.withText (topic input)
    let asked := Logged.submit application n races t (asking, [])
    Logged.forget asked = Run.submit application (.ofLevels application n) races t asking ∧
      ∃ shell' answer,
        Run.submit application (.ofLevels application n) races t shell = .ok () shell' ∧
        shell'.console = shell.console.puts
          (Shell.lineEnd ++ answer ++ Shell.lineEnd ++ [.text shell.config.prompt]) ∧
        (answer = noHelp (topic input) ∨ ∃ c ∈ shell.commands, answer = description c) ∧
        (∀ c, Logged.Took (Logged.entries asked) c ↔ answer = description c) ∧
        (answer = noHelp (topic input) ↔ Text.allBlank (topic input) ∨
          .reported Run.noMatchingCommand ∈ Logged.entries asked) := by
  intro asking asked
  obtain ⟨shell', hsubmit, hconsole⟩ := submit_help hhelp hbind harguments hrefusals hsound hmade
    hcancelled (.ofLevels application n) races
  have htells := tells_submit_topic hrefusals hsound hmade hcancelled input n races
  refine ⟨Logged.erases_submit application n races t asking [], shell',
    answer shell.commands input, hsubmit, hconsole, ?_, fun c => (htells.took c).trans ?_, ?_⟩
  · cases hhelped : helped? shell.commands input with
    | none => exact .inl (answer_eq_noHelp_iff.mpr hhelped)
    | some c =>
      exact .inr ⟨c, mem_of_helped?_eq_some hhelped, answer_eq_description_iff.mpr hhelped⟩
  · exact answer_eq_description_iff.symm
  · rw [htells.missed, answer_eq_noHelp_iff]
    by_cases hblank : Text.allBlank (topic input)
    · simp [hblank, helped?_of_allBlank hblank]
    · simp [hblank]

/-- The argument has a blank too many, and an option that the command does not know. -/
theorem help_agrees_with_submit_malformed :
    let shell : Shell signature := {
      state := {}, history := .inMemory 5, commands := all
      terminal := { editor := { buffer := "? \"Set  -q\"".toList } }
      breaks := { tokens := (Tokens.create {} none).2 } }
    let input : Input :=
      { elements := [⟨.name, "?", 0⟩, ⟨.argument, "\"Set  -q\"", 1⟩]
        nameLength := 1
        selected := some ⟨.argument, "\"Set  -q\"", 1⟩ }
    .help ∈ shell.commands ∧
      (grammar .help).bind (.parse shell.editor.text shell.editor.text.length) =
        .bound input [] ∧
      input.argumentValues ≠ [] ∧ shell.console.refusals = [] ∧ shell.breaks.tokens.Sound ∧
      0 < shell.breaks.tokens.next ∧ shell.isCancelled 0 = false ∧
      ((grammar .set).bind (.parse "Set  -q" 7)).issues = [.unrecognizedOption "-q"] ∧
      Logged.Took (Logged.entries
        (Logged.submit application 1 [] 0 (shell.withText "Set  -q", []))) .set ∧
      ∃ shell', Run.submit application (.ofLevels application 1) [] 0 shell = .ok () shell' ∧
        shell'.console = shell.console.puts
          (Shell.lineEnd ++ description .set ++ Shell.lineEnd ++ [.text shell.config.prompt]) := by
  intro shell input
  have hhelp : .help ∈ shell.commands := by decide
  have hbind : (grammar .help).bind (.parse shell.editor.text shell.editor.text.length) =
      .bound input [] := by decide +kernel
  have harguments : input.argumentValues ≠ [] := by decide
  have hsound : shell.breaks.tokens.Sound := Tokens.sound_empty.cons rfl nofun
  have hmade : 0 < shell.breaks.tokens.next := by decide
  have hcancelled : shell.isCancelled 0 = false := by decide
  have htopic : topic input = "Set  -q" := by decide +kernel
  have hhelped : helped? shell.commands input = some .set := by decide +kernel
  have htells := tells_submit_topic (rfl : shell.console.refusals = []) hsound hmade hcancelled
    input 1 []
  have htook := (htells.took .set).mpr hhelped
  obtain ⟨-, shell', answer, hsubmit, hconsole, -, hanswer, -⟩ :=
    help_agrees_with_submit hhelp hbind harguments rfl hsound hmade hcancelled 1 []
  rw [(hanswer .set).mp htook] at hconsole
  rw [htopic] at htook
  exact ⟨hhelp, hbind, harguments, rfl, hsound, hmade, hcancelled, by decide +kernel, htook, shell',
    hsubmit, hconsole⟩

end Builtin

end LineShell
