import LineShell.Batch.Basic
import LineShell.Proofs.Builtin.Plain

/-!
# Batches of lines

The built-in shell run on typed lines enters these lines one by one until it is asked to stop.
-/

namespace LineShell.Builtin

open Run

lemma awaitsLine_announced (config : Config) :
    ((fresh config).view.announced application).AwaitsLine table :=
  ⟨(Shell.isSubmissionInvariant_takesKeys isPlain_application).announced (takesKeys_fresh config),
    rfl, rfl⟩

lemma flatMap_typingLine (lines : List String) :
    lines.flatMap Console.typingLine = (lines.flatMap Shell.lineKeys).map .key := by
  rw [List.map_flatMap]
  congr 1
  funext line
  simp [Console.typingLine, Console.typing, Shell.lineKeys]

/-- Type any lines into a fresh shell with its history in memory, each ended by the enter key, and
let it run. It submits the lines in order, up to and including the first one after which it is asked
to stop, and does not read the keys of the others. History, variables, errors and screen are the
same as if, once readiness was signalled, the lines had been put in and submitted one by one without
any key. -/
theorem batch_enters_each (config : Config) (files : String → File)
    (hmemory : config.history.file = none) (lines : List String) :
    ∃ shell typed entered taken unread,
      Builtin.shell config files = .ok shell ∧
      lines = taken ++ unread ∧ (unread ≠ [] → typed.exitRequested = true) ∧
      notedAll application .submissions
        (shell.withConsole (shell.console.enqueue (lines.flatMap Console.typingLine))) =
          .ok taken typed ∧
      Batch.finish shell lines = (typed, none) ∧
      (do
        signalReady application (.standard application) []
        enterEach application lines) shell = .ok taken entered ∧
      typed.history = entered.history ∧ typed.state = entered.state ∧
      typed.console.errors = entered.console.errors ∧
      typed.console.lines = entered.console.lines ∧
      typed.exitRequested = entered.exitRequested ∧
      typed.console.queue = unread.flatMap Console.typingLine := by
  let ready := (fresh config).view.announced application
  let taken := ready.batch application structured lines
  obtain ⟨unread, hlines⟩ : taken <+: lines := Shell.batch_prefix lines ready
  have hunread : lines.drop taken.length = unread := by
    rw [← hlines, List.drop_left]
  obtain ⟨typed, hrun, -, htyped, hqueue⟩ :=
    notedAll_lineKeys_leads isPlain_application readsLines_table
      (calm_fresh config (lines.flatMap Console.typingLine)) (awaitsLine_announced config) lines
      (flatMap_typingLine lines)
  rw [Shell.view_enqueue] at hrun htyped hqueue
  have hnone : (fresh config).console.queue = ([] : List Key).map .key := rfl
  obtain ⟨entered, henter, -, hentered, -⟩ :=
    ready_enterEach_leads isPlain_application lines (calm_fresh config []) hnone
  rw [Shell.view_enqueue] at hentered
  have hview : typed.view = entered.view := htyped.trans hentered.symm
  obtain ⟨-, hhistory, hstate, hexitRequested, herrors, hscreen⟩ := Shell.eq_of_view_eq hview
  have hrows : typed.console.lines = entered.console.lines := by
    rw [Console.lines, Console.lines, hscreen]
  have hexit : unread ≠ [] → typed.exitRequested = true := by
    intro hne
    have hstop := Shell.exitRequested_of_unread hlines hne
    rw [← htyped] at hstop
    exact hstop
  have hfinish : Batch.finish (fresh config) lines = (typed, none) := by
    have hall : Run.all application
        ((fresh config).withConsole ((fresh config).console.enqueue
          (lines.flatMap Console.typingLine))) = .ok () typed := by
      rw [← map_notedAll .submissions, map_eq_pure_bind, bind_of_ok hrun]
      rfl
    rw [Batch.finish, hall]
  refine ⟨fresh config, typed, entered, taken, unread, shell_eq hmemory files, hlines.symm, hexit,
    hrun, hfinish, henter, hhistory, hstate, herrors, hrows, hexitRequested, ?_⟩
  rw [hqueue, flatMap_typingLine, ← hunread]

/-- Three lines are taken, one of them by no command. The line after the exit is left alone. -/
theorem batch_enters_each_until_exit :
    let lines := ["set X 1", "nope", "exit", "echo"]
    ({} : Config).history.file = none ∧
      ∃ shell typed entered,
        Builtin.shell {} (fun _ => { state := .absent }) = .ok shell ∧
        notedAll application .submissions
          (shell.withConsole (shell.console.enqueue (lines.flatMap Console.typingLine))) =
            .ok ["set X 1", "nope", "exit"] typed ∧
        (do
          signalReady application (.standard application) []
          enterEach application lines) shell = .ok ["set X 1", "nope", "exit"] entered ∧
        typed.history = entered.history ∧ typed.state = entered.state ∧
        typed.console.errors = entered.console.errors ∧
        typed.console.lines = entered.console.lines ∧
        typed.console.queue = ["echo"].flatMap Console.typingLine := by
  intro lines
  obtain ⟨shell, typed, entered, taken, unread, hshell, hlines, -, hrun, -, henter, hhistory,
    hstate, herrors, hrows, -, hqueue⟩ :=
      batch_enters_each {} (fun _ => { state := .absent }) rfl lines
  obtain rfl : fresh {} = shell := Except.ok.inj ((shell_eq rfl _).symm.trans hshell)
  have htaken : (notedAll application .submissions).run' ((fresh {}).withConsole
      ((fresh {}).console.enqueue (lines.flatMap Console.typingLine))) =
        some ["set X 1", "nope", "exit"] := by
    decide +kernel
  obtain rfl := Option.some.inj ((run_of_ok hrun).symm.trans htaken)
  obtain rfl : unread = ["echo"] := by simpa [lines] using hlines.symm
  exact ⟨rfl, fresh {}, typed, entered, hshell, hrun, henter, hhistory, hstate, herrors, hrows,
    hqueue⟩

end LineShell.Builtin
