import LineShell.Builtin.Commands
import LineShell.Proofs.Shell.Batch

/-!
# The built-in commands are plain

What the built-in commands and handlers do is told by the view of the shell. A fresh shell with the
built-in commands is calm and reads lines: characters are bound to nothing in its key table.
-/

namespace LineShell.Builtin

lemma isPlain_runDelete (vars : Variables) (name rest : Option String) :
    (runDelete vars name rest).IsPlain := by
  rw [runDelete.eq_def]
  split
  · trivial
  · trivial
  · split_ifs
    · exact Program.isPlain_perform rfl
    · trivial

lemma isPlain_runAssign (vars : Variables) (name value : Option String) :
    (runAssign vars name value).IsPlain := by
  rw [runAssign.eq_def]
  split
  · exact Program.isPlain_writeLines _
  · split
    · exact Program.isPlain_writeLine _
    · trivial
  · exact Program.isPlain_perform rfl

lemma isPlain_runHelp (input : Input) : (runHelp input).IsPlain := by
  refine ⟨fun shell => rfl, fun shell => ?_⟩
  dsimp only
  split
  · exact Program.isPlain_writeLines _
  · split
    · exact Program.isPlain_writeLine _
    · trivial

lemma isPlain_execute (c : Builtin) (input : Input) (t : Token) :
    (c.structured.execute input t).IsPlain := by
  cases c with
  | echo => exact ⟨fun shell => rfl, fun shell => Program.isPlain_writeLine _⟩
  | set =>
    refine ⟨fun shell => rfl, fun shell => ?_⟩
    dsimp only
    split
    · exact isPlain_runDelete ..
    · exact isPlain_runAssign ..
  | clear | exit => exact Program.isPlain_perform rfl
  | history =>
    show (runHistory input).IsPlain
    rw [runHistory]
    split
    · exact Program.isPlain_perform rfl
    · exact ⟨fun shell => rfl, fun shell => Program.isPlain_writeLines _⟩
  | help => exact isPlain_runHelp input

lemma isPlain_redraw : redraw.IsPlain :=
  ⟨fun _ => rfl, fun _ => ⟨rfl, rfl, rfl, rfl, trivial⟩⟩

lemma isPlain_application : application.IsPlain structured where
  command_eq _ := rfl
  accepts_view _ _ _ := rfl
  details_view _ _ _ := rfl
  suggest_view _ _ _ := rfl
  execute := isPlain_execute
  execute_eq _ _ _ _ := rfl
  handle h _ _ := by
    cases h
    exact isPlain_redraw
  handle_eq _ _ _ _ := rfl
  announce := Program.isPlain_writePrompt
  announce_succeeds := Program.succeeds_writePrompt

/-! ### Fresh shells -/

/-- The key table of the built-in shell. -/
def table : KeyTable Handler :=
  KeyTable.standard.bind (.ctrl (.char 'l')) (.handler .redraw)

lemma readsLines_table : KeyTable.ReadsLines (S := signature) table where
  find?_ofChar c := by
    have htyped : ∀ entry ∈ table, entry.1.character? = none := by decide
    apply List.lookup_eq_none_iff.mpr
    intro entry hentry
    rw [bne_iff_ne]
    intro hkey
    have hnone := htyped entry hentry
    rw [← hkey, Key.character?_ofChar] at hnone
    cases hnone
  find?_enter := rfl

/-- A fresh shell with its history in memory. -/
def fresh (config : Config) : Shell signature where
  state := {}
  terminal := { editor := { unicodeWords := config.unicodeWords } }
  history := .inMemory config.history.maxEntries
  commands := all
  keys := table
  config := config

lemma shell_eq {config : Config} (h : config.history.file = none) (files : String → File) :
    Builtin.shell config files = .ok (fresh config) := by
  simp only [Builtin.shell, Shell.create, h]
  rfl

lemma calm_fresh (config : Config) (events : List Event) :
    ((fresh config).withConsole ((fresh config).console.enqueue events)).Calm :=
  ⟨rfl, Tokens.quiet_empty⟩

lemma takesKeys_fresh (config : Config) : (fresh config).TakesKeys table :=
  ⟨rfl, rfl⟩

end LineShell.Builtin
