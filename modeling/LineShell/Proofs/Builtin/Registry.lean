import LineShell.Builtin.Commands
import LineShell.Proofs.Shell.Registry

/-!
# The built-in commands and the registry

What the built-in commands say about lines does not depend on the registered commands. Nor does what
they do, except that help lists and describes the registered commands.
-/

namespace LineShell.Builtin

open Program

variable {kind : Builtin → Prop}

lemma hooksIgnoreRegistry (kind : Builtin → Prop) :
    application.HooksIgnoreRegistry structured kind where
  command_eq _ _ := rfl
  accepts_eq _ _ _ _ _ := rfl
  details_eq _ _ _ _ _ := rfl

lemma ignoresRegistry_runSet (input : Input) : (runSet input).IgnoresRegistry kind := by
  constructor
  · intro shell commands
    rfl
  · intro shell
    dsimp only
    split_ifs
    · unfold runDelete
      split
      · trivial
      · trivial
      · split_ifs
        · exact ignoresRegistry_perform nofun
        · trivial
    · unfold runAssign
      split
      · exact ignoresRegistry_writeLines _
      · split
        · exact ignoresRegistry_writeLine _
        · trivial
      · exact ignoresRegistry_perform nofun

lemma ignoresRegistry_runHistory (input : Input) : (runHistory input).IgnoresRegistry kind := by
  unfold runHistory
  split_ifs
  · exact ignoresRegistry_perform nofun
  · exact ⟨fun _ _ => rfl, fun _ => ignoresRegistry_writeLines _⟩

/-- Of the built-in commands, none but the one for help looks at the registry when it runs. -/
lemma workIgnoresRegistry : application.WorkIgnoresRegistry structured (· ≠ .help) where
  execute c hc input t := by
    cases c with
    | echo => exact ⟨fun _ _ => rfl, fun _ => ignoresRegistry_writeLine _⟩
    | set => exact ignoresRegistry_runSet input
    | clear =>
      apply ignoresRegistry_perform
      nofun
    | history => exact ignoresRegistry_runHistory input
    | help => exact absurd rfl hc
    | exit =>
      apply ignoresRegistry_perform
      nofun
  announce := ignoresRegistry_writePrompt

end LineShell.Builtin
