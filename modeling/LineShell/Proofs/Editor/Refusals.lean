import LineShell.Proofs.Editor.Outcome
import LineShell.Proofs.Editor.Reach

/-!
# Lines on a console that refuses

A console may refuse some outputs and not others, in any pattern (`Refusals.exists_answers`).
Whatever it refuses, after each operation on the line the caret is within the line, and the
characters are those from before the operation or those that it makes of them when nothing is
refused. So no operation ever reaches outside of the line (`LineOperation.refusals_spare_line`).
-/

namespace LineShell

/-! ### Patterns of refusals -/

namespace Refusals

/-- Which of the next calls are refused. -/
def answers (r : Refusals) : Nat → List Bool
  | 0 => []
  | n + 1 => r.next.1 :: answers r.next.2 n

/-- The schedule in which one more call succeeds first. -/
def delay : Refusals → Refusals
  | [] => []
  | n :: rest => (n + 1) :: rest

lemma next_delay (r : Refusals) : r.delay.next = (false, r) := by
  cases r <;> rfl

/-- Each call may be refused or not, whatever becomes of the others. -/
theorem exists_answers (pattern : List Bool) :
    ∃ r : Refusals, r.answers pattern.length = pattern := by
  induction pattern with
  | nil => exact ⟨[], rfl⟩
  | cons refused pattern ih =>
    obtain ⟨r, hr⟩ := ih
    cases refused with
    | true => exact ⟨0 :: r, congrArg (true :: ·) hr⟩
    | false =>
      refine ⟨r.delay, ?_⟩
      rw [List.length_cons, answers, next_delay, hr]

end Refusals

/-- The terminal with a console that refuses nothing. -/
def Terminal.withoutRefusals (t : Terminal) : Terminal :=
  ⟨{ t.console with refusals := [] }, t.editor⟩

/-! ### Operations -/

/-- What is done to a line: it is edited, or it is forgotten. -/
inductive LineOperation
  | edit (edit : Edit)
  | reset
  deriving DecidableEq, Repr

namespace LineOperation

/-- Does an operation. -/
def run : LineOperation → Attempt Terminal Unit
  | edit e => e.run
  | reset => Terminal.resetInput

/-- Does an operation with care. -/
def carefully : LineOperation → Careful Unit
  | edit e => e.carefully
  | reset => .plain Terminal.resetInput

/-- The terminal after an operation, whether it succeeded or failed. -/
def after (t : Terminal) (operation : LineOperation) : Terminal :=
  ending (operation.run t)

/-- The terminal after operations one after the other, each of which succeeded or failed. -/
def afterAll (t : Terminal) (operations : List LineOperation) : Terminal :=
  operations.foldl after t

variable {t : Terminal}

lemma caret_le_after (h : t.editor.caret ≤ t.editor.buffer.length) (operation : LineOperation) :
    (after t operation).editor.caret ≤ (after t operation).editor.buffer.length := by
  cases operation with
  | edit e => exact (e.cuts_ending t).caret_le h
  | reset => exact Nat.le_refl 0

/-- The induction is on the operations, each of which keeps the caret within the line. -/
lemma caret_le_afterAll (h : t.editor.caret ≤ t.editor.buffer.length)
    (operations : List LineOperation) :
    (afterAll t operations).editor.caret ≤ (afterAll t operations).editor.buffer.length := by
  induction operations generalizing t with
  | nil => exact h
  | cons operation operations ih => exact ih (caret_le_after h operation)

/-- The characters are those from before or those that are made of them when nothing is refused. -/
lemma exists_buffer_after (t : Terminal) (operation : LineOperation) :
    ∃ t', operation.run t.withoutRefusals = .ok () t' ∧
      ((after t operation).editor.buffer = t.editor.buffer ∨
        (after t operation).editor.buffer = t'.editor.buffer) := by
  cases operation with
  | edit e => exact ⟨_, Edit.run_eq rfl e, (e.cuts_ending t).buffer_eq⟩
  | reset => exact ⟨_, rfl, .inr rfl⟩

lemma carefully_run (h : t.editor.caret ≤ t.editor.buffer.length) (operation : LineOperation) :
    Agrees operation.carefully operation.run t := by
  cases operation with
  | edit e => exact e.carefully_agrees h
  | reset => exact agrees_plain _ t

/-- Begin with the caret within the line, on a console that refuses whatever it refuses. After any
operations, each of which succeeded or failed, one more is done. It reaches nowhere outside of the
line. Whether it succeeds or fails, the caret is then within the line, and the characters are those
from before it, or those that it makes of them on a console that refuses nothing. -/
theorem refusals_spare_line (h : t.editor.caret ≤ t.editor.buffer.length)
    (operations : List LineOperation) (operation : LineOperation) :
    let before := afterAll t operations
    Agrees operation.carefully operation.run before ∧
      (after before operation).editor.caret ≤ (after before operation).editor.buffer.length ∧
      ∃ t', operation.run before.withoutRefusals = .ok () t' ∧
        ((after before operation).editor.buffer = before.editor.buffer ∨
          (after before operation).editor.buffer = t'.editor.buffer) := by
  intro before
  have hbefore := caret_le_afterAll h operations
  exact ⟨carefully_run hbefore operation, caret_le_after hbefore operation,
    exists_buffer_after before operation⟩

/-- Characters typed over others at the end of the line are refused, then the move to where a new
line differs, and then the move back over a character that is removed. -/
theorem refusals_spare_line_thrice :
    let t : Terminal := {
      console := { refusals := [0, 1, 0] }
      editor := { buffer := ['a', 'b', 'c'], caret := 3, overwrite := true } }
    let operations : List LineOperation :=
      [.edit (.insert ['x', 'y']), .edit (.setInput (.ofList ['q']))]
    let before := afterAll t operations
    let operation : LineOperation := .edit .removePrevious
    t.editor.caret ≤ t.editor.buffer.length ∧
      Agrees operation.carefully operation.run before ∧
      (after before operation).editor.caret ≤ (after before operation).editor.buffer.length ∧
      ∃ t', operation.run before.withoutRefusals = .ok () t' ∧
        ((after before operation).editor.buffer = before.editor.buffer ∨
          (after before operation).editor.buffer = t'.editor.buffer) := by
  intro t operations before operation
  have h : t.editor.caret ≤ t.editor.buffer.length := by
    decide
  exact ⟨h, refusals_spare_line h operations operation⟩

end LineOperation

end LineShell
