/-!
# Failures

Why an operation of the shell did not succeed, and the computations that may fail. A computation
that fails keeps what it changed before: an `Attempt` ends in a value or a failure, and in a state
in either case.
-/

namespace LineShell

/-- What a device or a file refuses with. -/
inductive SystemError
  /-- The file or its directory does not exist. -/
  | notFound
  /-- The name is that of a directory. -/
  | isDirectory
  /-- A part of the path is not a directory. -/
  | notDirectory
  /-- A name is longer than names may be. -/
  | nameTooLong
  /-- A name holds a NUL. -/
  | nulInName
  /-- The bytes are not the encoding of a text. -/
  | notText
  /-- A device gives a reason of its own. -/
  | device (reason : String)
  deriving DecidableEq, Repr

/-- The wording of a refusal. -/
def SystemError.message : SystemError → String
  | .notFound => "No such file or directory (os error 2)"
  | .isDirectory => "Is a directory (os error 21)"
  | .notDirectory => "Not a directory (os error 20)"
  | .nameTooLong => "File name too long (os error 36)"
  | .nulInName => "file name contained an unexpected NUL byte"
  | .notText => "stream did not contain valid UTF-8"
  | .device reason => reason

/-- Why an operation failed. -/
inductive Failure
  /-- A device or a file refused. -/
  | system (error : SystemError)
  /-- A configuration could not be read or understood. -/
  | malformed (reason : String)
  /-- The operation was cancelled. -/
  | cancelled
  /-- A command reports a mistake of the user. -/
  | command (reason : String)
  /-- A command fails for a reason of its own. -/
  | other (reason : String)
  deriving DecidableEq, Repr

/-- The wording of a failure. -/
def Failure.message : Failure → String
  | .system error => "I/O error: " ++ error.message
  | .malformed reason => "YAML error: " ++ reason
  | .cancelled => "operation cancelled"
  | .command reason => reason
  | .other reason => reason

/-- A computation on a state that may fail. -/
abbrev Attempt (σ α : Type) := EStateM Failure σ α

/-- A computation on a part of a state, done on the whole. -/
def Attempt.within {σ τ α : Type} (get : τ → σ) (set : σ → τ → τ) (a : Attempt σ α) :
    Attempt τ α := fun t =>
  match a (get t) with
  | .ok value s => .ok value (set s t)
  | .error failure s => .error failure (set s t)

/-! ### Schedules of refusals -/

/-- Which of the calls to come are refused: each number says how many calls succeed before one is
refused. When the list is used up, all calls succeed. -/
abbrev Refusals := List Nat

namespace Refusals

/-- Whether the next call is refused, and the schedule after it. -/
def next : Refusals → Bool × Refusals
  | [] => (false, [])
  | 0 :: rest => (true, rest)
  | (n + 1) :: rest => (false, n :: rest)

/-- The schedule in which the call of a number is refused, the next call having number one. -/
def only : Nat → Refusals
  | 0 => []
  | n + 1 => [n]

@[simp] theorem next_nil : next [] = (false, []) := rfl

end Refusals

end LineShell
