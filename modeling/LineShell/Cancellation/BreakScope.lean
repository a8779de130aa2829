import LineShell.Cancellation.Token

/-!
# The break scope

The break key cancels the token of the scope that was opened last, if that scope is still open and
the key was not pressed since. Opening a scope takes the place of the one before, which is not taken
back when the newer scope is closed.
-/

namespace LineShell

/-- All tokens, and the one that the break key cancels. -/
structure BreakScope where
  tokens : Tokens := {}
  /-- The token of the open scope. -/
  active : Option Token := none
  deriving DecidableEq, Repr

namespace BreakScope

/-- Whether a scope is open. -/
def isActive (b : BreakScope) : Bool :=
  b.active.isSome

/-- Takes the token out of the slot. -/
def vacate (b : BreakScope) : BreakScope :=
  match b.active with
  | none => b
  | some t => { tokens := b.tokens.release t, active := none }

/-- Opens a scope with a fresh token, held by the slot and by whoever opened the scope. -/
def start (b : BreakScope) : Token × BreakScope :=
  let b := b.vacate
  let (t, tokens) := b.tokens.create none
  (t, { tokens := tokens.hold t, active := some t })

/-- Closes the scope of a token. -/
def close (b : BreakScope) (t : Token) : BreakScope :=
  let b := if b.active = some t then b.vacate else b
  { b with tokens := b.tokens.release t }

/-- Cancels the token of the open scope, and tells whether there was one. -/
def trigger (b : BreakScope) : Bool × BreakScope :=
  match b.active with
  | none => (false, b)
  | some t => (true, { b with tokens := b.tokens.cancel t }.vacate)

end BreakScope

end LineShell
