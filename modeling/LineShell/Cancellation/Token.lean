/-!
# Cancellation tokens

A token stands for work that can be cancelled. Tokens are derived from one another, and cancelling
a token cancels all that are derived from it, however far down, now or later.

A token keeps the tokens derived from it only as long as they matter. Whenever one more is derived,
it lets go of those that are cancelled, and of those that nobody holds and that keep none that
matters. A cancelled token lets go of all at once. `Tokens` is the state of every token there ever
was, with the links from a token to the one that keeps it.
-/

namespace LineShell

/-- A token, known by its number. -/
abbrev Token := Nat

/-- What is known of a token. -/
structure TokenState where
  number : Token
  /-- Whether the token is cancelled. -/
  cancelled : Bool := false
  /-- How many hold the token. -/
  holders : Nat := 1
  /-- The token that keeps this one, to cancel it together with itself. -/
  keeper : Option Token := none
  deriving DecidableEq, Repr

/-- All tokens. -/
structure Tokens where
  /-- The number of the next token. -/
  next : Token := 0
  /-- The states, the newest token first. A token is kept by an older one. -/
  states : List TokenState := []
  deriving DecidableEq, Repr

namespace Tokens

/-- The state of a token. -/
def find? (ts : Tokens) (t : Token) : Option TokenState :=
  ts.states.find? (·.number == t)

/-- Whether a token is cancelled. -/
def isCancelled (ts : Tokens) (t : Token) : Bool :=
  (ts.find? t).any (·.cancelled)

/-! ### Making and holding tokens -/

/-- A fresh token with one holder, kept by another one or by none. -/
def create (ts : Tokens) (keeper : Option Token) : Token × Tokens :=
  (ts.next, ⟨ts.next + 1, { number := ts.next, keeper } :: ts.states⟩)

/-- Changes the state of a token. -/
def update (t : Token) (f : TokenState → TokenState) : List TokenState → List TokenState
  | [] => []
  | s :: older => if s.number = t then f s :: older else s :: update t f older

/-- The tokens with one more holder of a token. -/
def hold (ts : Tokens) (t : Token) : Tokens :=
  { ts with states := update t (fun s => { s with holders := s.holders + 1 }) ts.states }

/-- The tokens with one holder less of a token. -/
def release (ts : Tokens) (t : Token) : Tokens :=
  { ts with states := update t (fun s => { s with holders := s.holders - 1 }) ts.states }

/-! ### Cancelling -/

/-- Cancels a token and those that it keeps, the older ones first. The result holds the tokens that
were not cancelled before; all of them let go of the tokens they keep. -/
def strike (t : Token) : List TokenState → List Token × List TokenState
  | [] => ([], [])
  | s :: older =>
    let (struck, older) := strike t older
    let kept := s.keeper.any struck.contains
    let s' := if kept then { s with keeper := none } else s
    if (s.number == t || kept) && !s.cancelled then
      (s.number :: struck, { s' with cancelled := true } :: older)
    else
      (struck, s' :: older)

/-- Cancels a token and all that are derived from it. -/
def cancel (ts : Tokens) (t : Token) : Tokens :=
  let (newer, older) := ts.states.span (t ≤ ·.number)
  { ts with states := (strike t newer).2 ++ older }

/-! ### Deriving -/

/-- A token together with those among the newer ones that it keeps, directly or through others, and
that are not cancelled. -/
def keptBy (t : Token) : List TokenState → List Token
  | [] => [t]
  | s :: older =>
    let kept := keptBy t older
    if s.keeper.any kept.contains && !s.cancelled then s.number :: kept else kept

/-- Lets go of the tokens that do not matter among those kept by `keepers`. `needed` are the keepers
of the tokens before in the list. -/
def letGo (keepers : List Token) : List Token → List TokenState → List TokenState
  | _, [] => []
  | needed, s :: older =>
    match s.keeper with
    | none => s :: letGo keepers needed older
    | some k =>
      if keepers.contains k && (s.cancelled || s.holders == 0 && !needed.contains s.number) then
        { s with keeper := none } :: letGo keepers needed older
      else
        s :: letGo keepers (k :: needed) older

/-- Lets go of the tokens that a token keeps, directly or through others, and that do not matter. -/
def prune (ts : Tokens) (t : Token) : Tokens :=
  let (newer, older) := ts.states.span (t < ·.number)
  { ts with states := letGo (keptBy t newer) [] newer ++ older }

/-- Derives a token from another one. It is cancelled from the beginning if the other one is. -/
def derive (ts : Tokens) (t : Token) : Token × Tokens :=
  let (child, ts) := (ts.prune t).create (some t)
  (child, if ts.isCancelled t then ts.cancel child else ts)

end Tokens

end LineShell
