import LineShell.Proofs.Editor.Edit

/-!
# What a console shows

What outputs make of a console that refuses none of them, apart from its record: `Console.display`.
With the record, it is `Console.puts` (`Console.puts_eq_display`).
-/

namespace LineShell

namespace Console

/-- The console after some outputs, but for its record. -/
def display (c : Console) (os : List Output) : Console :=
  os.foldl apply c

@[simp] lemma display_nil (c : Console) : c.display [] = c := rfl

@[simp] lemma display_cons (c : Console) (o : Output) (os : List Output) :
    c.display (o :: os) = (c.apply o).display os := rfl

@[simp] lemma display_append (c : Console) (os os' : List Output) :
    c.display (os ++ os') = (c.display os).display os' :=
  List.foldl_append

lemma apply_withRecord (c : Console) (record : List Output) (o : Output) :
    { c with record }.apply o = { c.apply o with record } := by
  cases o <;> rfl

lemma display_withRecord (c : Console) (record os : List Output) :
    { c with record }.display os = { c.display os with record } := by
  induction os generalizing c with
  | nil => rfl
  | cons o os ih => rw [display_cons, apply_withRecord, ih, display_cons]

lemma puts_eq_display (c : Console) (os : List Output) :
    c.puts os = { c.display os with record := os.reverse ++ c.record } := by
  induction os generalizing c with
  | nil => rfl
  | cons o os ih =>
    rw [puts_cons, ih, display_cons, List.reverse_cons, List.append_assoc]
    show { ({ c.apply o with record := o :: c.record } : Console).display os with
      record := os.reverse ++ o :: c.record } = _
    rw [display_withRecord]
    rfl

@[simp] lemma refusals_display (c : Console) (os : List Output) :
    (c.display os).refusals = c.refusals := by
  have h := refusals_puts c os
  rwa [puts_eq_display] at h

@[simp] lemma queue_display (c : Console) (os : List Output) :
    (c.display os).queue = c.queue := by
  induction os generalizing c with
  | nil => rfl
  | cons o os ih =>
    rw [display_cons, ih]
    cases o <;> rfl

end Console

end LineShell
