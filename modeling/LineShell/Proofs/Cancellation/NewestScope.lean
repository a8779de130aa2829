import LineShell.Cancellation.BreakScope
import LineShell.Proofs.Cancellation.Lineage

/-!
# Which scope the break key hits

Scopes are opened and closed in any order, the break key is pressed, and meanwhile whoever holds
tokens does with them what he likes. The break key hits the newest scope, as long as it was neither
closed nor hit before (`break_hits_newest`): its token is cancelled, and what is derived from it,
and no other scope's. A scope that has lost its place does not get it back.

The slot has a handle of its own on its token. What is done with tokens, the slot's handle included,
is told by the deeds of `deeds`, and what is seen of it from outside by those of `told` (`Backs`).
-/

namespace LineShell.BreakScope

open Tokens (Deed ByHolders ComesFrom Follows IsOrigin origins handles)

/-! ### Acts -/

/-- What can be done with scopes and tokens. -/
inductive Act
  /-- Opens a scope. -/
  | start
  /-- Closes the scope of a token. -/
  | close (t : Token)
  /-- Presses the break key. -/
  | trigger
  /-- Does something with tokens. -/
  | token (deed : Deed)
  deriving DecidableEq, Repr

namespace Act

/-- What an act does to the slot and the tokens. -/
def run (b : BreakScope) : Act → BreakScope
  | start => b.start.2
  | close t => b.close t
  | trigger => b.trigger.2
  | token deed => { b with tokens := deed.run b.tokens }

/-- What an act does to tokens and handles outside of the slot. -/
def deed? : Act → Option Deed
  | start => some .create
  | close t => some (.release t)
  | trigger => none
  | token deed => some deed

/-- What an act does to tokens and handles, the slot's handle included. -/
def deeds (b : BreakScope) : Act → List Deed
  | start => (b.active.map .release).toList ++ [.create, .hold b.tokens.next]
  | close t => if b.active = some t then [.release t, .release t] else [.release t]
  | trigger => b.active.elim [] fun t => [.cancel t, .release t]
  | token deed => [deed]

end Act

/-- The slot and the tokens after some acts. -/
def after (acts : List Act) : BreakScope :=
  acts.foldl Act.run {}

/-- What was done with tokens and handles, the slot's handle included, from some state on. -/
def deedsFrom (b : BreakScope) : List Act → List Deed
  | [] => []
  | act :: acts => act.deeds b ++ deedsFrom (act.run b) acts

/-- What was done with tokens and handles outside of the slot. -/
def told (acts : List Act) : List Deed :=
  acts.filterMap Act.deed?

/-- How many tokens were made. -/
def made (acts : List Act) : Nat :=
  (origins (told acts)).length

/-- The scope of a token was opened, and nothing that ends it was done since. -/
def Opened (ends : Act → Prop) (acts : List Act) (t : Token) : Prop :=
  ∃ first rest, acts = first ++ .start :: rest ∧ t = made first ∧ ∀ act ∈ rest, ¬ ends act

/-- The scope of a token was opened. -/
abbrev WasOpened (acts : List Act) (t : Token) : Prop :=
  Opened (fun _ => False) acts t

/-- The scope of a token is open. -/
abbrev IsOpen (acts : List Act) (t : Token) : Prop :=
  Opened (· = .close t) acts t

/-- The scope of a token is open, none was opened after it, and the break key was not pressed
since. -/
abbrev IsNewest (acts : List Act) (t : Token) : Prop :=
  Opened (· ∈ [.close t, .start, .trigger]) acts t

/-- A scope is closed once, and what is done with tokens is done by holders. The handle of a scope
is not dropped but by closing it. -/
def Act.Allowed (acts : List Act) : Act → Prop
  | start | trigger => True
  | close t => IsOpen acts t
  | token (.release t) => 0 < handles (told acts) t ∧ (IsOpen acts t → 1 < handles (told acts) t)
  | token deed => ∀ t ∈ deed.subject?, 0 < handles (told acts) t

/-- Each act is allowed after those before it. -/
abbrev Possible (acts : List Act) : Prop :=
  InTurn Act.Allowed acts

/-- It was asked to cancel the token, or the break key was pressed while the token's scope was the
newest. -/
def Asked (acts : List Act) (t : Token) : Prop :=
  .token (.cancel t) ∈ acts ∨ ∃ first, first ++ [.trigger] <+: acts ∧ IsNewest first t

instance (ends : Act → Prop) [DecidablePred ends] (acts : List Act) :
    DecidablePred (Opened ends acts) := fun t =>
  decidable_of_iff (∃ first ∈ acts.inits, ∃ rest ∈ acts.tails,
      acts = first ++ .start :: rest ∧ t = made first ∧ ∀ act ∈ rest, ¬ ends act) <| by
    constructor
    · rintro ⟨first, -, rest, -, h⟩
      exact ⟨first, rest, h⟩
    · rintro ⟨first, rest, rfl, h⟩
      refine ⟨first, ?_, rest, ?_, rfl, h⟩
      · exact (List.mem_inits _ _).mpr (List.prefix_append _ _)
      · rw [List.append_cons]
        exact (List.mem_tails _ _).mpr (List.suffix_append _ _)

instance (acts : List Act) : DecidablePred (Act.Allowed acts)
  | .start | .trigger => .isTrue trivial
  | .close _ => inferInstanceAs (Decidable (Opened _ _ _))
  | .token (.release _) => inferInstanceAs (Decidable (_ ∧ (_ → _)))
  | .token .create => .isTrue nofun
  | .token (.derive _) | .token (.hold _) | .token (.cancel _) =>
    inferInstanceAs (Decidable (∀ t ∈ some _, 0 < handles (told acts) t))

variable {acts more : List Act} {act : Act} {ends : Act → Prop} {a t u : Token} {b : BreakScope}
  {deeds outside : List Deed} {deed : Deed}

@[simp] lemma after_concat (acts : List Act) (act : Act) :
    after (acts ++ [act]) = act.run (after acts) := by
  simp [after]

@[simp] lemma told_concat (acts : List Act) (act : Act) :
    told (acts ++ [act]) = told acts ++ act.deed?.toList := by
  cases h : act.deed? <;> simp [told, h]

lemma deedsFrom_append (b : BreakScope) (acts more : List Act) :
    deedsFrom b (acts ++ more) = deedsFrom b acts ++ deedsFrom (acts.foldl Act.run b) more := by
  induction acts generalizing b with
  | nil => rfl
  | cons act acts ih => simp [deedsFrom, ih]

lemma deedsFrom_concat (acts : List Act) (act : Act) :
    deedsFrom {} (acts ++ [act]) = deedsFrom {} acts ++ act.deeds (after acts) := by
  simp [deedsFrom_append, deedsFrom, after]

lemma made_le_made_append (acts more : List Act) : made acts ≤ made (acts ++ more) := by
  simp [made, told, origins, List.filterMap_append]

/-! ### The slot -/

@[simp] lemma active_vacate (b : BreakScope) : b.vacate.active = none := by
  rw [vacate]
  split <;> first | rfl | assumption

@[simp] lemma next_vacate (b : BreakScope) : b.vacate.tokens.next = b.tokens.next := by
  rw [vacate]
  split <;> rfl

lemma snd_start (b : BreakScope) :
    b.start.2 = ⟨((b.vacate.tokens.create none).2).hold b.tokens.next, some b.tokens.next⟩ := by
  rw [← next_vacate b]
  rfl

lemma active_close (b : BreakScope) (t : Token) :
    (b.close t).active = if b.active = some t then none else b.active := by
  rw [close]
  split_ifs <;> simp

lemma trigger_eq (h : b.active = some t) :
    b.trigger = (true, ⟨(b.tokens.cancel t).release t, none⟩) := by
  simp [trigger, vacate, h]

lemma fst_trigger (b : BreakScope) : b.trigger.1 = b.isActive := by
  rw [trigger, isActive]
  split <;> simp_all

lemma sound_trigger (h : b.tokens.Sound) : b.trigger.2.tokens.Sound := by
  cases hactive : b.active with
  | none => rwa [trigger, hactive]
  | some t =>
    rw [trigger_eq hactive]
    exact (h.cancel t).release t

lemma next_trigger (b : BreakScope) : b.trigger.2.tokens.next = b.tokens.next := by
  cases hactive : b.active with
  | none => rw [trigger, hactive]
  | some t =>
    rw [trigger_eq hactive]
    rfl

@[simp] lemma active_trigger (b : BreakScope) : b.trigger.2.active = none := by
  rw [trigger]
  split <;> first | assumption | simp

/-! ### Scopes -/

lemma opened_concat : Opened ends (acts ++ [act]) t ↔
    act = .start ∧ t = made acts ∨ Opened ends acts t ∧ ¬ ends act := by
  constructor
  · rintro ⟨first, rest, heq, ht, hrest⟩
    rcases rest.eq_nil_or_concat with rfl | ⟨rest, last, rfl⟩
    · obtain ⟨rfl, hact⟩ := List.append_inj' heq rfl
      exact .inl ⟨List.singleton_inj.mp hact, ht⟩
    · rw [List.concat_eq_append] at heq hrest
      rw [← List.cons_append, ← List.append_assoc] at heq
      obtain ⟨rfl, hact⟩ := List.append_inj' heq rfl
      obtain rfl := List.singleton_inj.mp hact
      exact .inr ⟨⟨first, rest, rfl, ht, fun a ha => hrest a (by simp [ha])⟩, hrest _ (by simp)⟩
  · rintro (⟨rfl, ht⟩ | ⟨⟨first, rest, rfl, ht, hrest⟩, hact⟩)
    · exact ⟨acts, [], rfl, ht, by simp⟩
    · refine ⟨first, rest ++ [act], by simp, ht, List.forall_mem_append.mpr ⟨hrest, ?_⟩⟩
      exact List.forall_mem_singleton.mpr hact

lemma not_opened_nil : ¬ Opened ends [] t := by
  rintro ⟨first, rest, heq, -⟩
  simp at heq

lemma Opened.not_isOrigin (h : Opened ends acts t) : ¬ IsOrigin (told acts) a t := by
  obtain ⟨first, rest, rfl, rfl, -⟩ := h
  have horigins : origins (told (first ++ .start :: rest)) =
      origins (told first) ++ none :: origins (told rest) := by
    simp [told, origins, Act.deed?, Deed.origin?]
  rw [IsOrigin, horigins, made, List.getElem?_append_right (Nat.le_refl _), Nat.sub_self]
  simp

/-- The token of a scope comes from no other. -/
lemma Opened.eq_of_comesFrom (h : Opened ends acts t) (ha : ComesFrom (told acts) a t) : a = t := by
  cases ha with
  | refl => rfl
  | tail _ hp => exact absurd hp h.not_isOrigin

/-- A scope that is open now was so before, if it had been opened by then. -/
lemma Opened.of_append (h : Opened ends (acts ++ more) t) (ht : t < made acts) :
    Opened ends acts t := by
  induction more using List.reverseRecOn with
  | nil => rwa [List.append_nil] at h
  | append_singleton more act ih =>
    rw [← List.append_assoc, opened_concat] at h
    rcases h with ⟨-, rfl⟩ | ⟨h, -⟩
    · exact absurd ht (Nat.not_lt.mpr (made_le_made_append acts more))
    · exact ih h

/-! ### Handles outside of the slot -/

lemma Act.Allowed.subject (h : (Act.token deed).Allowed acts) :
    ∀ t ∈ deed.subject?, 0 < handles (told acts) t := by
  cases deed with
  | release t => simpa [Deed.subject?] using h.1
  | _ => exact h

lemma Act.Allowed.one_lt (h : act.Allowed acts) (hdeed : act.deed? = some (.release t))
    (hact : act ≠ .close t) (ht : IsOpen acts t) : 1 < handles (told acts) t := by
  cases act with
  | token deed =>
    obtain rfl := Option.some_inj.mp hdeed
    exact h.2 ht
  | close x =>
    cases hdeed
    exact absurd rfl hact
  | _ => cases hdeed

/-- What is done outside of the slot is done by holders, and an open scope has a handle. -/
lemma byHolders_told (h : Possible acts) :
    ByHolders (told acts) ∧ ∀ t, IsOpen acts t → 0 < handles (told acts) t := by
  induction acts using List.reverseRecOn with
  | nil => exact ⟨inTurn_nil, fun t ht => absurd ht not_opened_nil⟩
  | append_singleton acts act ih =>
    obtain ⟨hbefore, hallowed⟩ := inTurn_concat.mp h
    obtain ⟨htold, hopen⟩ := ih hbefore
    have hconcat : ByHolders (told (acts ++ [act])) := by
      rw [told_concat]
      cases act with
      | start => exact Tokens.byHolders_concat.mpr ⟨htold, nofun⟩
      | close t =>
        exact Tokens.byHolders_concat.mpr
          ⟨htold, by simpa [Deed.subject?] using hopen t hallowed⟩
      | trigger => simpa [Act.deed?] using htold
      | token deed => exact Tokens.byHolders_concat.mpr ⟨htold, hallowed.subject⟩
    refine ⟨hconcat, fun t ht => ?_⟩
    rw [told_concat] at hconcat ⊢
    rcases opened_concat.mp ht with ⟨rfl, rfl⟩ | ⟨ht, hact⟩
    · rw [made, Act.deed?, Option.toList_some, Tokens.handles_new htold rfl]
      exact Nat.one_pos
    · have hpos := hopen t ht
      cases hdeed : act.deed? with
      | none => simpa using hpos
      | some deed =>
        rw [hdeed] at hconcat
        refine Tokens.handles_pos_concat hconcat hpos ?_
        rintro rfl
        exact hallowed.one_lt hdeed hact ht

/-! ### The slot's handle -/

/-- The tokens are what some deeds made of them, which are those outside together with what was done
with the slot's handle. -/
structure Backs (deeds outside : List Deed) (b : BreakScope) : Prop where
  tokens_eq : b.tokens = Tokens.after deeds
  byHolders : ByHolders deeds
  byHolders_outside : ByHolders outside
  origins_eq : origins deeds = origins outside
  handles_eq : ∀ t, handles deeds t = handles outside t + if b.active = some t then 1 else 0

namespace Backs

lemma next_eq (h : Backs deeds outside b) : b.tokens.next = (origins outside).length := by
  rw [h.tokens_eq, (Tokens.follows_after h.byHolders).next_eq, h.origins_eq]

lemma handles_pos (h : Backs deeds outside b) (ht : 0 < handles outside t) : 0 < handles deeds t :=
  Nat.lt_of_lt_of_le ht (h.handles_eq t ▸ Nat.le_add_right _ _)

lemma handles_active (h : Backs deeds outside b) (ht : b.active = some t) :
    0 < handles deeds t := by
  rw [h.handles_eq t, if_pos ht]
  exact Nat.succ_pos _

/-- Something is done outside of the slot. -/
lemma append (h : Backs deeds outside b) (hdeed : ByHolders (outside ++ [deed])) :
    Backs (deeds ++ [deed]) (outside ++ [deed]) { b with tokens := deed.run b.tokens } := by
  obtain ⟨houtside, hsubject⟩ := Tokens.byHolders_concat.mp hdeed
  have hmade : ∀ {origin : Option Token}, deed.origin? = some origin → ∀ t,
      handles (deeds ++ [deed]) t = handles (outside ++ [deed]) t +
        if b.active = some t then 1 else 0 := by
    intro origin horigin t
    by_cases ht : t = (origins deeds).length
    · have hidle : b.active ≠ some t := fun hactive =>
        Nat.ne_of_lt (h.byHolders.lt_of_handles (h.handles_active hactive)) ht
      rw [if_neg hidle, ht, Tokens.handles_new h.byHolders horigin, h.origins_eq,
        Tokens.handles_new houtside horigin]
    · rw [Tokens.handles_made horigin ht, Tokens.handles_made horigin (h.origins_eq ▸ ht),
        h.handles_eq t]
  constructor
  case tokens_eq => rw [Tokens.after_concat, h.tokens_eq]
  case byHolders =>
    exact Tokens.byHolders_concat.mpr ⟨h.byHolders, fun t ht => h.handles_pos (hsubject t ht)⟩
  case byHolders_outside => exact hdeed
  case origins_eq => rw [Tokens.origins_concat, Tokens.origins_concat, h.origins_eq]
  case handles_eq =>
    cases deed with
    | create => exact hmade rfl
    | derive => exact hmade rfl
    | hold x =>
      intro t
      have hx := hsubject x rfl
      rw [Tokens.handles_hold hx, Tokens.handles_hold (h.handles_pos hx), h.handles_eq t]
      split_ifs <;> omega
    | release x =>
      intro t
      have hx := hsubject x rfl
      rw [Tokens.handles_release, Tokens.handles_release, h.handles_eq t]
      by_cases htx : t = x
      · subst htx
        rw [if_pos rfl, if_pos rfl, Nat.sub_add_comm hx]
      · rw [if_neg htx, if_neg htx]
    | cancel x =>
      intro t
      rw [Tokens.handles_cancel, Tokens.handles_cancel, h.handles_eq t]

/-- The slot drops its handle. -/
lemma vacate (h : Backs deeds outside b) :
    Backs (deeds ++ (b.active.map .release).toList) outside b.vacate := by
  rw [BreakScope.vacate]
  cases hactive : b.active with
  | none => simpa using h
  | some x =>
    constructor
    case tokens_eq => simp [h.tokens_eq, Deed.run]
    case byHolders =>
      refine Tokens.byHolders_concat.mpr ⟨h.byHolders, fun t ht => ?_⟩
      cases ht
      exact h.handles_active hactive
    case byHolders_outside => exact h.byHolders_outside
    case origins_eq => simp [Deed.origin?, h.origins_eq]
    case handles_eq =>
      intro t
      simp only [Option.map_some, Option.toList_some, Tokens.handles_release, h.handles_eq t,
        hactive, Option.some_inj, reduceCtorEq, if_false, eq_comm (a := x)]
      split_ifs <;> rfl

/-- An empty slot takes a handle on a token. -/
lemma occupy (h : Backs deeds outside b) (hactive : b.active = none)
    (ht : 0 < handles outside t) :
    Backs (deeds ++ [.hold t]) outside { tokens := b.tokens.hold t, active := some t } := by
  have ht' := h.handles_pos ht
  constructor
  case tokens_eq => simp [h.tokens_eq, Deed.run]
  case byHolders =>
    refine Tokens.byHolders_concat.mpr ⟨h.byHolders, fun u hu => ?_⟩
    cases hu
    exact ht'
  case byHolders_outside => exact h.byHolders_outside
  case origins_eq => simp [Deed.origin?, h.origins_eq]
  case handles_eq =>
    intro u
    simp only [Tokens.handles_hold ht', h.handles_eq u, hactive, Option.some_inj, reduceCtorEq,
      if_false, eq_comm (a := t)]
    split_ifs <;> rfl

/-- The token in the slot is cancelled. -/
lemma cancel (h : Backs deeds outside b) (ht : b.active = some t) :
    Backs (deeds ++ [.cancel t]) outside { b with tokens := b.tokens.cancel t } := by
  constructor
  case tokens_eq => simp [h.tokens_eq, Deed.run]
  case byHolders =>
    refine Tokens.byHolders_concat.mpr ⟨h.byHolders, fun u hu => ?_⟩
    cases hu
    exact h.handles_active ht
  case byHolders_outside => exact h.byHolders_outside
  case origins_eq => simp [Deed.origin?, h.origins_eq]
  case handles_eq =>
    intro u
    rw [Tokens.handles_cancel, h.handles_eq u]

/-- The step lemma. -/
lemma run (h : Backs deeds (told acts) b) (hpossible : Possible (acts ++ [act])) :
    Backs (deeds ++ act.deeds b) (told (acts ++ [act])) (act.run b) := by
  have hconcat := (byHolders_told hpossible).1
  rw [told_concat] at hconcat ⊢
  cases act with
  | start =>
    have hnew := h.vacate.append hconcat
    have hheld : 0 < handles (told acts ++ [.create]) b.tokens.next := by
      rw [h.next_eq, Tokens.handles_new h.byHolders_outside rfl]
      exact Nat.one_pos
    have hstarted := hnew.occupy (active_vacate b) hheld
    rw [List.append_assoc, List.append_assoc] at hstarted
    rw [Act.run, snd_start]
    exact hstarted
  | close t =>
    rw [Act.deeds, Act.run, close]
    split_ifs with hactive
    · have hvacated := h.vacate
      rw [hactive] at hvacated
      have hclosed := hvacated.append hconcat
      rw [List.append_assoc] at hclosed
      exact hclosed
    · exact h.append hconcat
  | trigger =>
    rw [Act.deeds, Act.run, trigger]
    cases hactive : b.active with
    | none => simpa [Act.deed?] using h
    | some t =>
      have hcancelled := (h.cancel hactive).vacate
      simpa [hactive, Act.deed?] using hcancelled
  | token deed => exact h.append hconcat

end Backs

/-- The run lemma. -/
lemma backs_after (h : Possible acts) : Backs (deedsFrom {} acts) (told acts) (after acts) := by
  induction acts using List.reverseRecOn with
  | nil =>
    exact ⟨rfl, inTurn_nil, inTurn_nil, rfl, fun t => rfl⟩
  | append_singleton acts act ih =>
    rw [deedsFrom_concat, after_concat]
    exact (ih (inTurn_concat.mp h).1).run h

/-! ### The newest scope -/

/-- The slot has the token of the newest scope, if that is open and was not hit. -/
lemma active_iff (h : Possible acts) : (after acts).active = some t ↔ IsNewest acts t := by
  induction acts using List.reverseRecOn with
  | nil => exact iff_of_false nofun not_opened_nil
  | append_singleton acts act ih =>
    obtain ⟨hbefore, -⟩ := inTurn_concat.mp h
    rw [after_concat, IsNewest, opened_concat, ← IsNewest, ← ih hbefore]
    cases act with
    | start =>
      rw [Act.run, snd_start, (backs_after hbefore).next_eq]
      simp [made, eq_comm]
    | close x =>
      rw [Act.run, active_close]
      split_ifs with hx
      · simp [hx]
      · have hother : (after acts).active = some t → x ≠ t := fun ht hxt => hx (hxt ▸ ht)
        simpa using hother
    | trigger => simp [Act.run]
    | token deed => simp [Act.run]

/-- A scope that is not the newest does not become so again. -/
lemma active_of_append (h : Possible (acts ++ more)) (ht : t < made acts)
    (hactive : (after (acts ++ more)).active = some t) : (after acts).active = some t :=
  (active_iff h.of_append).mpr (((active_iff h).mp hactive).of_append ht)

lemma cancel_mem_deeds (b : BreakScope) (act : Act) :
    .cancel a ∈ act.deeds b ↔ act = .token (.cancel a) ∨ act = .trigger ∧ b.active = some a := by
  cases act with
  | start => cases h : b.active <;> simp [Act.deeds, h]
  | close t =>
    rw [Act.deeds]
    split_ifs <;> simp
  | trigger => cases h : b.active <;> simp [Act.deeds, h, eq_comm]
  | token deed => simp [Act.deeds, eq_comm]

lemma asked_concat : Asked (acts ++ [act]) a ↔
    Asked acts a ∨ act = .token (.cancel a) ∨ act = .trigger ∧ IsNewest acts a := by
  have hlast : (∃ first, first ++ [.trigger] = acts ++ [act] ∧ IsNewest first a) ↔
      act = .trigger ∧ IsNewest acts a := by
    constructor
    · rintro ⟨first, heq, hnewest⟩
      obtain ⟨rfl, hact⟩ := List.append_inj' heq rfl
      exact ⟨(List.singleton_inj.mp hact).symm, hnewest⟩
    · rintro ⟨rfl, hnewest⟩
      exact ⟨acts, rfl, hnewest⟩
  simp only [Asked, List.mem_append, List.mem_singleton, List.prefix_concat_iff, or_and_right,
    exists_or, hlast, eq_comm (b := act), or_assoc, or_left_comm, or_comm]

/-- It was asked to cancel a token, by someone or by the break key. -/
lemma cancel_mem_deedsFrom (h : Possible acts) : .cancel a ∈ deedsFrom {} acts ↔ Asked acts a := by
  induction acts using List.reverseRecOn with
  | nil => simp [deedsFrom, Asked]
  | append_singleton acts act ih =>
    obtain ⟨hbefore, -⟩ := inTurn_concat.mp h
    rw [deedsFrom_concat, List.mem_append, ih hbefore, cancel_mem_deeds, active_iff hbefore,
      asked_concat]

lemma isOrigin_deedsFrom (h : Possible acts) :
    IsOrigin (deedsFrom {} acts) = IsOrigin (told acts) := by
  funext p t
  rw [IsOrigin, (backs_after h).origins_eq, IsOrigin]

lemma isCancelled_iff (h : Possible acts) (ht : 0 < handles (told acts) t) :
    (after acts).tokens.isCancelled t = true ↔ ∃ a, Asked acts a ∧ ComesFrom (told acts) a t := by
  have hbacks := backs_after h
  have hfollows := Tokens.follows_after hbacks.byHolders
  rw [hbacks.tokens_eq, hfollows.isCancelled_iff hbacks.byHolders (hbacks.handles_pos ht)]
  simp only [Tokens.Doomed, cancel_mem_deedsFrom h, ComesFrom, isOrigin_deedsFrom h]

/-- Whether or not there are handles on the token. -/
lemma isCancelled_trigger (h : Possible acts) (t : Token) :
    ((after acts).tokens.isCancelled t = true →
      (after acts).trigger.2.tokens.isCancelled t = true) ∧
    ((after acts).trigger.2.tokens.isCancelled t = true →
      (after acts).tokens.isCancelled t = true ∨
        ∃ a, IsNewest acts a ∧ ComesFrom (told acts) a t) := by
  have hbacks := backs_after h
  cases hactive : (after acts).active with
  | none =>
    have hidle : (after acts).trigger.2 = after acts := by rw [trigger, hactive]
    rw [hidle]
    exact ⟨id, .inl⟩
  | some a =>
    have hfollows := Tokens.follows_after hbacks.byHolders
    have hcancelled := Tokens.follows_after (hbacks.cancel hactive).byHolders
    rw [← (hbacks.cancel hactive).tokens_eq] at hcancelled
    rw [← hbacks.tokens_eq] at hfollows
    obtain ⟨hstay, hsource⟩ := hfollows.isCancelled_cancel a t
    rw [trigger_eq hactive, Tokens.isCancelled_release hcancelled.ordered]
    refine ⟨hstay, fun hc => (hsource hc).imp_right fun hcomes => ?_⟩
    rw [ComesFrom, isOrigin_deedsFrom h] at hcomes
    exact ⟨a, (active_iff h).mp hactive, hcomes⟩

/-- Scopes are opened and closed in any order, the break key is pressed, and whoever holds tokens
does with them what he likes. Then the slot is active as long as the newest scope was neither closed
nor hit, the break key tells so, and what it cancels is the token of that scope with those that come
from it: no other scope's, whether that was closed, gave way to a newer one, or is opened only
later. A token with a handle is cancelled only if that was asked for or if the break key was pressed
while the scope of the token, or of one that it comes from, was the newest. A scope that has lost
its place does not get it back. -/
theorem break_hits_newest (h : Possible acts) :
    let b := after acts
    b.start.1 = made acts ∧ (∀ t, b.active = some t ↔ IsNewest acts t) ∧
      (b.isActive = true ↔ ∃ t, IsNewest acts t) ∧ b.trigger.1 = b.isActive ∧
      (∀ t, 0 < handles (told acts) t → (b.trigger.2.tokens.isCancelled t = true ↔
        b.tokens.isCancelled t = true ∨ ∃ a, IsNewest acts a ∧ ComesFrom (told acts) a t)) ∧
      (∀ t, WasOpened acts t → ¬ IsNewest acts t →
        b.trigger.2.tokens.isCancelled t = b.tokens.isCancelled t) ∧
      (∀ t, 0 < handles (told acts) t → (b.tokens.isCancelled t = true ↔
        ∃ a, Asked acts a ∧ ComesFrom (told acts) a t)) ∧
      (∀ t, WasOpened acts t → ∀ a, ComesFrom (told acts) a t → a = t) ∧
      ∀ more, Possible (acts ++ more) → ∀ t < made acts,
        (after (acts ++ more)).active = some t → b.active = some t := by
  have hbacks := backs_after h
  have hnext : (after acts).start.1 = made acts := (next_vacate _).trans hbacks.next_eq
  refine ⟨hnext, fun t => active_iff h, ?_, fst_trigger _, fun t ht => ?_, fun t ht hnewest => ?_,
    fun t ht => isCancelled_iff h ht, fun t ht a ha => ht.eq_of_comesFrom ha,
    fun more hmore t ht hactive => active_of_append hmore ht hactive⟩
  · rw [isActive, Option.isSome_iff_exists]
    exact exists_congr fun t => active_iff h
  · refine ⟨(isCancelled_trigger h t).2, ?_⟩
    rintro (hc | ⟨a, ha, hcomes⟩)
    · exact (isCancelled_trigger h t).1 hc
    · -- the break key is one more act
      have hlast : Possible (acts ++ [.trigger]) := inTurn_concat.mpr ⟨h, trivial⟩
      have htold : told (acts ++ [.trigger]) = told acts := by simp [Act.deed?]
      have hiff := isCancelled_iff hlast (htold.symm ▸ ht)
      rw [after_concat, htold] at hiff
      exact hiff.mpr ⟨a, asked_concat.mpr (.inr (.inr ⟨rfl, ha⟩)), hcomes⟩
  · refine Bool.eq_iff_iff.mpr ⟨fun hc => ?_, (isCancelled_trigger h t).1⟩
    refine ((isCancelled_trigger h t).2 hc).resolve_right ?_
    rintro ⟨a, ha, hcomes⟩
    exact hnewest (ht.eq_of_comesFrom hcomes ▸ ha)

/-- The older one of two scopes is closed, and something still holds its token. -/
theorem break_hits_newest_nested :
    let acts : List Act := [.start, .start, .token (.derive 1), .token (.hold 0), .close 0]
    let b := after acts
    Possible acts ∧ IsNewest acts 1 ∧ b.trigger.1 = true ∧
      b.trigger.2.tokens.isCancelled 2 = true ∧
      b.trigger.2.tokens.isCancelled 0 = b.tokens.isCancelled 0 := by
  intro acts b
  have hpossible : Possible acts := by decide
  have hnewest : IsNewest acts 1 := by decide
  obtain ⟨-, -, hactive, htrigger, hcancelled, hothers, -⟩ := break_hits_newest hpossible
  refine ⟨hpossible, hnewest, htrigger.trans (hactive.mpr ⟨1, hnewest⟩), ?_,
    hothers 0 (by decide) (by decide)⟩
  exact (hcancelled 2 (by decide)).mpr (.inr ⟨1, hnewest, .single (by decide)⟩)

end LineShell.BreakScope
