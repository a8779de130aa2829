import LineShell.Proofs.Cancellation.States
import Mathlib.Data.List.Infix
import Mathlib.Logic.Relation

/-!
# Which tokens are cancelled

What happens to tokens is told by deeds, one after the other: tokens are made and derived from one
another, handles on them are copied and dropped, and they are cancelled. As long as every deed is
done by someone who has a handle, a token with a handle is cancelled exactly if it was asked for, of
the token itself or of one that it comes from (`cancelled_with_ancestors`). Neither the links that
tokens keep nor which handles are dropped in between matters.

The links that are left are told by the deeds as well (`Follows`): no token that is held and not
cancelled was let go of by the one that it is derived from, and neither were those it comes from.
-/

namespace LineShell

/-! ### One after the other -/

/-- Each is allowed after those before it. -/
def InTurn {α : Type*} (allowed : List α → α → Prop) (all : List α) : Prop :=
  ∀ earlier a, earlier ++ [a] <+: all → allowed earlier a

section InTurn

variable {α : Type*} {allowed : List α → α → Prop} {all more : List α} {a : α}

lemma inTurn_nil : InTurn allowed [] := by
  intro earlier a h
  simp at h

lemma inTurn_concat : InTurn allowed (all ++ [a]) ↔ InTurn allowed all ∧ allowed all a := by
  constructor
  · intro h
    exact ⟨fun earlier b hb => h earlier b (hb.trans (List.prefix_append _ _)),
      h all a (List.prefix_refl _)⟩
  · rintro ⟨h, hlast⟩ earlier b hb
    rcases List.prefix_concat_iff.mp hb with heq | hb
    · obtain ⟨rfl, hsingle⟩ := List.append_inj' heq rfl
      obtain rfl := List.singleton_inj.mp hsingle
      exact hlast
    · exact h earlier b hb

lemma InTurn.of_append (h : InTurn allowed (all ++ more)) : InTurn allowed all :=
  fun earlier a ha => h earlier a (ha.trans (List.prefix_append _ _))

instance [DecidableEq α] [∀ earlier, DecidablePred (allowed earlier)] :
    DecidablePred (InTurn allowed) := fun all =>
  decidable_of_iff
    (∀ earlier ∈ all.inits, ∀ a ∈ all, earlier ++ [a] <+: all → allowed earlier a) <| by
    constructor
    · intro h earlier a ha
      have hearlier := (List.mem_inits _ _).mpr ((List.prefix_append earlier [a]).trans ha)
      exact h earlier hearlier a (ha.subset (by simp)) ha
    · exact fun h earlier _ a _ ha => h earlier a ha

end InTurn

end LineShell

namespace LineShell.Tokens

/-! ### Deeds -/

/-- What can be done with tokens, each known by its number. -/
inductive Deed
  /-- Makes a token. -/
  | create
  /-- Derives a token from another one. -/
  | derive (t : Token)
  /-- Makes one more handle on a token. -/
  | hold (t : Token)
  /-- Drops a handle on a token. -/
  | release (t : Token)
  /-- Cancels a token. -/
  | cancel (t : Token)
  deriving DecidableEq, Repr

namespace Deed

/-- What a deed does to the tokens. -/
def run (ts : Tokens) : Deed → Tokens
  | create => (ts.create none).2
  | derive t => (ts.derive t).2
  | hold t => ts.hold t
  | release t => ts.release t
  | cancel t => ts.cancel t

/-- The token that a handle is needed on. -/
def subject? : Deed → Option Token
  | create => none
  | derive t | hold t | release t | cancel t => some t

/-- The token that the one made by a deed is derived from, if the deed makes one. -/
def origin? : Deed → Option (Option Token)
  | create => some none
  | derive t => some (some t)
  | _ => none

end Deed

/-- The tokens after some deeds. -/
def after (deeds : List Deed) : Tokens :=
  deeds.foldl Deed.run {}

/-- What the tokens are derived from, in the order of their numbers. -/
def origins (deeds : List Deed) : List (Option Token) :=
  deeds.filterMap Deed.origin?

/-- How many handles there are on a token: the one it came with and those made later, less those
dropped. -/
def handles (deeds : List Deed) (t : Token) : Nat :=
  (if t < (origins deeds).length then 1 else 0) + deeds.count (.hold t) - deeds.count (.release t)

/-- Each deed is done by someone who has a handle. -/
def ByHolders (deeds : List Deed) : Prop :=
  InTurn (fun earlier deed => ∀ t ∈ deed.subject?, 0 < handles earlier t) deeds

/-- The one token is derived from the other. -/
def IsOrigin (deeds : List Deed) (p t : Token) : Prop :=
  (origins deeds)[t]? = some (some p)

/-- The one token is the other or was derived from it through any number of others. -/
def ComesFrom (deeds : List Deed) (a t : Token) : Prop :=
  Relation.ReflTransGen (IsOrigin deeds) a t

/-- It was asked to cancel the token or one that it comes from. -/
def Doomed (deeds : List Deed) (t : Token) : Prop :=
  ∃ a, Deed.cancel a ∈ deeds ∧ ComesFrom deeds a t

instance : DecidablePred ByHolders := fun _ => inferInstanceAs (Decidable (InTurn _ _))

instance (deeds : List Deed) (p t : Token) : Decidable (IsOrigin deeds p t) :=
  inferInstanceAs (Decidable (_ = _))

variable {deeds : List Deed} {deed : Deed} {a p t u x : Token} {ts : Tokens}

@[simp] lemma after_concat (deeds : List Deed) (deed : Deed) :
    after (deeds ++ [deed]) = deed.run (after deeds) := by
  simp [after]

@[simp] lemma origins_concat (deeds : List Deed) (deed : Deed) :
    origins (deeds ++ [deed]) = origins deeds ++ deed.origin?.toList := by
  cases h : deed.origin? <;> simp [origins, h]

lemma byHolders_concat :
    ByHolders (deeds ++ [deed]) ↔ ByHolders deeds ∧ ∀ t ∈ deed.subject?, 0 < handles deeds t :=
  inTurn_concat

/-! ### Where tokens come from -/

/-- Every deed is done with a token that was made before. -/
lemma ByHolders.lt_of_mem (h : ByHolders deeds) :
    ∀ deed ∈ deeds, ∀ t ∈ deed.subject?, t < (origins deeds).length := by
  induction deeds using List.reverseRecOn with
  | nil => exact List.forall_mem_nil _
  | append_singleton deeds deed ih =>
    obtain ⟨hdeeds, hdeed⟩ := byHolders_concat.mp h
    have hmade : ∀ d ∈ deeds ++ [deed], ∀ t ∈ d.subject?, t < (origins deeds).length := by
      refine List.forall_mem_append.mpr ⟨ih hdeeds, List.forall_mem_singleton.mpr fun t ht => ?_⟩
      have hpos := hdeed t ht
      by_contra hlt
      -- no handle on the token was made so far
      have hcount : deeds.count (.hold t) = 0 :=
        List.count_eq_zero.mpr fun hmem => hlt (ih hdeeds _ hmem t rfl)
      simp [handles, hlt, hcount] at hpos
    intro d hd t ht
    rw [origins_concat, List.length_append]
    exact Nat.lt_add_right _ (hmade d hd t ht)

lemma ByHolders.lt_of_handles (h : ByHolders deeds) (ht : 0 < handles deeds t) :
    t < (origins deeds).length := by
  have hlast : ByHolders (deeds ++ [.release t]) :=
    byHolders_concat.mpr ⟨h, fun u hu => Option.mem_some_iff.mp hu ▸ ht⟩
  have hlt := hlast.lt_of_mem (.release t) (by simp) t rfl
  simpa [Deed.origin?] using hlt

lemma isOrigin_concat : IsOrigin (deeds ++ [deed]) p t ↔
    IsOrigin deeds p t ∨ t = (origins deeds).length ∧ deed = .derive p := by
  rw [IsOrigin, IsOrigin, origins_concat]
  rcases Nat.lt_trichotomy t (origins deeds).length with hlt | rfl | hlt
  · simp [List.getElem?_append_left hlt, Nat.ne_of_lt hlt]
  · rw [List.getElem?_append_right (Nat.le_refl _)]
    cases deed <;> simp [Deed.origin?]
  · have hnone : (origins deeds ++ deed.origin?.toList)[t]? = none := by
      rw [List.getElem?_eq_none_iff, List.length_append]
      cases deed <;> simp [Deed.origin?] <;> omega
    simp [hnone, List.getElem?_eq_none_iff.mpr (Nat.le_of_lt hlt), Nat.ne_of_gt hlt]

lemma IsOrigin.lt_length (h : IsOrigin deeds p t) : t < (origins deeds).length :=
  (List.getElem?_eq_some_iff.mp h).1

lemma ByHolders.lt_of_isOrigin (h : ByHolders deeds) (hp : IsOrigin deeds p t) : p < t := by
  induction deeds using List.reverseRecOn with
  | nil => simp [IsOrigin, origins] at hp
  | append_singleton deeds deed ih =>
    obtain ⟨hdeeds, hdeed⟩ := byHolders_concat.mp h
    rcases isOrigin_concat.mp hp with hp | ⟨rfl, rfl⟩
    · exact ih hdeeds hp
    · exact hdeeds.lt_of_handles (hdeed p rfl)

/-- What comes later does not change where tokens come from. -/
lemma comesFrom_concat (h : ByHolders (deeds ++ [deed])) (ht : t < (origins deeds).length) :
    ComesFrom (deeds ++ [deed]) a t ↔ ComesFrom deeds a t := by
  constructor
  · intro ha
    induction ha with
    | refl => exact .refl
    | @tail p t ha hp ih =>
      have hp' := (isOrigin_concat.mp hp).resolve_right fun hnew => Nat.ne_of_lt ht hnew.1
      exact (ih (Nat.lt_trans (h.lt_of_isOrigin hp) ht)).tail hp'
  · exact Relation.ReflTransGen.mono (fun _ _ hp => isOrigin_concat.mpr (.inl hp)) a t

lemma doomed_concat (h : ByHolders (deeds ++ [deed])) (ht : t < (origins deeds).length) :
    Doomed (deeds ++ [deed]) t ↔ Doomed deeds t ∨ ∃ x, deed = .cancel x ∧ ComesFrom deeds x t := by
  simp only [Doomed, comesFrom_concat h ht, List.mem_append, List.mem_singleton, or_and_right,
    exists_or, eq_comm (b := deed)]

/-- A token is doomed along with each one that it comes from. -/
lemma Doomed.of_comesFrom (h : Doomed deeds a) (ha : ComesFrom deeds a t) : Doomed deeds t := by
  obtain ⟨x, hcancel, hx⟩ := h
  exact ⟨x, hcancel, hx.trans ha⟩

/-- A token that was just made comes from the one that it was derived from, if there is one. -/
lemma comesFrom_new (h : ByHolders (deeds ++ [deed])) (ha : a < (origins deeds).length) :
    ComesFrom (deeds ++ [deed]) a (origins deeds).length ↔
      ∃ p, deed = .derive p ∧ ComesFrom deeds a p := by
  constructor
  · intro hcomes
    cases hcomes with
    | refl => exact absurd ha (Nat.lt_irrefl _)
    | @tail p _ hcomes hp =>
      rcases isOrigin_concat.mp hp with hp | ⟨-, rfl⟩
      · exact absurd hp.lt_length (Nat.lt_irrefl _)
      · have hlt := h.lt_of_isOrigin (isOrigin_concat.mpr (.inr ⟨rfl, rfl⟩))
        exact ⟨p, rfl, (comesFrom_concat h hlt).mp hcomes⟩
  · rintro ⟨p, rfl, hcomes⟩
    have hp : IsOrigin (deeds ++ [.derive p]) p (origins deeds).length :=
      isOrigin_concat.mpr (.inr ⟨rfl, rfl⟩)
    exact ((comesFrom_concat h (h.lt_of_isOrigin hp)).mpr hcomes).tail hp

lemma doomed_new (h : ByHolders (deeds ++ [deed])) (hdeed : ∀ x, deed ≠ .cancel x) :
    Doomed (deeds ++ [deed]) (origins deeds).length ↔ ∃ p, deed = .derive p ∧ Doomed deeds p := by
  have hcancel : ∀ a, Deed.cancel a ∈ deeds ++ [deed] ↔ Deed.cancel a ∈ deeds := by
    intro a
    simp [(hdeed a).symm]
  have hlt : ∀ a, Deed.cancel a ∈ deeds → a < (origins deeds).length :=
    fun a ha => (byHolders_concat.mp h).1.lt_of_mem _ ha a rfl
  constructor
  · rintro ⟨a, ha, hcomes⟩
    rw [hcancel] at ha
    obtain ⟨p, hp, hcomes⟩ := (comesFrom_new h (hlt a ha)).mp hcomes
    exact ⟨p, hp, a, ha, hcomes⟩
  · rintro ⟨p, hp, a, ha, hcomes⟩
    exact ⟨a, (hcancel a).mpr ha, (comesFrom_new h (hlt a ha)).mpr ⟨p, hp, hcomes⟩⟩

/-! ### Handles -/

lemma handles_hold (hx : 0 < handles deeds x) :
    handles (deeds ++ [.hold x]) t = if t = x then handles deeds t + 1 else handles deeds t := by
  simp only [handles, origins_concat, Deed.origin?, Option.toList_none, List.append_nil,
    List.count_append, List.count_singleton, reduceCtorEq, beq_iff_eq, Deed.hold.injEq] at hx ⊢
  split_ifs <;> grind

lemma handles_release :
    handles (deeds ++ [.release x]) t =
      if t = x then handles deeds t - 1 else handles deeds t := by
  simp only [handles, origins_concat, Deed.origin?, Option.toList_none, List.append_nil,
    List.count_append, List.count_singleton, reduceCtorEq, beq_iff_eq, Deed.release.injEq]
  split_ifs <;> grind

lemma handles_cancel : handles (deeds ++ [.cancel x]) t = handles deeds t := by
  simp [handles, Deed.origin?]

lemma handles_made {origin : Option Token} (h : deed.origin? = some origin)
    (ht : t ≠ (origins deeds).length) : handles (deeds ++ [deed]) t = handles deeds t := by
  have hlt : t < (origins (deeds ++ [deed])).length ↔ t < (origins deeds).length := by
    rw [origins_concat, h, List.length_append, Option.toList_some, List.length_singleton,
      Nat.lt_succ_iff_lt_or_eq, or_iff_left ht]
  cases deed <;> simp_all [handles, Deed.origin?]

lemma handles_new (h : ByHolders deeds) {origin : Option Token}
    (hdeed : deed.origin? = some origin) :
    handles (deeds ++ [deed]) (origins deeds).length = 1 := by
  have hhold : deeds.count (.hold (origins deeds).length) = 0 :=
    List.count_eq_zero.mpr fun hmem => Nat.lt_irrefl _ (h.lt_of_mem _ hmem _ rfl)
  have hrelease : deeds.count (.release (origins deeds).length) = 0 :=
    List.count_eq_zero.mpr fun hmem => Nat.lt_irrefl _ (h.lt_of_mem _ hmem _ rfl)
  cases deed <;> simp_all [handles, Deed.origin?]

/-- A handle stays unless it is the last one and is dropped. -/
lemma handles_pos_concat (h : ByHolders (deeds ++ [deed])) (ht : 0 < handles deeds t)
    (hlast : deed = .release t → 1 < handles deeds t) : 0 < handles (deeds ++ [deed]) t := by
  obtain ⟨hbefore, hsubject⟩ := byHolders_concat.mp h
  have hne : t ≠ (origins deeds).length := Nat.ne_of_lt (hbefore.lt_of_handles ht)
  cases deed with
  | create => rwa [handles_made rfl hne]
  | derive => rwa [handles_made rfl hne]
  | hold x =>
    rw [handles_hold (hsubject x rfl)]
    split_ifs <;> omega
  | release x =>
    rw [handles_release]
    split_ifs with htx
    · exact Nat.sub_pos_of_lt (hlast (htx ▸ rfl))
    · exact ht
  | cancel x => rwa [handles_cancel]

/-! ### What is left of the lineage -/

/-- The tokens are what some deeds made of them. A token may have been let go of by the one that it
is derived from, but not if it is held and will have to be cancelled when the other one is, and
neither may those have been that it comes from. -/
structure Follows (deeds : List Deed) (ts : Tokens) : Prop extends ts.Sound where
  next_eq : ts.next = (origins deeds).length
  exists_state : ∀ n < ts.next, ∃ s ∈ ts.states, s.number = n
  holders_eq : ∀ s ∈ ts.states, s.holders = handles deeds s.number
  isOrigin : ∀ s ∈ ts.states, ∀ k ∈ s.keeper, IsOrigin deeds k s.number
  doomed : ∀ s ∈ ts.states, s.cancelled = true → Doomed deeds s.number
  cancelled : ∀ s ∈ ts.states, 0 < s.holders → Doomed deeds s.number → s.cancelled = true
  keeper_eq : ∀ s ∈ ts.states, 0 < s.holders → ¬ Doomed deeds s.number →
    ∀ u ∈ ts.states, ComesFrom deeds u.number s.number →
      ∀ p, IsOrigin deeds p u.number → u.keeper = some p

namespace Follows

variable {s : TokenState}

lemma empty : Follows [] {} :=
  ⟨sound_empty, rfl, by simp, by simp, by simp, by simp, by simp, by simp⟩

/-- A token that is held, and not doomed, was not cancelled, and neither were those it comes from.
-/
lemma cancelled_eq_false (h : Follows deeds ts) (hs : s ∈ ts.states) (ht : ¬ Doomed deeds t)
    (hcomes : ComesFrom deeds s.number t) : s.cancelled = false :=
  Bool.eq_false_iff.mpr fun hcancelled => ht ((h.doomed s hs hcancelled).of_comesFrom hcomes)

/-- A change of single states under which the links that are needed stay. -/
lemma map {deeds' : List Deed} (h : Follows deeds ts) {f : TokenState → TokenState}
    (horigins : origins deeds' = origins deeds) (hnumber : ∀ s, (f s).number = s.number)
    (hkeeper : ∀ s, ∀ k ∈ (f s).keeper, k ∈ s.keeper)
    (hholders : ∀ s ∈ ts.states, (f s).holders = handles deeds' s.number)
    (hdoomed : ∀ s ∈ ts.states, (f s).cancelled = true → Doomed deeds' s.number)
    (hcancelled : ∀ s ∈ ts.states, 0 < handles deeds' s.number → Doomed deeds' s.number →
      (f s).cancelled = true)
    (hkept : ∀ s ∈ ts.states, 0 < handles deeds' s.number → ¬ Doomed deeds' s.number →
      ∀ u ∈ ts.states, ComesFrom deeds u.number s.number →
        ∀ p, IsOrigin deeds p u.number → (f u).keeper = some p) :
    Follows deeds' { ts with states := ts.states.map f } := by
  have hisOrigin : IsOrigin deeds' = IsOrigin deeds := by
    funext p t
    rw [IsOrigin, horigins, IsOrigin]
  constructor
  case next_eq => rw [horigins, h.next_eq]
  case toSound => exact h.toSound.map hnumber hkeeper
  case exists_state =>
    intro n hn
    obtain ⟨s, hs, rfl⟩ := h.exists_state n hn
    exact ⟨f s, List.mem_map_of_mem hs, hnumber s⟩
  all_goals simp only [List.forall_mem_map, hnumber]
  case holders_eq => exact hholders
  case isOrigin =>
    intro s hs k hk
    rw [hisOrigin]
    exact h.isOrigin s hs k (hkeeper s k hk)
  case doomed => exact hdoomed
  case cancelled =>
    intro s hs hheld
    rw [hholders s hs] at hheld
    exact hcancelled s hs hheld
  case keeper_eq =>
    intro s hs hheld hsafe u hu
    rw [hholders s hs] at hheld
    rw [ComesFrom, hisOrigin]
    exact hkept s hs hheld hsafe u hu

/-- To let go of tokens that do not matter changes nothing of this. -/
lemma prune (h : Follows deeds ts) (t : Token) : Follows deeds (ts.prune t) := by
  obtain ⟨freed, hspares, heq⟩ := exists_prune_eq h.ordered t
  rw [heq]
  apply h.map rfl (number_loosen freed)
  · exact fun s k hk => mem_keeper_of_loosen hk
  · intro s hs
    rw [holders_loosen, h.holders_eq s hs]
  · intro s hs
    rw [cancelled_loosen]
    exact h.doomed s hs
  · intro s hs hheld hdoomed
    rw [cancelled_loosen]
    rw [← h.holders_eq s hs] at hheld
    exact h.cancelled s hs hheld hdoomed
  · intro s hs hheld hsafe u hu hcomes p hp
    rw [← h.holders_eq s hs] at hheld
    have hkeeper := h.keeper_eq s hs hheld hsafe
    -- by induction on the way from the token that is held to those that it comes from
    have hspared : ∀ n, ComesFrom deeds n s.number → n ∉ freed := by
      intro n hn
      induction hn using Relation.ReflTransGen.head_induction_on with
      | refl => exact hspares.2 s hs (h.cancelled_eq_false hs hsafe .refl) (.inl hheld)
      | @head n m hnm hm ih =>
        have hmade : m < ts.next := h.next_eq ▸ hnm.lt_length
        obtain ⟨r, hr, rfl⟩ := h.exists_state m hmade
        have hkept := hkeeper r hr hm n hnm
        obtain ⟨o, ho, rfl⟩ :=
          h.exists_state n (Nat.lt_trans (h.ordered.keeper_lt r hr n hkept) hmade)
        have hsafe' := h.cancelled_eq_false ho hsafe (.head hnm hm)
        exact hspares.2 o ho hsafe' (.inr (.inr ⟨r, hr, ih, hkept⟩))
    rw [loosen, if_neg (hspared u.number hcomes)]
    exact hkeeper u hu hcomes p hp

lemma lt_length (h : Follows deeds ts) (hs : s ∈ ts.states) : s.number < (origins deeds).length :=
  h.next_eq ▸ h.lt_next s hs

/-- Another number of handles on a token that is held. -/
lemma update (h : Follows deeds ts) (hdeeds : ByHolders (deeds ++ [deed]))
    (hsubject : deed.subject? = some t) (horigin : deed.origin? = none)
    (hcancel : ∀ x, deed ≠ .cancel x) (f : Nat → Nat)
    (hhandles : ∀ u, handles (deeds ++ [deed]) u =
      if u = t then f (handles deeds u) else handles deeds u) :
    Follows (deeds ++ [deed]) { ts with
      states := Tokens.update t (fun s => { s with holders := f s.holders }) ts.states } := by
  have hdoomed : ∀ s ∈ ts.states, (Doomed (deeds ++ [deed]) s.number ↔ Doomed deeds s.number) := by
    intro s hs
    simp [doomed_concat hdeeds (h.lt_length hs), hcancel]
  have hheld : ∀ s ∈ ts.states, 0 < handles (deeds ++ [deed]) s.number → 0 < s.holders := by
    intro s hs hpos
    rw [h.holders_eq s hs]
    by_cases ht : s.number = t
    · exact ht ▸ (byHolders_concat.mp hdeeds).2 t hsubject
    · rwa [hhandles, if_neg ht] at hpos
  rw [update_eq h.ordered]
  apply h.map
  · rw [origins_concat, horigin, Option.toList_none, List.append_nil]
  · intro s
    split_ifs <;> rfl
  · intro s k hk
    split_ifs at hk <;> exact hk
  · intro s hs
    rw [hhandles, ← h.holders_eq s hs]
    split_ifs <;> rfl
  · intro s hs hc
    refine (hdoomed s hs).mpr (h.doomed s hs ?_)
    split_ifs at hc <;> exact hc
  · intro s hs hpos hdoom
    have hc := h.cancelled s hs (hheld s hs hpos) ((hdoomed s hs).mp hdoom)
    split_ifs <;> exact hc
  · intro s hs hpos hsafe u hu hcomes p hp
    have hk := h.keeper_eq s hs (hheld s hs hpos) (fun hdoom => hsafe ((hdoomed s hs).mpr hdoom)) u
      hu hcomes p hp
    split_ifs <;> exact hk

lemma hold (h : Follows deeds ts) (hdeeds : ByHolders (deeds ++ [.hold t])) :
    Follows (deeds ++ [.hold t]) (ts.hold t) := by
  have hheld : 0 < handles deeds t := (byHolders_concat.mp hdeeds).2 t rfl
  exact h.update hdeeds rfl rfl nofun (· + 1) fun u => handles_hold hheld

lemma release (h : Follows deeds ts) (hdeeds : ByHolders (deeds ++ [.release t])) :
    Follows (deeds ++ [.release t]) (ts.release t) :=
  h.update hdeeds rfl rfl nofun (· - 1) fun _ => handles_release

/-- What is struck with a token comes from it. -/
lemma comesFrom_of_mem (h : Follows deeds ts) {struck : List Token}
    (hstrikes : Strikes t ts.states struck) : ∀ n ∈ struck, ComesFrom deeds t n := by
  intro n
  induction n using Nat.strong_induction_on with
  | h n ih =>
    intro hn
    obtain ⟨s, hs, rfl, -, rfl | ⟨k, hk, hkeeper⟩⟩ := (hstrikes n).mp hn
    · exact .refl
    · exact (ih k (h.ordered.keeper_lt s hs k hkeeper) hk).tail (h.isOrigin s hs k hkeeper)

/-- To cancel a token cancels none but those that come from it, and sets none free. -/
lemma isCancelled_cancel (h : Follows deeds ts) (t u : Token) :
    (ts.isCancelled u = true → (ts.cancel t).isCancelled u = true) ∧
      ((ts.cancel t).isCancelled u = true → ts.isCancelled u = true ∨ ComesFrom deeds t u) := by
  obtain ⟨struck, hstrikes, heq⟩ := exists_cancel_eq h.ordered t
  have hany : (ts.cancel t).isCancelled u =
      (ts.find? u).any fun s => s.cancelled || struck.contains s.number := by
    rw [heq, isCancelled, find?, List.find?_map, Option.any_map]
    rfl
  rw [hany, isCancelled]
  cases hfind : ts.find? u with
  | none => simp
  | some s =>
    obtain rfl : s.number = u := by simpa using List.find?_some hfind
    simp only [Option.any_some, Bool.or_eq_true, List.contains_iff_mem]
    exact ⟨.inl, Or.imp_right (h.comesFrom_of_mem hstrikes s.number)⟩

/-- Those are cancelled that were not let go of: among them are all that come from the token and are
held. -/
lemma cancel (h : Follows deeds ts) (hdeeds : ByHolders (deeds ++ [.cancel t])) :
    Follows (deeds ++ [.cancel t]) (ts.cancel t) := by
  obtain ⟨struck, hstrikes, heq⟩ := exists_cancel_eq h.ordered t
  have hsound := h.comesFrom_of_mem hstrikes
  have hdoomed : ∀ s ∈ ts.states, (Doomed (deeds ++ [.cancel t]) s.number ↔
      Doomed deeds s.number ∨ ComesFrom deeds t s.number) := by
    intro s hs
    simp [doomed_concat hdeeds (h.lt_length hs)]
  rw [heq]
  apply h.map
  · simp [Deed.origin?]
  · exact fun _ => rfl
  · exact fun s k hk => mem_keeper_of_sweep hk
  · intro s hs
    rw [handles_cancel]
    exact h.holders_eq s hs
  · intro s hs hc
    rw [hdoomed s hs]
    rcases Bool.or_eq_true_iff.mp hc with hc | hc
    · exact .inl (h.doomed s hs hc)
    · exact .inr (hsound _ (by simpa using hc))
  · intro s hs hpos hdoom
    rw [handles_cancel, ← h.holders_eq s hs] at hpos
    refine Bool.or_eq_true_iff.mpr ?_
    by_cases hbefore : Doomed deeds s.number
    · exact .inl (h.cancelled s hs hpos hbefore)
    right
    have hall : ∀ n, ComesFrom deeds t n → ComesFrom deeds n s.number → n ∈ struck := by
      intro n hn
      induction hn with
      | refl =>
        intro hcomes
        have hmade : t < ts.next :=
          h.next_eq ▸ (byHolders_concat.mp hdeeds).1.lt_of_handles
            ((byHolders_concat.mp hdeeds).2 t rfl)
        obtain ⟨o, ho, hnumber⟩ := h.exists_state t hmade
        have hsafe := h.cancelled_eq_false ho hbefore (hnumber ▸ hcomes)
        exact (hstrikes t).mpr ⟨o, ho, hnumber, hsafe, .inl rfl⟩
      | @tail m n hm hmn ih =>
        intro hcomes
        obtain ⟨o, ho, rfl⟩ := h.exists_state n (h.next_eq ▸ hmn.lt_length)
        have hsafe := h.cancelled_eq_false ho hbefore hcomes
        have hkept := h.keeper_eq s hs hpos hbefore o ho hcomes m hmn
        exact (hstrikes _).mpr ⟨o, ho, rfl, hsafe, .inr ⟨m, ih (.head hmn hcomes), hkept⟩⟩
    simpa using hall _ (((hdoomed s hs).mp hdoom).resolve_left hbefore) .refl
  · intro s hs hpos hsafe u hu hcomes p hp
    rw [handles_cancel, ← h.holders_eq s hs] at hpos
    rw [hdoomed s hs, not_or] at hsafe
    have hk := h.keeper_eq s hs hpos hsafe.1 u hu hcomes p hp
    have hp' : p ∉ struck := fun hmem => hsafe.2 (((hsound p hmem).tail hp).trans hcomes)
    simp [sweep, hk, hp']

/-- A token is made, with a link from the one that it is derived from. -/
lemma cons (h : Follows deeds ts) (hdeeds : ByHolders (deeds ++ [deed])) {origin : Option Token}
    (horigin : deed.origin? = some origin) {cancelled : Bool}
    (hcancelled : cancelled = true ↔ ∃ p, deed = .derive p ∧ Doomed deeds p) :
    Follows (deeds ++ [deed]) ⟨ts.next + 1,
      { number := ts.next, cancelled, keeper := origin } :: ts.states⟩ := by
  obtain ⟨hbefore, hsubject⟩ := byHolders_concat.mp hdeeds
  have hderive : ∀ p, origin = some p ↔ deed = .derive p := by
    intro p
    cases deed <;> simp_all [Deed.origin?, eq_comm]
  have hcancel : ∀ x, deed ≠ .cancel x := by
    rintro x rfl
    cases horigin
  have hnew : Doomed (deeds ++ [deed]) ts.next ↔ ∃ p, deed = .derive p ∧ Doomed deeds p := by
    rw [h.next_eq]
    exact doomed_new hdeeds hcancel
  have hold : ∀ s ∈ ts.states, (Doomed (deeds ++ [deed]) s.number ↔ Doomed deeds s.number) := by
    intro s hs
    simp [doomed_concat hdeeds (h.lt_length hs), hcancel]
  have hkeeper : ∀ p ∈ origin, IsOrigin (deeds ++ [deed]) p ts.next :=
    fun p hp => isOrigin_concat.mpr (.inr ⟨h.next_eq, (hderive p).mp hp⟩)
  constructor
  case next_eq => rw [origins_concat, horigin, List.length_append, h.next_eq]; rfl
  case toSound => exact h.toSound.cons rfl fun k hk => hdeeds.lt_of_isOrigin (hkeeper k hk)
  case exists_state =>
    intro n hn
    rcases Nat.lt_succ_iff_lt_or_eq.mp hn with hn | rfl
    · obtain ⟨s, hs, hnumber⟩ := h.exists_state n hn
      exact ⟨s, List.mem_cons_of_mem _ hs, hnumber⟩
    · exact ⟨_, List.mem_cons_self, rfl⟩
  all_goals rw [List.forall_mem_cons]
  case holders_eq =>
    refine ⟨?_, fun s hs => ?_⟩
    · rw [h.next_eq, handles_new hbefore horigin]
    · rw [handles_made horigin (Nat.ne_of_lt (h.lt_length hs)), h.holders_eq s hs]
  case isOrigin =>
    exact ⟨hkeeper, fun s hs k hk => isOrigin_concat.mpr (.inl (h.isOrigin s hs k hk))⟩
  case doomed =>
    exact ⟨fun hc => hnew.mpr (hcancelled.mp hc),
      fun s hs hc => (hold s hs).mpr (h.doomed s hs hc)⟩
  case cancelled =>
    exact ⟨fun _ hdoom => hcancelled.mpr (hnew.mp hdoom),
      fun s hs hpos hdoom => h.cancelled s hs hpos ((hold s hs).mp hdoom)⟩
  case keeper_eq =>
    -- the link of the new token was just made, the links of the others are the ones before
    have hlink : ∀ {p}, IsOrigin (deeds ++ [deed]) p ts.next → origin = some p := by
      intro p hp
      rcases isOrigin_concat.mp hp with hp | ⟨-, hp⟩
      · exact absurd (h.next_eq ▸ hp.lt_length) (Nat.lt_irrefl _)
      · exact (hderive p).mpr hp
    have hlink' : ∀ u ∈ ts.states, ∀ {p}, IsOrigin (deeds ++ [deed]) p u.number →
        IsOrigin deeds p u.number := fun u hu p hp =>
      (isOrigin_concat.mp hp).resolve_right fun heq => Nat.ne_of_lt (h.lt_length hu) heq.1
    refine ⟨fun _ hsafe => List.forall_mem_cons.mpr ⟨fun _ p hp => hlink hp, ?_⟩,
      fun s hs hpos hsafe => List.forall_mem_cons.mpr ⟨fun _ p hp => hlink hp, ?_⟩⟩
    · intro u hu hcomes p hp
      dsimp only at hcomes hsafe
      rw [h.next_eq, comesFrom_new hdeeds (h.lt_length hu)] at hcomes
      obtain ⟨q, rfl, hcomes⟩ := hcomes
      have hheld := hsubject q rfl
      obtain ⟨r, hr, rfl⟩ := h.exists_state q (h.next_eq ▸ hbefore.lt_of_handles hheld)
      rw [← h.holders_eq r hr] at hheld
      have hsafe' : ¬ Doomed deeds r.number := fun hdoom => hsafe (hnew.mpr ⟨_, rfl, hdoom⟩)
      exact h.keeper_eq r hr hheld hsafe' u hu hcomes p (hlink' u hu hp)
    · intro u hu hcomes p hp
      rw [comesFrom_concat hdeeds (h.lt_length hs)] at hcomes
      rw [hold s hs] at hsafe
      exact h.keeper_eq s hs hpos hsafe u hu hcomes p (hlink' u hu hp)

lemma isCancelled_iff (h : Follows deeds ts) (hdeeds : ByHolders deeds) (ht : 0 < handles deeds t) :
    ts.isCancelled t = true ↔ Doomed deeds t := by
  obtain ⟨s, hs, rfl⟩ := h.exists_state t (h.next_eq ▸ hdeeds.lt_of_handles ht)
  rw [Tokens.isCancelled_iff h.ordered]
  rw [← h.holders_eq s hs] at ht
  constructor
  · rintro ⟨s', hs', hnumber, hc⟩
    exact hnumber ▸ h.doomed s' hs' hc
  · exact fun hdoom => ⟨s, hs, rfl, h.cancelled s hs ht hdoom⟩

lemma create (h : Follows deeds ts) (hdeeds : ByHolders (deeds ++ [.create])) :
    Follows (deeds ++ [.create]) (ts.create none).2 :=
  h.cons hdeeds rfl (by simp)

lemma derive (h : Follows deeds ts) (hdeeds : ByHolders (deeds ++ [.derive t])) :
    Follows (deeds ++ [.derive t]) (ts.derive t).2 := by
  obtain ⟨hbefore, hsubject⟩ := byHolders_concat.mp hdeeds
  have hheld := hsubject t rfl
  have hmade : t < ts.next := h.next_eq ▸ hbefore.lt_of_handles hheld
  rw [derive_eq h.toSound hmade]
  refine (h.prune t).cons hdeeds rfl ?_
  rw [h.isCancelled_iff hbefore hheld]
  constructor
  · exact fun hdoom => ⟨t, rfl, hdoom⟩
  · rintro ⟨p, hp, hdoom⟩
    cases hp
    exact hdoom

/-- The step lemma: whatever is done with tokens by those who have handles on them. -/
lemma run (h : Follows deeds ts) (hdeeds : ByHolders (deeds ++ [deed])) :
    Follows (deeds ++ [deed]) (deed.run ts) := by
  cases deed with
  | create => exact h.create hdeeds
  | derive t => exact h.derive hdeeds
  | hold t => exact h.hold hdeeds
  | release t => exact h.release hdeeds
  | cancel t => exact h.cancel hdeeds

end Follows

/-- The run lemma. -/
lemma follows_after (h : ByHolders deeds) : Follows deeds (after deeds) := by
  induction deeds using List.reverseRecOn with
  | nil => exact .empty
  | append_singleton deeds deed ih =>
    rw [after_concat]
    exact (ih (byHolders_concat.mp h).1).run h

/-! ### Which tokens are cancelled -/

/-- Whatever is done with tokens by those who have handles on them, a token with a handle is
cancelled exactly if it was asked to cancel it, or one that it was derived from through any number
of others, before or after it was derived. The tokens are numbered in the order that they are made
in. -/
theorem cancelled_with_ancestors (h : ByHolders deeds) :
    ((after deeds).create none).1 = (origins deeds).length ∧
      (∀ t, ((after deeds).derive t).1 = (origins deeds).length) ∧
      ∀ t, 0 < handles deeds t → ((after deeds).isCancelled t = true ↔ Doomed deeds t) :=
  have hfollows := follows_after h
  ⟨hfollows.next_eq, fun _ => hfollows.next_eq, fun _ ht => hfollows.isCancelled_iff h ht⟩

/-- The token in the middle is dropped, and others are derived later. -/
theorem cancelled_with_ancestors_dropped :
    let deeds : List Deed :=
      [.create, .derive 0, .derive 1, .release 1, .derive 0, .cancel 0]
    ByHolders deeds ∧ handles deeds 1 = 0 ∧ 0 < handles deeds 2 ∧ Doomed deeds 2 ∧
      (after deeds).isCancelled 2 = true := by
  intro deeds
  have hdeeds : ByHolders deeds := by decide
  have hdoomed : Doomed deeds 2 :=
    ⟨0, by decide,
      .tail (.single (by decide : IsOrigin deeds 0 1)) (by decide : IsOrigin deeds 1 2)⟩
  exact ⟨hdeeds, by decide, by decide, hdoomed,
    ((cancelled_with_ancestors hdeeds).2.2 2 (by decide)).mpr hdoomed⟩

end LineShell.Tokens
