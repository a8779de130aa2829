import LineShell.Cancellation.Token
import Mathlib.Data.List.Nodup
import Mathlib.Data.List.TakeDrop
import Mathlib.Data.List.TakeWhile
import Mathlib.Tactic.Common

/-!
# What happens to the states of tokens

The newest token comes first among the states, and a token is kept by an older one. Where this is
so, each operation on tokens changes every state by itself: to cancel a token is to sweep over all
states with the tokens that are struck (`exists_cancel_eq`), and to let go of some is to loosen
these (`exists_prune_eq`).
-/

namespace LineShell

/-- The newest token comes first, and each is kept by an older one. -/
structure TokenState.Ordered (states : List TokenState) : Prop where
  pairwise : states.Pairwise fun s older => older.number < s.number
  keeper_lt : ∀ s ∈ states, ∀ k ∈ s.keeper, k < s.number

namespace TokenState

variable {s : TokenState} {older newer : List TokenState}

lemma Ordered.number_lt (h : Ordered (s :: older)) : ∀ o ∈ older, o.number < s.number :=
  (List.pairwise_cons.mp h.pairwise).1

lemma Ordered.tail (h : Ordered (s :: older)) : Ordered older :=
  ⟨(List.pairwise_cons.mp h.pairwise).2, fun o ho => h.keeper_lt o (List.mem_cons_of_mem s ho)⟩

lemma Ordered.head_keeper_lt (h : Ordered (s :: older)) : ∀ k ∈ s.keeper, k < s.number :=
  h.keeper_lt s List.mem_cons_self

lemma Ordered.of_append (h : Ordered (newer ++ older)) :
    Ordered newer ∧ ∀ s ∈ newer, ∀ o ∈ older, o.number < s.number :=
  ⟨⟨(List.pairwise_append.mp h.pairwise).1,
    fun s hs => h.keeper_lt s (List.mem_append_left older hs)⟩,
    (List.pairwise_append.mp h.pairwise).2.2⟩

lemma Ordered.eq_of_number_eq {states : List TokenState} (h : Ordered states) {s s' : TokenState}
    (hs : s ∈ states) (hs' : s' ∈ states) (hnumber : s.number = s'.number) : s = s' := by
  have hnodup : (states.map (·.number)).Nodup :=
    List.pairwise_map.mpr (h.pairwise.imp fun hlt => Nat.ne_of_gt hlt)
  exact List.inj_on_of_nodup_map hnodup hs hs' hnumber

/-- A change of single states that keeps their numbers and brings in no keeper. -/
lemma Ordered.map {states : List TokenState} (h : Ordered states) {f : TokenState → TokenState}
    (hnumber : ∀ s, (f s).number = s.number) (hkeeper : ∀ s, ∀ k ∈ (f s).keeper, k ∈ s.keeper) :
    Ordered (states.map f) := by
  constructor
  · rw [List.pairwise_map]
    refine h.pairwise.imp fun hlt => ?_
    rwa [hnumber, hnumber]
  · intro s' hs' k hk
    obtain ⟨s, hs, rfl⟩ := List.mem_map.mp hs'
    rw [hnumber]
    exact h.keeper_lt s hs k (hkeeper s k hk)

/-- A property that newer tokens have if older ones have it cuts the states in two. -/
lemma Ordered.span {states : List TokenState} (h : Ordered states) {p : TokenState → Bool}
    (hp : ∀ {s o : TokenState}, o.number < s.number → p o = true → p s = true) :
    ∃ newer older, states.span p = (newer, older) ∧ states = newer ++ older ∧
      (∀ s ∈ newer, p s = true) ∧ ∀ s ∈ older, p s = false := by
  refine ⟨_, _, List.span_eq_takeWhile_dropWhile p states, List.takeWhile_append_dropWhile.symm,
    fun s hs => List.mem_takeWhile_imp hs, ?_⟩
  induction states with
  | nil => exact List.forall_mem_nil _
  | cons first rest ih =>
    by_cases hfirst : p first = true
    · rw [List.dropWhile_cons_of_pos hfirst]
      exact ih h.tail
    · rw [List.dropWhile_cons_of_neg hfirst]
      refine List.forall_mem_cons.mpr ⟨Bool.eq_false_iff.mpr hfirst, fun s hs => ?_⟩
      exact Bool.eq_false_iff.mpr fun hrest => hfirst (hp (h.number_lt s hs) hrest)

end TokenState

namespace Tokens

open TokenState (Ordered)

variable {ts : Tokens} {t : Token} {states : List TokenState} {s : TokenState}

/-- The states are in order, and the next token is a new one. -/
structure Sound (ts : Tokens) : Prop where
  ordered : Ordered ts.states
  lt_next : ∀ s ∈ ts.states, s.number < ts.next

lemma sound_empty : ({} : Tokens).Sound :=
  ⟨⟨.nil, List.forall_mem_nil _⟩, List.forall_mem_nil _⟩

lemma Sound.map (h : ts.Sound) {f : TokenState → TokenState}
    (hnumber : ∀ s, (f s).number = s.number) (hkeeper : ∀ s, ∀ k ∈ (f s).keeper, k ∈ s.keeper) :
    Sound { ts with states := ts.states.map f } := by
  refine ⟨h.ordered.map hnumber hkeeper, List.forall_mem_map.mpr fun s hs => ?_⟩
  rw [hnumber]
  exact h.lt_next s hs

lemma Sound.cons (h : ts.Sound) {s : TokenState} (hs : s.number = ts.next)
    (hkeeper : ∀ k ∈ s.keeper, k < ts.next) : Sound ⟨ts.next + 1, s :: ts.states⟩ where
  ordered := ⟨List.pairwise_cons.mpr ⟨hs ▸ h.lt_next, h.ordered.pairwise⟩,
    List.forall_mem_cons.mpr ⟨hs ▸ hkeeper, h.ordered.keeper_lt⟩⟩
  lt_next := List.forall_mem_cons.mpr
    ⟨hs ▸ Nat.lt_succ_self _, fun o ho => Nat.lt_succ_of_lt (h.lt_next o ho)⟩

/-! ### Looking up and holding -/

lemma isCancelled_iff (h : Ordered ts.states) :
    ts.isCancelled t = true ↔ ∃ s ∈ ts.states, s.number = t ∧ s.cancelled = true := by
  rw [isCancelled, find?, Option.any_eq_true]
  constructor
  · rintro ⟨s, hfind, hcancelled⟩
    exact ⟨s, List.mem_of_find?_eq_some hfind, by simpa using List.find?_some hfind, hcancelled⟩
  · rintro ⟨s, hs, rfl, hcancelled⟩
    have hsome : (ts.states.find? (·.number == s.number)).isSome := by
      rw [List.find?_isSome]
      exact ⟨s, hs, beq_self_eq_true _⟩
    obtain ⟨s', hfind⟩ := Option.isSome_iff_exists.mp hsome
    have hnumber : s'.number = s.number := by simpa using List.find?_some hfind
    rw [h.eq_of_number_eq (List.mem_of_find?_eq_some hfind) hs hnumber] at hfind
    exact ⟨s, hfind, hcancelled⟩

/-- A change of single states that concerns neither their numbers nor whether they are cancelled. -/
lemma isCancelled_map {n : Token} {f : TokenState → TokenState}
    (hnumber : ∀ s, (f s).number = s.number) (hcancelled : ∀ s, (f s).cancelled = s.cancelled) :
    isCancelled ⟨n, states.map f⟩ t = isCancelled ⟨n, states⟩ t := by
  simp only [isCancelled, find?, List.find?_map, Option.any_map, Function.comp_def, hnumber,
    hcancelled]

lemma update_eq (h : Ordered states) (f : TokenState → TokenState) :
    update t f states = states.map fun s => if s.number = t then f s else s := by
  induction states with
  | nil => rfl
  | cons s older ih =>
    rw [update, List.map_cons]
    split_ifs with hs
    · have hothers : ∀ o ∈ older, (if o.number = t then f o else o) = o :=
        fun o ho => if_neg (Nat.ne_of_lt (hs ▸ h.number_lt o ho))
      rw [List.map_congr_left hothers, List.map_id']
    · rw [ih h.tail]

lemma Sound.update (h : ts.Sound) (f : Nat → Nat) :
    Sound ⟨ts.next, Tokens.update t (fun s => { s with holders := f s.holders }) ts.states⟩ := by
  rw [update_eq h.ordered]
  apply h.map
  · intro s
    split_ifs <;> rfl
  · intro s k hk
    split_ifs at hk <;> exact hk

lemma Sound.release (h : ts.Sound) (t : Token) : (ts.release t).Sound :=
  h.update (· - 1)

lemma isCancelled_release (h : Ordered ts.states) (u : Token) :
    (ts.release u).isCancelled t = ts.isCancelled t := by
  rw [release, update_eq h]
  apply isCancelled_map
  · intro s
    split_ifs <;> rfl
  · intro s
    split_ifs <;> rfl

/-! ### Cancelling -/

@[simp] lemma any_contains_nil (keeper : Option Token) :
    keeper.any ([] : List Token).contains = false := by
  cases keeper <;> rfl

/-- The state of a token when some tokens are struck: these are cancelled and keep no others. -/
def sweep (struck : List Token) (s : TokenState) : TokenState :=
  { s with
    cancelled := s.cancelled || struck.contains s.number
    keeper := if s.keeper.any struck.contains then none else s.keeper }

@[simp] lemma sweep_nil (s : TokenState) : sweep [] s = s := by
  simp [sweep]

lemma mem_keeper_of_sweep {struck : List Token} {k : Token} (hk : k ∈ (sweep struck s).keeper) :
    k ∈ s.keeper := by
  dsimp only [sweep] at hk
  split_ifs at hk
  · cases hk
  · exact hk

/-- Only that counts which is struck of a token and its keeper. -/
lemma sweep_congr {struck struck' : List Token} (hs : s.number ∈ struck ↔ s.number ∈ struck')
    (hkeeper : ∀ k ∈ s.keeper, (k ∈ struck ↔ k ∈ struck')) : sweep struck s = sweep struck' s := by
  cases hk : s.keeper with
  | none => simp [sweep, hk, hs]
  | some k => simp [sweep, hk, hs, hkeeper k hk]

lemma sweep_of_notMem {struck : List Token} (hs : s.number ∉ struck)
    (hkeeper : ∀ k ∈ s.keeper, k ∉ struck) : sweep struck s = s := by
  have hnone : sweep struck s = sweep [] s :=
    sweep_congr (by simpa using hs) (by simpa using hkeeper)
  rw [hnone, sweep_nil]

/-- The tokens that are struck are the given one and those kept by a token that is struck, unless
they were cancelled before. -/
def Strikes (t : Token) (states : List TokenState) (struck : List Token) : Prop :=
  ∀ n, n ∈ struck ↔ ∃ s ∈ states, s.number = n ∧ s.cancelled = false ∧
    (n = t ∨ ∃ k ∈ struck, s.keeper = some k)

variable {struck : List Token} {older : List TokenState}

lemma Strikes.exists_number (h : Strikes t states struck) {n : Token} (hn : n ∈ struck) :
    ∃ s ∈ states, s.number = n := by
  obtain ⟨s, hs, hnumber, -⟩ := (h n).mp hn
  exact ⟨s, hs, hnumber⟩

/-- The newest token is not struck along with older ones. -/
lemma Strikes.number_notMem (h : Strikes t older struck) (hordered : Ordered (s :: older)) :
    s.number ∉ struck := by
  intro hmem
  obtain ⟨o, ho, hnumber⟩ := h.exists_number hmem
  exact Nat.ne_of_lt (hordered.number_lt o ho) hnumber

lemma Strikes.cons (h : Strikes t older struck) (hordered : Ordered (s :: older))
    (hcancelled : s.cancelled = false) (hhit : s.number = t ∨ ∃ k ∈ struck, s.keeper = some k) :
    Strikes t (s :: older) (s.number :: struck) := by
  intro n
  constructor
  · intro hn
    rcases List.mem_cons.mp hn with rfl | hn
    · refine ⟨s, List.mem_cons_self, rfl, hcancelled, hhit.imp_right ?_⟩
      rintro ⟨k, hk, hkeeper⟩
      exact ⟨k, List.mem_cons_of_mem _ hk, hkeeper⟩
    · obtain ⟨o, ho, hnumber, hcancelled, hcause⟩ := (h n).mp hn
      refine ⟨o, List.mem_cons_of_mem s ho, hnumber, hcancelled, hcause.imp_right ?_⟩
      rintro ⟨k, hk, hkeeper⟩
      exact ⟨k, List.mem_cons_of_mem _ hk, hkeeper⟩
  · rintro ⟨o, ho, rfl, hcancelled, hcause⟩
    rcases List.mem_cons.mp ho with rfl | ho
    · exact List.mem_cons_self
    · refine List.mem_cons_of_mem _ ((h _).mpr ⟨o, ho, rfl, hcancelled, hcause.imp_right ?_⟩)
      rintro ⟨k, hk, hkeeper⟩
      -- the newest token keeps none of the older ones
      have hlt := Nat.lt_trans (hordered.tail.keeper_lt o ho k hkeeper) (hordered.number_lt o ho)
      exact ⟨k, (List.mem_cons.mp hk).resolve_left (Nat.ne_of_lt hlt), hkeeper⟩

lemma Strikes.skip (h : Strikes t older struck)
    (hmiss : s.cancelled = true ∨ ¬ (s.number = t ∨ ∃ k ∈ struck, s.keeper = some k)) :
    Strikes t (s :: older) struck := by
  intro n
  rw [h n]
  constructor
  · rintro ⟨o, ho, hcause⟩
    exact ⟨o, List.mem_cons_of_mem s ho, hcause⟩
  · rintro ⟨o, ho, rfl, hcancelled, hcause⟩
    rcases List.mem_cons.mp ho with rfl | ho
    · rcases hmiss with hmiss | hmiss
      · rw [hcancelled] at hmiss
        cases hmiss
      · exact absurd hcause hmiss
    · exact ⟨o, ho, rfl, hcancelled, hcause⟩

/-- The older tokens are the same whether or not a newer one is struck as well. -/
lemma map_sweep_cons (hordered : Ordered (s :: older)) :
    older.map (sweep (s.number :: struck)) = older.map (sweep struck) := by
  apply List.map_congr_left
  intro o ho
  have hlt := hordered.number_lt o ho
  apply sweep_congr
  · simp [Nat.ne_of_lt hlt]
  · intro k hk
    simp [Nat.ne_of_lt (Nat.lt_trans (hordered.tail.keeper_lt o ho k hk) hlt)]

/-- To strike a token is to sweep over all states. The induction is on the states, the oldest of
which are struck first. -/
lemma strike_eq (h : Ordered states) (t : Token) :
    Strikes t states (strike t states).1 ∧
      (strike t states).2 = states.map (sweep (strike t states).1) := by
  induction states with
  | nil => exact ⟨by simp [Strikes, strike], rfl⟩
  | cons s older ih =>
    obtain ⟨hstrikes, hmap⟩ := ih h.tail
    rcases hstrike : strike t older with ⟨struck, swept⟩
    rw [hstrike] at hstrikes hmap
    dsimp only at hstrikes hmap
    have hkept : s.keeper.any struck.contains = true ↔ ∃ k ∈ struck, s.keeper = some k := by
      cases s.keeper <;> simp
    rw [strike, hstrike]
    dsimp only
    by_cases hhit : ((s.number == t || s.keeper.any struck.contains) && !s.cancelled) = true
    · have hkeeper : s.keeper.any (s.number :: struck).contains = s.keeper.any struck.contains := by
        cases hk : s.keeper with
        | none => rfl
        | some k => simp [Nat.ne_of_lt (h.head_keeper_lt k hk)]
      rw [if_pos hhit, List.map_cons, map_sweep_cons h, hmap]
      simp only [Bool.and_eq_true, Bool.or_eq_true, beq_iff_eq, Bool.not_eq_true', hkept] at hhit
      refine ⟨hstrikes.cons h hhit.2 hhit.1, ?_⟩
      simp only [sweep, hkeeper]
      split_ifs <;> simp
    · have hfresh := hstrikes.number_notMem h
      rw [if_neg hhit, List.map_cons, hmap]
      simp only [Bool.and_eq_true, Bool.or_eq_true, beq_iff_eq, Bool.not_eq_true', hkept,
        not_and_or, Bool.not_eq_false] at hhit
      refine ⟨hstrikes.skip hhit.symm, ?_⟩
      simp only [sweep]
      split_ifs <;> simp [hfresh]

/-- To cancel a token is to sweep over all states with the tokens that are struck. -/
lemma exists_cancel_eq (h : Ordered ts.states) (t : Token) :
    ∃ struck, Strikes t ts.states struck ∧
      ts.cancel t = { ts with states := ts.states.map (sweep struck) } := by
  obtain ⟨newer, older, hspan, hstates, hnewer, holder⟩ :=
    h.span (p := (t ≤ ·.number)) fun hlt hle => decide_eq_true
      (Nat.le_of_lt (Nat.lt_of_le_of_lt (of_decide_eq_true hle) hlt))
  rw [hstates] at h
  obtain ⟨hstrikes, hmap⟩ := strike_eq h.of_append.1 t
  -- no token older than the given one is struck, or kept by one that is
  have hge : ∀ n ∈ (strike t newer).1, t ≤ n := by
    intro n hn
    obtain ⟨s, hs, rfl⟩ := hstrikes.exists_number hn
    exact of_decide_eq_true (hnewer s hs)
  have hlt : ∀ s ∈ older, s.number < t := fun s hs =>
    Nat.lt_of_not_le (of_decide_eq_false (holder s hs))
  have hkeeper : ∀ s ∈ older, ∀ k ∈ s.keeper, k ∉ (strike t newer).1 := by
    intro s hs k hk hmem
    have hkeeper := h.keeper_lt s (List.mem_append_right newer hs) k hk
    exact Nat.not_lt.mpr (hge k hmem) (Nat.lt_trans hkeeper (hlt s hs))
  refine ⟨(strike t newer).1, fun n => ?_, ?_⟩
  · rw [hstrikes n, hstates]
    constructor
    · rintro ⟨s, hs, hcause⟩
      exact ⟨s, List.mem_append_left older hs, hcause⟩
    · rintro ⟨s, hs, rfl, hcancelled, hcause⟩
      rcases List.mem_append.mp hs with hs | hs
      · exact ⟨s, hs, rfl, hcancelled, hcause⟩
      · rcases hcause with heq | ⟨k, hk, hkept⟩
        · exact absurd heq (Nat.ne_of_lt (hlt s hs))
        · exact absurd hk (hkeeper s hs k hkept)
  · have hold : ∀ s ∈ older, sweep (strike t newer).1 s = s := fun s hs =>
      sweep_of_notMem (fun hmem => Nat.not_lt.mpr (hge _ hmem) (hlt s hs)) (hkeeper s hs)
    rw [cancel, hspan]
    dsimp only
    rw [hmap, hstates, List.map_append, List.map_congr_left hold, List.map_id']

lemma Sound.cancel (h : ts.Sound) (t : Token) : (ts.cancel t).Sound := by
  obtain ⟨struck, -, heq⟩ := exists_cancel_eq h.ordered t
  rw [heq]
  exact h.map (fun _ => rfl) fun _ _ hk => mem_keeper_of_sweep hk

/-! ### Letting go -/

/-- The state of a token when some tokens are let go of. -/
def loosen (freed : List Token) (s : TokenState) : TokenState :=
  if s.number ∈ freed then { s with keeper := none } else s

@[simp] lemma number_loosen (freed : List Token) (s : TokenState) :
    (loosen freed s).number = s.number := by
  rw [loosen]
  split_ifs <;> rfl

@[simp] lemma cancelled_loosen (freed : List Token) (s : TokenState) :
    (loosen freed s).cancelled = s.cancelled := by
  rw [loosen]
  split_ifs <;> rfl

@[simp] lemma holders_loosen (freed : List Token) (s : TokenState) :
    (loosen freed s).holders = s.holders := by
  rw [loosen]
  split_ifs <;> rfl

lemma mem_keeper_of_loosen {freed : List Token} {k : Token} (hk : k ∈ (loosen freed s).keeper) :
    k ∈ s.keeper := by
  rw [loosen] at hk
  split_ifs at hk
  · cases hk
  · exact hk

/-- A token that matters is not among those let go of: one that is held and not cancelled, or that
some other one, not let go of itself, relies on. -/
def Spares (states : List TokenState) (needed freed : List Token) : Prop :=
  (∀ n ∈ freed, ∃ s ∈ states, s.number = n) ∧
    ∀ s ∈ states, s.cancelled = false →
      (0 < s.holders ∨ s.number ∈ needed ∨
        ∃ r ∈ states, r.number ∉ freed ∧ r.keeper = some s.number) → s.number ∉ freed

variable {needed needed' freed : List Token}

lemma Spares.number_notMem (h : Spares older needed freed) (hordered : Ordered (s :: older)) :
    s.number ∉ freed := by
  intro hmem
  obtain ⟨o, ho, hnumber⟩ := h.1 _ hmem
  exact Nat.ne_of_lt (hordered.number_lt o ho) hnumber

/-- The newest token stays, and relies on its keeper. -/
lemma Spares.cons_kept (h : Spares older needed' freed) (hordered : Ordered (s :: older))
    (hneeded : needed ⊆ needed') (hkeeper : ∀ k ∈ s.keeper, k ∈ needed') :
    Spares (s :: older) needed freed := by
  refine ⟨fun n hn => ?_, List.forall_mem_cons.mpr ⟨fun _ _ => h.number_notMem hordered, ?_⟩⟩
  · obtain ⟨o, ho, hnumber⟩ := h.1 n hn
    exact ⟨o, List.mem_cons_of_mem s ho, hnumber⟩
  · intro o ho hcancelled hcause
    refine h.2 o ho hcancelled (hcause.imp_right ?_)
    rintro (hmem | ⟨r, hr, hfreed, hkeep⟩)
    · exact .inl (hneeded hmem)
    · rcases List.mem_cons.mp hr with rfl | hr
      · exact .inl (hkeeper _ hkeep)
      · exact .inr ⟨r, hr, hfreed, hkeep⟩

/-- The newest token is let go of. -/
lemma Spares.cons_freed (h : Spares older needed freed) (hordered : Ordered (s :: older))
    (hidle : s.cancelled = true ∨ s.holders = 0 ∧ s.number ∉ needed) :
    Spares (s :: older) needed (s.number :: freed) := by
  refine ⟨fun n hn => ?_, List.forall_mem_cons.mpr ⟨fun hcancelled hcause => ?_, ?_⟩⟩
  · rcases List.mem_cons.mp hn with rfl | hn
    · exact ⟨s, List.mem_cons_self, rfl⟩
    · obtain ⟨o, ho, hnumber⟩ := h.1 n hn
      exact ⟨o, List.mem_cons_of_mem s ho, hnumber⟩
  · -- the newest token is kept, but keeps none that is older than itself
    rcases hidle with hidle | ⟨hholders, hneeded⟩
    · rw [hcancelled] at hidle
      cases hidle
    · rcases hcause with hheld | hmem | ⟨r, hr, -, hkeep⟩
      · exact absurd hholders (Nat.ne_of_gt hheld)
      · exact absurd hmem hneeded
      · have hlt := hordered.keeper_lt r hr _ hkeep
        rcases List.mem_cons.mp hr with rfl | hr
        · exact absurd hlt (Nat.lt_irrefl _)
        · exact absurd (hordered.number_lt r hr) (Nat.lt_asymm hlt)
  · intro o ho hcancelled hcause
    have hspared := h.2 o ho hcancelled (hcause.imp_right (Or.imp_right ?_))
    · exact List.not_mem_cons_of_ne_of_not_mem (Nat.ne_of_lt (hordered.number_lt o ho)) hspared
    · rintro ⟨r, hr, hfreed, hkeep⟩
      rcases List.mem_cons.mp hr with rfl | hr
      · exact absurd List.mem_cons_self hfreed
      · exact ⟨r, hr, fun hmem => hfreed (List.mem_cons_of_mem _ hmem), hkeep⟩

/-- The older tokens are the same whether or not a newer one is let go of as well. -/
lemma map_loosen_cons (hordered : Ordered (s :: older)) :
    older.map (loosen (s.number :: freed)) = older.map (loosen freed) := by
  apply List.map_congr_left
  intro o ho
  simp [loosen, Nat.ne_of_lt (hordered.number_lt o ho)]

/-- To let go of tokens is to loosen them. The induction is on the states, the newest of which come
first. -/
lemma exists_letGo_eq (h : Ordered states) (keepers needed : List Token) :
    ∃ freed, Spares states needed freed ∧
      letGo keepers needed states = states.map (loosen freed) := by
  induction states generalizing needed with
  | nil => exact ⟨[], ⟨by simp, by simp⟩, rfl⟩
  | cons s older ih =>
    have hstays : ∀ {needed' freed}, Spares older needed' freed → loosen freed s = s :=
      fun hspares => if_neg (hspares.number_notMem h)
    rw [letGo]
    cases hkeeper : s.keeper with
    | none =>
      obtain ⟨freed, hspares, heq⟩ := ih h.tail needed
      refine ⟨freed, hspares.cons_kept h (List.Subset.refl _) (by simp [hkeeper]), ?_⟩
      rw [List.map_cons, hstays hspares, heq]
    | some k =>
      dsimp only
      split_ifs with hidle
      · obtain ⟨freed, hspares, heq⟩ := ih h.tail needed
        refine ⟨s.number :: freed, hspares.cons_freed h ?_, ?_⟩
        · simp only [Bool.and_eq_true, Bool.or_eq_true, beq_iff_eq] at hidle
          simpa using hidle.2
        · rw [List.map_cons, map_loosen_cons h, heq, loosen, if_pos List.mem_cons_self]
      · obtain ⟨freed, hspares, heq⟩ := ih h.tail (k :: needed)
        refine ⟨freed, hspares.cons_kept h (List.subset_cons_self k needed) (by simp [hkeeper]), ?_⟩
        rw [List.map_cons, hstays hspares, heq]

/-- To let go of the tokens that a token keeps and that do not matter is to loosen them. -/
lemma exists_prune_eq (h : Ordered ts.states) (t : Token) :
    ∃ freed, Spares ts.states [] freed ∧
      ts.prune t = { ts with states := ts.states.map (loosen freed) } := by
  obtain ⟨newer, older, hspan, hstates, hnewer, holder⟩ :=
    h.span (p := (t < ·.number)) fun hlt hle => decide_eq_true
      (Nat.lt_trans (of_decide_eq_true hle) hlt)
  rw [hstates] at h
  obtain ⟨hordered, happart⟩ := h.of_append
  obtain ⟨freed, hspares, heq⟩ := exists_letGo_eq hordered (keptBy t newer) []
  have hold : ∀ s ∈ older, s.number ∉ freed := by
    intro s hs hmem
    obtain ⟨n, hn, hnumber⟩ := hspares.1 _ hmem
    exact Nat.ne_of_gt (happart n hn s hs) hnumber
  refine ⟨freed, ⟨fun n hn => ?_, ?_⟩, ?_⟩
  · obtain ⟨s, hs, hnumber⟩ := hspares.1 n hn
    exact ⟨s, hstates ▸ List.mem_append_left older hs, hnumber⟩
  · rw [hstates]
    refine List.forall_mem_append.mpr ⟨fun s hs hcancelled hcause => ?_, fun s hs _ _ => hold s hs⟩
    refine hspares.2 s hs hcancelled (hcause.imp_right (Or.imp_right ?_))
    rintro ⟨r, hr, hfreed, hkeep⟩
    rcases List.mem_append.mp hr with hr | hr
    · exact ⟨r, hr, hfreed, hkeep⟩
    · -- an older token keeps none of the newer ones
      have hlt := h.keeper_lt r (List.mem_append_right newer hr) _ hkeep
      exact absurd (happart s hs r hr) (Nat.lt_asymm hlt)
  · rw [prune, hspan]
    dsimp only
    have hstay : ∀ s ∈ older, loosen freed s = s := fun s hs => if_neg (hold s hs)
    rw [heq, hstates, List.map_append, List.map_congr_left hstay, List.map_id']

/-! ### Deriving -/

/-- To cancel the newest token leaves all others alone. -/
lemma cancel_newest {n : Token} (holder : ∀ o ∈ older, o.number < s.number)
    (hcancelled : s.cancelled = false) :
    Tokens.cancel ⟨n, s :: older⟩ s.number = ⟨n, { s with cancelled := true } :: older⟩ := by
  have hspan : (s :: older).span (s.number ≤ ·.number) = ([s], older) := by
    rw [List.span_eq_takeWhile_dropWhile]
    cases older with
    | nil => simp
    | cons o older => simp [holder o List.mem_cons_self]
  rw [cancel, hspan]
  simp [strike, hcancelled]

lemma isCancelled_prune (h : Ordered ts.states) (u : Token) :
    (ts.prune u).isCancelled t = ts.isCancelled t := by
  obtain ⟨freed, -, heq⟩ := exists_prune_eq h u
  rw [heq]
  exact isCancelled_map (number_loosen freed) (cancelled_loosen freed)

lemma Sound.prune (h : ts.Sound) (t : Token) : (ts.prune t).Sound := by
  obtain ⟨freed, -, heq⟩ := exists_prune_eq h.ordered t
  rw [heq]
  exact h.map (number_loosen freed) fun _ _ hk => mem_keeper_of_loosen hk

/-- A derived token is cancelled from the beginning if the other one is. -/
lemma derive_eq (h : ts.Sound) (ht : t < ts.next) :
    ts.derive t = (ts.next, { next := ts.next + 1, states :=
      { number := ts.next, cancelled := ts.isCancelled t, keeper := some t } ::
        (ts.prune t).states }) := by
  have hparent : ((ts.prune t).create (some t)).2.isCancelled t = ts.isCancelled t := by
    rw [← isCancelled_prune h.ordered t]
    have hnew : ((ts.prune t).next == t) = false := beq_false_of_ne (Nat.ne_of_gt ht)
    simp only [isCancelled, find?, create, List.find?_cons, hnew]
  rw [derive]
  dsimp only
  rw [hparent]
  cases ts.isCancelled t with
  | false => rfl
  | true => exact congrArg (Prod.mk ts.next) (cancel_newest (h.prune t).lt_next rfl)

lemma Sound.derive (h : ts.Sound) (ht : t < ts.next) : (ts.derive t).2.Sound := by
  rw [derive_eq h ht]
  refine (h.prune t).cons rfl fun k hk => ?_
  cases hk
  exact ht

lemma isCancelled_derive (h : ts.Sound) (ht : t < ts.next) :
    (ts.derive t).2.isCancelled (ts.derive t).1 = ts.isCancelled t := by
  simp [derive_eq h ht, isCancelled, find?]

end Tokens

end LineShell
