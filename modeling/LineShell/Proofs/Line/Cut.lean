import LineShell.Line.Word
import Mathlib.Data.List.TakeWhile

/-!
# Cutting a line into words

`Cut` says what it is to cut a line: blanks, then a word all of whose blanks lie inside quoted
spans, then a blank again or the end of the line. The scan of a line finds the only cut there is
(`cut_iff_split_eq`), so whatever follows about the words of a line follows from `Cut`, without
another look at the scan.

The spans of a text are described apart from the automaton that finds them, by the grammar
`SpansClosed`.
-/

namespace LineShell

open Text

/-! ### Quoted spans -/

/-- What may stand between the two quotes of a span: a backslash stands before every quote and
every backslash, and takes the character after it with it. -/
inductive SpanBody : List Char → Prop
  | nil : SpanBody []
  | plain {c cs} (hq : c ≠ '"') (hb : c ≠ '\\') (h : SpanBody cs) : SpanBody (c :: cs)
  | escape (c) {cs} (h : SpanBody cs) : SpanBody ('\\' :: c :: cs)

/-- A text in which every span that is opened is closed again. -/
inductive SpansClosed : List Char → Prop
  | nil : SpansClosed []
  | plain {c cs} (hc : c ≠ '"') (h : SpansClosed cs) : SpansClosed (c :: cs)
  | span {body cs} (hb : SpanBody body) (h : SpansClosed cs) :
      SpansClosed ('"' :: (body ++ '"' :: cs))

namespace Quoting

lemma run_of_spanBody {body : List Char} (h : SpanBody body) :
    Quoting.quoted.run body = .quoted := by
  induction h with
  | nil => rfl
  | plain hq hb _ ih => simpa [step, hq, hb] using ih
  | escape c _ ih => simpa [step] using ih

lemma run_of_spansClosed {cs : List Char} (h : SpansClosed cs) : Quoting.bare.run cs = .bare := by
  induction h with
  | nil => rfl
  | plain hc _ ih => simpa [step, hc] using ih
  | span hb _ ih => simpa [step, run_of_spanBody hb] using ih

/-- The text that a reader has yet to see before all spans are closed, if it is inside one. -/
private def Closes : Quoting → List Char → Prop
  | .bare, cs => SpansClosed cs
  | .quoted, cs => ∃ body rest, cs = body ++ '"' :: rest ∧ SpanBody body ∧ SpansClosed rest
  | .escaped, cs =>
    ∃ c body rest, cs = c :: (body ++ '"' :: rest) ∧ SpanBody body ∧ SpansClosed rest

private lemma closes_of_run {q : Quoting} {cs : List Char} (h : q.run cs = .bare) :
    q.Closes cs := by
  induction cs generalizing q with
  | nil =>
    obtain rfl : q = .bare := h
    exact .nil
  | cons c cs ih =>
    have hcs := ih h
    cases q with
    | bare =>
      by_cases hc : c = '"'
      · subst hc
        obtain ⟨body, rest, rfl, hb, hr⟩ := hcs
        exact .span hb hr
      · rw [step, if_neg hc] at hcs
        exact .plain hc hcs
    | quoted =>
      by_cases hb : c = '\\'
      · subst hb
        obtain ⟨d, body, rest, rfl, hbody, hr⟩ := hcs
        exact ⟨'\\' :: d :: body, rest, rfl, .escape d hbody, hr⟩
      · by_cases hq : c = '"'
        · subst hq
          exact ⟨[], cs, rfl, .nil, hcs⟩
        · rw [step, if_neg hb, if_neg hq] at hcs
          obtain ⟨body, rest, rfl, hbody, hr⟩ := hcs
          exact ⟨c :: body, rest, rfl, .plain hq hb hbody, hr⟩
    | escaped =>
      obtain ⟨body, rest, rfl, hbody, hr⟩ := hcs
      exact ⟨c, body, rest, rfl, hbody, hr⟩

/-- A reader ends outside all spans just where every span is closed. -/
theorem run_eq_bare_iff {cs : List Char} : Quoting.bare.run cs = .bare ↔ SpansClosed cs :=
  ⟨closes_of_run, run_of_spansClosed⟩

/-! ### Words that are not broken -/

/-- Whether no blank of a text separates, for a reader in a given state. -/
def Unbroken : Quoting → List Char → Prop
  | _, [] => True
  | q, c :: cs => (q = .bare → isBlank c = false) ∧ (q.step c).Unbroken cs

@[simp] lemma unbroken_nil (q : Quoting) : q.Unbroken [] := by simp [Unbroken]

@[simp] lemma unbroken_cons {q : Quoting} {c : Char} {cs : List Char} :
    q.Unbroken (c :: cs) ↔ (q = .bare → isBlank c = false) ∧ (q.step c).Unbroken cs := by
  rw [Unbroken]

instance decidableUnbroken : (q : Quoting) → (cs : List Char) → Decidable (q.Unbroken cs)
  | _, [] => .isTrue (unbroken_nil _)
  | q, c :: cs =>
    have := decidableUnbroken (q.step c) cs
    decidable_of_iff _ unbroken_cons.symm

@[simp] lemma unbroken_append {q : Quoting} {xs ys : List Char} :
    q.Unbroken (xs ++ ys) ↔ q.Unbroken xs ∧ (q.run xs).Unbroken ys := by
  induction xs generalizing q with
  | nil => simp
  | cons c xs ih => simp [ih, and_assoc]

/-- Every text begins with an unbroken part, which ends with the text or before a blank that
separates. -/
lemma exists_unbroken (q : Quoting) (cs : List Char) :
    ∃ w rest, cs = w ++ rest ∧ q.Unbroken w ∧
      (rest = [] ∨ q.run w = .bare ∧ ∃ b r, rest = b :: r ∧ isBlank b) := by
  induction cs generalizing q with
  | nil => exact ⟨[], [], rfl, unbroken_nil q, .inl rfl⟩
  | cons c cs ih =>
    by_cases hc : q = .bare ∧ isBlank c
    · exact ⟨[], c :: cs, rfl, unbroken_nil q, .inr ⟨hc.1, c, cs, rfl, hc.2⟩⟩
    · obtain ⟨w, rest, rfl, hw, hrest⟩ := ih (q.step c)
      exact ⟨c :: w, rest, rfl, ⟨fun hq => by simpa [hq] using hc, hw⟩, hrest⟩

lemma unbroken_iff_run {q : Quoting} {cs : List Char} : q.Unbroken cs ↔
    ∀ i c, cs[i]? = some c → isBlank c → q.run (cs.take i) ≠ .bare := by
  induction cs generalizing q with
  | nil => simp
  | cons c cs ih =>
    rw [unbroken_cons, ih]
    constructor
    · rintro ⟨hc, hcs⟩ i b hi hb hrun
      cases i with
      | zero =>
        obtain rfl : c = b := by simpa using hi
        simp [hc hrun] at hb
      | succ i => exact hcs i b (by simpa using hi) hb hrun
    · intro h
      refine ⟨fun hq => ?_, fun i b hi => h (i + 1) b (by simpa using hi)⟩
      simpa [hq] using h 0 c rfl

/-- Nothing separates just where every blank has an open span before it. -/
lemma unbroken_iff {cs : List Char} : Quoting.bare.Unbroken cs ↔
    ∀ i c, cs[i]? = some c → isBlank c → ¬ SpansClosed (cs.take i) := by
  simp only [unbroken_iff_run, ne_eq, run_eq_bare_iff]

end Quoting

/-! ### Cuts -/

/-- The characters from the given place on are cut into words: between blanks there stand words that
no blank breaks, each up to a blank outside its spans or up to the end. -/
inductive Cut : Nat → List Char → List Word → Prop
  | blank {p gap} (hgap : ∀ c ∈ gap, isBlank c) : Cut p gap []
  | last {p gap w} (hgap : ∀ c ∈ gap, isBlank c) (hne : w ≠ []) (hw : Quoting.bare.Unbroken w) :
      Cut p (gap ++ w) [⟨p + gap.length, w⟩]
  | word {p gap w b rest ws} (hgap : ∀ c ∈ gap, isBlank c) (hne : w ≠ [])
      (hw : Quoting.bare.Unbroken w) (hclosed : SpansClosed w) (hb : isBlank b)
      (hrest : Cut (p + gap.length + w.length + 1) rest ws) :
      Cut p (gap ++ (w ++ b :: rest)) (⟨p + gap.length, w⟩ :: ws)

namespace Word

lemma scan_gap {gap : List Char} (hgap : ∀ c ∈ gap, isBlank c) (p : Nat) (cs : List Char) :
    scan p none (gap ++ cs) = scan (p + gap.length) none cs := by
  induction gap generalizing p with
  | nil => rfl
  | cons c gap ih =>
    have hc : isBlank c := hgap c List.mem_cons_self
    have hskip : scan p none (c :: (gap ++ cs)) = scan (p + 1) none (gap ++ cs) := by
      rw [scan, if_pos hc]
      exact Prod.ext (scan_none_fst _ _).symm rfl
    rw [List.cons_append, hskip, ih fun b hb => hgap b (List.mem_cons_of_mem _ hb)]
    congr 1
    simp only [List.length_cons]
    omega

lemma scan_unbroken {q : Quoting} {w : List Char} (hw : q.Unbroken w) (p : Nat) (cs : List Char) :
    scan p (some q) (w ++ cs) =
      (w ++ (scan (p + w.length) (some (q.run w)) cs).1,
        (scan (p + w.length) (some (q.run w)) cs).2) := by
  induction w generalizing q p with
  | nil => rfl
  | cons c w ih =>
    obtain ⟨hc, hw⟩ := Quoting.unbroken_cons.mp hw
    have hstay : ¬ (q = .bare ∧ isBlank c) := fun ⟨hq, hb⟩ => by simp [hc hq] at hb
    rw [List.cons_append, scan, if_neg hstay, ih hw]
    simp [Nat.add_right_comm, Nat.add_assoc]

/-- A word is found where it begins, and goes on as long as it is not broken. -/
lemma scan_word {w : List Char} (hne : w ≠ []) (hw : Quoting.bare.Unbroken w) (p : Nat)
    (cs : List Char) :
    scan p none (w ++ cs) =
      ([], ⟨p, w ++ (scan (p + w.length) (some (Quoting.bare.run w)) cs).1⟩ ::
        (scan (p + w.length) (some (Quoting.bare.run w)) cs).2) := by
  cases w with
  | nil => exact absurd rfl hne
  | cons c w =>
    obtain ⟨hc, hw⟩ := Quoting.unbroken_cons.mp hw
    rw [List.cons_append, scan, if_neg (by simp [hc rfl]), scan_unbroken hw]
    simp [Nat.add_right_comm, Nat.add_assoc]

lemma scan_end_of_word {b : Char} (hb : isBlank b) (p : Nat) (cs : List Char) :
    scan p (some .bare) (b :: cs) = scan (p + 1) none cs := by
  rw [scan, if_pos ⟨rfl, hb⟩]
  exact Prod.ext (scan_none_fst _ _).symm rfl

end Word

/-- The scan finds every cut. -/
lemma Cut.scan_eq {p : Nat} {cs : List Char} {ws : List Word} (h : Cut p cs ws) :
    Word.scan p none cs = ([], ws) := by
  induction h with
  | @blank p gap hgap =>
    simpa using Word.scan_gap hgap p []
  | @last p gap w hgap hne hw =>
    rw [Word.scan_gap hgap]
    simpa using Word.scan_word hne hw (p + gap.length) []
  | word hgap hne hw hclosed hb _ ih =>
    rw [Word.scan_gap hgap, Word.scan_word hne hw, Quoting.run_of_spansClosed hclosed,
      Word.scan_end_of_word hb, ih, List.append_nil]

/-- Every text begins with blanks, and what comes after them does not. -/
lemma exists_gap (cs : List Char) :
    ∃ gap rest, cs = gap ++ rest ∧ (∀ c ∈ gap, isBlank c) ∧ ∀ b r, rest = b :: r → ¬ isBlank b := by
  refine ⟨cs.takeWhile isBlank, cs.dropWhile isBlank, List.takeWhile_append_dropWhile.symm,
    fun c hc => List.mem_takeWhile_imp hc, fun b r hr hb => ?_⟩
  have h := List.head?_dropWhile_not isBlank cs
  simp [hr, hb] at h

/-- Every text can be cut. -/
lemma exists_cut (p : Nat) (cs : List Char) : ∃ ws, Cut p cs ws := by
  obtain ⟨gap, cs', hcs, hgap, hstart⟩ := exists_gap cs
  obtain ⟨w, rest, hcs', hw, hend⟩ := Quoting.exists_unbroken .bare cs'
  rw [hcs, hcs']
  by_cases hne : w = []
  · subst hne
    rcases hend with rfl | ⟨-, b, r, rfl, hb⟩
    · exact ⟨[], by simpa using .blank hgap⟩
    · exact absurd hb (hstart b r hcs')
  · rcases hend with rfl | ⟨hrun, b, rest, rfl, hb⟩
    · exact ⟨_, by simpa using .last hgap hne hw⟩
    · have hlt : rest.length < cs.length := by
        simp only [hcs, hcs', List.length_append, List.length_cons]
        omega
      obtain ⟨ws, h⟩ := exists_cut (p + gap.length + w.length + 1) rest
      exact ⟨_, .word hgap hne hw (Quoting.run_eq_bare_iff.mp hrun) hb h⟩
termination_by cs.length

/-- There is just one cut of a line, and the scan finds it. -/
theorem cut_iff_split_eq {cs : List Char} {ws : List Word} : Cut 0 cs ws ↔ Word.split cs = ws := by
  constructor
  · intro h
    rw [Word.split, h.scan_eq]
  · rintro rfl
    obtain ⟨ws, h⟩ := exists_cut 0 cs
    rwa [Word.split, h.scan_eq]

lemma Word.split_of_blank {cs : List Char} (h : ∀ c ∈ cs, isBlank c) : split cs = [] :=
  cut_iff_split_eq.mp (.blank h)

end LineShell
