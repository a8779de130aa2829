import LineShell.Text.Lines
import Mathlib.Data.List.Induction
import Mathlib.Tactic.Common

/-!
# Texts made of lines

A line is what may stand between two ends of lines: it holds no line feed, and no carriage return at
its end (`IsLine`). What is put together from lines has just these lines (`lines_unlines`).

What comes after a text whose last line is ended is read as if nothing came before it
(`lines_append`). If the last line is not ended, a line that is added goes on with it
(`lines_append_of_not_isEnded`).
-/

namespace LineShell.Text

variable {l cs : List Char} {c : Char}

/-- The characters make up one line. -/
structure IsLine (l : List Char) : Prop where
  lineFeed_notMem : '\n' ∉ l
  getLast?_ne : l.getLast? ≠ some '\r'

instance (l : List Char) : Decidable (IsLine l) :=
  decidable_of_iff ('\n' ∉ l ∧ l.getLast? ≠ some '\r')
    ⟨fun h => ⟨h.1, h.2⟩, fun h => ⟨h.lineFeed_notMem, h.getLast?_ne⟩⟩

@[simp] lemma linesOf_nil : linesOf [] = [] := by simp [linesOf]

@[simp] lemma linesOf_lineFeed (cs : List Char) : linesOf ('\n' :: cs) = [] :: linesOf cs := by
  simp [linesOf]

/-- A carriage return before a line feed belongs to the end of the line. -/
@[simp] lemma linesOf_return_lineFeed (cs : List Char) :
    linesOf ('\r' :: '\n' :: cs) = [] :: linesOf cs := by
  simp [linesOf]

/-- A character that ends no line belongs to the first line. -/
lemma linesOf_cons (hfeed : c ≠ '\n') (hreturn : ¬ (c = '\r' ∧ cs.head? = some '\n')) :
    linesOf (c :: cs) = (c :: (linesOf cs).headD []) :: (linesOf cs).tail := by
  rw [linesOf.eq_def]
  split
  · rename_i heq
    cases heq
  · rename_i heq
    exact absurd (List.cons.inj heq).1 hfeed
  · rename_i heq
    obtain ⟨rfl, rfl⟩ := List.cons.inj heq
    exact absurd ⟨rfl, rfl⟩ hreturn
  · rename_i heq
    obtain ⟨rfl, rfl⟩ := List.cons.inj heq
    cases linesOf cs <;> rfl

lemma IsLine.tail (h : IsLine (c :: l)) : IsLine l := by
  refine ⟨fun hmem => h.lineFeed_notMem (List.mem_cons_of_mem c hmem), fun hlast => ?_⟩
  apply h.getLast?_ne
  rw [List.getLast?_cons, hlast]
  rfl

lemma IsLine.append {l' : List Char} (h : IsLine l) (h' : IsLine l') : IsLine (l ++ l') := by
  refine ⟨fun hfeed => ?_, fun hlast => ?_⟩
  · rcases List.mem_append.mp hfeed with hfeed | hfeed
    · exact h.lineFeed_notMem hfeed
    · exact h'.lineFeed_notMem hfeed
  · rw [List.getLast?_append, Option.or_eq_some_iff] at hlast
    rcases hlast with hlast | ⟨-, hlast⟩
    · exact h'.getLast?_ne hlast
    · exact h.getLast?_ne hlast

/-- A line is read up to its end. -/
lemma linesOf_of_isLine (h : IsLine l) : linesOf (l ++ ['\n']) = [l] := by
  induction l with
  | nil => exact linesOf_lineFeed []
  | cons c l ih =>
    have hfeed : c ≠ '\n' := by
      rintro rfl
      exact h.lineFeed_notMem List.mem_cons_self
    have hreturn : ¬ (c = '\r' ∧ (l ++ ['\n']).head? = some '\n') := by
      rintro ⟨rfl, hhead⟩
      cases l with
      | nil => exact h.getLast?_ne rfl
      | cons d l =>
        obtain rfl : d = '\n' := by simpa using hhead
        exact h.lineFeed_notMem (by simp)
    rw [List.cons_append, linesOf_cons hfeed hreturn, ih h.tail]
    rfl

/-- What comes after the last end of a line is a line if there is anything. -/
lemma linesOf_of_notMem (h : '\n' ∉ cs) : linesOf cs = if cs = [] then [] else [cs] := by
  induction cs with
  | nil => rw [linesOf_nil, if_pos rfl]
  | cons c cs ih =>
    obtain ⟨hc, hcs⟩ : '\n' ≠ c ∧ '\n' ∉ cs := by simpa using h
    have hreturn : ¬ (c = '\r' ∧ cs.head? = some '\n') :=
      fun ⟨_, hhead⟩ => hcs (List.mem_of_mem_head? hhead)
    rw [linesOf_cons hc.symm hreturn, ih hcs, if_neg (List.cons_ne_nil c cs)]
    split_ifs with hnil
    · rw [hnil]
      rfl
    · rfl

lemma length_linesOf_cons (hfeed : c ≠ '\n') :
    (linesOf (c :: cs)).length = max 1 (linesOf cs).length := by
  by_cases hreturn : c = '\r' ∧ cs.head? = some '\n'
  · obtain ⟨rfl, hhead⟩ := hreturn
    obtain ⟨cs, rfl⟩ := List.head?_eq_some_iff.mp hhead
    rw [linesOf_return_lineFeed, linesOf_lineFeed, List.length_cons]
    omega
  · rw [linesOf_cons hfeed hreturn, List.length_cons, List.length_tail]
    omega

lemma linesOf_ne_nil (h : cs ≠ []) : linesOf cs ≠ [] := by
  obtain ⟨c, cs, rfl⟩ := List.exists_cons_of_ne_nil h
  by_cases hfeed : c = '\n'
  · rw [hfeed, linesOf_lineFeed]
    exact List.cons_ne_nil _ _
  · rw [← List.length_pos_iff, length_linesOf_cons hfeed]
    omega

/-- There are as many lines as ends of lines, and one more if the last line is not ended. -/
lemma length_linesOf (cs : List Char) :
    (linesOf cs).length =
      cs.count '\n' + if cs = [] ∨ cs.getLast? = some '\n' then 0 else 1 := by
  induction cs with
  | nil => simp
  | cons c cs ih =>
    by_cases hfeed : c = '\n'
    · rw [hfeed, linesOf_lineFeed, List.length_cons, ih, List.count_cons_self]
      cases cs with
      | nil => rfl
      | cons d cs =>
        simp only [reduceCtorEq, false_or, List.getLast?_cons_cons]
        omega
    · rw [length_linesOf_cons hfeed, ih, List.count_cons_of_ne hfeed]
      cases cs with
      | nil => simp [hfeed]
      | cons d cs =>
        simp only [reduceCtorEq, false_or, List.getLast?_cons_cons]
        split_ifs with hlast
        · have hcount := List.count_pos_iff.mpr (List.mem_of_getLast? hlast)
          omega
        · omega

/-- The characters of a line are characters of the text, and none of them is a line feed. -/
lemma mem_of_mem_linesOf (hl : l ∈ linesOf cs) : ∀ d ∈ l, d ≠ '\n' ∧ d ∈ cs := by
  induction cs generalizing l with
  | nil =>
    rw [linesOf_nil] at hl
    cases hl
  | cons c cs ih =>
    have hrest : ∀ l ∈ linesOf cs, ∀ d ∈ l, d ≠ '\n' ∧ d ∈ c :: cs := fun l hl d hd =>
      (ih hl d hd).imp_right (List.mem_cons_of_mem c)
    by_cases hfeed : c = '\n'
    · subst hfeed
      rw [linesOf_lineFeed] at hl
      rcases List.mem_cons.mp hl with rfl | hl
      · exact List.forall_mem_nil _
      · exact hrest l hl
    by_cases hreturn : c = '\r' ∧ cs.head? = some '\n'
    · obtain ⟨rfl, hhead⟩ := hreturn
      obtain ⟨cs, rfl⟩ := List.head?_eq_some_iff.mp hhead
      rw [linesOf_return_lineFeed, ← linesOf_lineFeed] at hl
      exact hrest l hl
    · rw [linesOf_cons hfeed hreturn] at hl
      rcases List.mem_cons.mp hl with rfl | hl
      · refine List.forall_mem_cons.mpr ⟨⟨hfeed, List.mem_cons_self⟩, ?_⟩
        cases hlines : linesOf cs with
        | nil => exact List.forall_mem_nil _
        | cons line lines => exact hrest line (hlines ▸ List.mem_cons_self)
      · exact hrest l (List.mem_of_mem_tail hl)

/-- What comes after characters whose last line is ended is read as if nothing came before it. -/
lemma linesOf_append (hended : cs = [] ∨ cs.getLast? = some '\n') (ds : List Char) :
    linesOf (cs ++ ds) = linesOf cs ++ linesOf ds := by
  induction cs with
  | nil => rfl
  | cons c cs ih =>
    have hlast : (c :: cs).getLast? = some '\n' := by simpa using hended
    cases cs with
    | nil =>
      obtain rfl : c = '\n' := by simpa using hlast
      rw [List.singleton_append, linesOf_lineFeed, linesOf_lineFeed, linesOf_nil,
        List.singleton_append]
    | cons d cs =>
      have hrest := ih (.inr hlast)
      by_cases hfeed : c = '\n'
      · rw [hfeed, List.cons_append, linesOf_lineFeed, linesOf_lineFeed, hrest, List.cons_append]
      by_cases hreturn : c = '\r' ∧ d = '\n'
      · obtain ⟨rfl, rfl⟩ := hreturn
        simpa using hrest
      · -- the character belongs to the first line of the rest, and there is one
        have hcons : ∀ cs, linesOf (c :: d :: cs) =
            (c :: (linesOf (d :: cs)).headD []) :: (linesOf (d :: cs)).tail := fun cs =>
          linesOf_cons hfeed (by simpa using hreturn)
        obtain ⟨line, lines, hlines⟩ :=
          List.exists_cons_of_ne_nil (linesOf_ne_nil (List.cons_ne_nil d cs))
        rw [List.cons_append, List.cons_append, hcons, ← List.cons_append, hrest, hcons, hlines]
        rfl

/-- Any characters are some whose last line is ended, and after them some without a line feed. -/
lemma exists_ended_append_eq (cs : List Char) :
    ∃ body rest, body ++ rest = cs ∧ (body = [] ∨ body.getLast? = some '\n') ∧ '\n' ∉ rest := by
  induction cs with
  | nil => exact ⟨[], [], rfl, .inl rfl, List.not_mem_nil⟩
  | cons c cs ih =>
    obtain ⟨body, rest, rfl, hbody, hrest⟩ := ih
    cases body with
    | cons d body => exact ⟨c :: d :: body, rest, rfl, .inr (by simpa using hbody), hrest⟩
    | nil =>
      by_cases hfeed : c = '\n'
      · exact ⟨[c], rest, rfl, .inr (by simp [hfeed]), hrest⟩
      · exact ⟨[], c :: rest, rfl, .inl rfl, by simp [Ne.symm hfeed, hrest]⟩

/-! ### Texts -/

/-- The last line of the text is ended, if there is one. -/
def IsEnded (text : String) : Prop :=
  text = "" ∨ text.toList.getLast? = some '\n'

instance (text : String) : Decidable (IsEnded text) :=
  inferInstanceAs (Decidable (_ ∨ _))

variable {text line : String}

lemma isEnded_iff : IsEnded text ↔ text.toList = [] ∨ text.toList.getLast? = some '\n' := by
  rw [IsEnded, String.toList_eq_nil_iff]

lemma isEnded_append_lineFeed (text line : String) : IsEnded (text ++ (line ++ "\n")) :=
  .inr (by simp)

lemma unlines_concat (lines : List String) (line : String) :
    unlines (lines ++ [line]) = unlines lines ++ (line ++ "\n") := by
  simp [unlines]

lemma isEnded_unlines (ls : List String) : IsEnded (unlines ls) := by
  rcases ls.eq_nil_or_concat with rfl | ⟨ls, line, rfl⟩
  · exact .inl rfl
  · rw [List.concat_eq_append, unlines_concat]
    exact isEnded_append_lineFeed _ line

lemma lines_of_isLine (hline : IsLine line.toList) : lines (line ++ "\n") = [line] := by
  have hfeed : (line ++ "\n").toList = line.toList ++ ['\n'] := String.toList_append
  rw [lines, hfeed, linesOf_of_isLine hline, List.map_singleton, String.ofList_toList]

lemma lines_of_notMem (hfeed : '\n' ∉ text.toList) :
    lines text = if text = "" then [] else [text] := by
  rw [lines, linesOf_of_notMem hfeed]
  by_cases htext : text = ""
  · rw [htext]
    rfl
  · rw [if_neg (by simpa using htext), if_neg htext, List.map_singleton, String.ofList_toList]

/-- What comes after a text whose last line is ended is read as if nothing came before it. -/
lemma lines_append (hended : IsEnded text) (more : String) :
    lines (text ++ more) = lines text ++ lines more := by
  rw [lines, lines, lines, String.toList_append, linesOf_append (isEnded_iff.mp hended),
    List.map_append]

/-- A text is one whose last line is ended, and a line after it that is not. -/
lemma exists_isEnded_append_eq (text : String) :
    ∃ body last, body ++ last = text ∧ IsEnded body ∧ '\n' ∉ last.toList := by
  obtain ⟨body, last, happend, hbody, hlast⟩ := exists_ended_append_eq text.toList
  refine ⟨.ofList body, .ofList last, ?_, isEnded_iff.mpr ?_, ?_⟩
  · rw [← String.ofList_append, happend, String.ofList_toList]
  · rwa [String.toList_ofList]
  · rwa [String.toList_ofList]

/-- What is put together from lines has just these. -/
theorem lines_unlines {ls : List String} (hlines : ∀ line ∈ ls, IsLine line.toList) :
    lines (unlines ls) = ls := by
  induction ls using List.reverseRecOn with
  | nil => rfl
  | append_singleton ls line ih =>
    obtain ⟨hls, hline⟩ := List.forall_mem_append.mp hlines
    rw [unlines_concat, lines_append (isEnded_unlines ls), ih hls,
      lines_of_isLine (hline line (List.mem_singleton_self line))]

/-- The lines of a text without carriage returns are lines. -/
lemma isLine_of_mem_lines (hreturn : '\r' ∉ text.toList) (hline : line ∈ lines text) :
    IsLine line.toList := by
  obtain ⟨l, hl, rfl⟩ := List.mem_map.mp hline
  have hmem := mem_of_mem_linesOf hl
  rw [String.toList_ofList]
  exact ⟨fun hfeed => (hmem _ hfeed).1 rfl,
    fun hlast => hreturn (hmem _ (List.mem_of_getLast? hlast)).2⟩

/-- No line feed stands in a line, whatever the text. -/
lemma notMem_of_mem_lines (hline : line ∈ lines text) : '\n' ∉ line.toList := by
  obtain ⟨l, hl, rfl⟩ := List.mem_map.mp hline
  rw [String.toList_ofList]
  exact fun hfeed => (mem_of_mem_linesOf hl _ hfeed).1 rfl

/-! ### How many lines -/

lemma length_lines (text : String) :
    (lines text).length = text.toList.count '\n' + if IsEnded text then 0 else 1 := by
  rw [lines, List.length_map, length_linesOf, if_congr isEnded_iff.symm rfl rfl]

/-- A line that is added makes for one more line, or for none if it goes on with the last one. -/
lemma length_lines_append_le (hline : '\n' ∉ line.toList) (text : String) :
    (lines (text ++ (line ++ "\n"))).length ≤ (lines text).length + 1 := by
  have hcount : (text ++ (line ++ "\n")).toList.count '\n' = text.toList.count '\n' + 1 := by
    simp [List.count_eq_zero.mpr hline]
  rw [length_lines, length_lines, if_pos (isEnded_append_lineFeed text line), hcount]
  omega

/-- There are as many lines as were put together, even if they end with carriage returns. -/
lemma length_lines_unlines {ls : List String} (hlines : ∀ line ∈ ls, '\n' ∉ line.toList) :
    (lines (unlines ls)).length = ls.length := by
  rw [length_lines, if_pos (isEnded_unlines ls), Nat.add_zero]
  induction ls using List.reverseRecOn with
  | nil => rfl
  | append_singleton ls line ih =>
    obtain ⟨hls, hline⟩ := List.forall_mem_append.mp hlines
    have hfeed : line.toList.count '\n' = 0 :=
      List.count_eq_zero.mpr (hline line (List.mem_singleton_self line))
    rw [unlines_concat, String.toList_append, List.count_append, ih hls]
    simp [hfeed]

/-! ### One more line -/

/-- A line that is added to a text whose last line is ended comes after its lines. -/
lemma lines_append_of_isEnded (hended : IsEnded text) (hline : IsLine line.toList) :
    lines (text ++ (line ++ "\n")) = lines text ++ [line] := by
  rw [lines_append hended, lines_of_isLine hline]

/-- A line that is added to a text whose last line is not ended goes on with that line. -/
lemma lines_append_of_not_isEnded (hlines : ∀ line ∈ lines text, IsLine line.toList)
    (hended : ¬ IsEnded text) (hline : IsLine line.toList) :
    ∃ ls last, last ≠ "" ∧ lines text = ls ++ [last] ∧
      lines (text ++ (line ++ "\n")) = ls ++ [last ++ line] := by
  obtain ⟨body, last, rfl, hbody, hlast⟩ := exists_isEnded_append_eq text
  have hne : last ≠ "" := by
    rintro rfl
    rw [String.append_empty] at hended
    exact hended hbody
  have hbefore : lines (body ++ last) = lines body ++ [last] := by
    rw [lines_append hbody, lines_of_notMem hlast, if_neg hne]
  have hjoined : IsLine (last ++ line).toList := by
    rw [String.toList_append]
    exact (hlines last (by simp [hbefore])).append hline
  have htext : body ++ last ++ (line ++ "\n") = body ++ (last ++ line ++ "\n") := by
    simp only [String.append_assoc]
  refine ⟨lines body, last, hne, hbefore, ?_⟩
  rw [htext, lines_append hbody, lines_of_isLine hjoined]

/-- Only then does the line come after the lines of the text. -/
lemma lines_append_eq_iff (hlines : ∀ line ∈ lines text, IsLine line.toList)
    (hline : IsLine line.toList) :
    lines (text ++ (line ++ "\n")) = lines text ++ [line] ↔ IsEnded text := by
  refine ⟨fun happend => ?_, fun hended => lines_append_of_isEnded hended hline⟩
  by_contra hended
  obtain ⟨ls, last, -, hbefore, hafter⟩ := lines_append_of_not_isEnded hlines hended hline
  have hlength := congrArg List.length happend
  simp [hbefore, hafter] at hlength

end LineShell.Text
