import LineShell.Builtin.Variables
import Mathlib.Data.List.TakeWhile
import Mathlib.Tactic.Common

/-!
# Texts with references

A text is read from left to right in one way (`Reads`): as references, each of which goes on as long
as it can, and as characters that stand for themselves. To expand the text is to put the value of
the variable in the place of each reference (`expand_one_pass`). Values are not read. A text may be
cut before any character that does not go on with a name, and its parts be expanded one by one.
-/

namespace LineShell.Variables

variable {vars : Variables} {c d : Char} {name cs cs' : List Char}

/-! ### Names -/

/-- Whether the character is a letter of ASCII or an underscore. -/
def beginsName (c : Char) : Bool :=
  c.isAlpha || c == '_'

/-- Whether the character is a letter or a digit of ASCII or an underscore. -/
def goesOnWithName (c : Char) : Bool :=
  c.isAlphanum || c == '_'

lemma isNameStart_eq (c : Char) : isNameStart c = beginsName c := by
  have hlower : (decide ('a' ≤ c) && decide (c ≤ 'z')) = c.isLower := rfl
  have hupper : (decide ('A' ≤ c) && decide (c ≤ 'Z')) = c.isUpper := (Bool.decide_and _ _).symm
  have halpha : c.isAlpha = (c.isUpper || c.isLower) := rfl
  rw [isNameStart, beginsName, halpha, hlower, hupper, Bool.or_comm c.isLower]

lemma isNameChar_eq (c : Char) : isNameChar c = goesOnWithName c := by
  have hdigit : (decide ('0' ≤ c) && decide (c ≤ '9')) = c.isDigit := rfl
  rw [isNameChar, goesOnWithName, isNameStart_eq, beginsName, Char.isAlphanum, hdigit,
    Bool.or_right_comm]

lemma goesOnWithName_of_beginsName (h : beginsName c = true) : goesOnWithName c = true := by
  rw [← isNameChar_eq, isNameChar, isNameStart_eq, h, Bool.true_or]

/-- No character of a name is a dollar sign. -/
lemma ne_dollar_of_goesOnWithName (h : goesOnWithName c = true) : c ≠ '$' := by
  rintro rfl
  revert h
  decide

/-- The characters do not begin with one that goes on with a name. -/
def EndsName (cs : List Char) : Prop :=
  ∀ c ∈ cs.head?, goesOnWithName c = false

lemma EndsName.append (hcs : EndsName cs) (hcs' : EndsName cs') : EndsName (cs ++ cs') := by
  cases cs with
  | nil => exact hcs'
  | cons c cs => exact hcs

/-- A name is all of the characters that go on with it. -/
lemma takeWhile_name (hname : ∀ c ∈ name, goesOnWithName c = true) (hcs : EndsName cs) :
    (name ++ cs).takeWhile goesOnWithName = name := by
  rw [List.takeWhile_append_of_pos hname]
  cases cs with
  | nil => exact List.append_nil name
  | cons c cs => rw [List.takeWhile_cons_of_neg (by simpa using hcs c rfl), List.append_nil]

lemma dropWhile_name (hname : ∀ c ∈ name, goesOnWithName c = true) (hcs : EndsName cs) :
    (name ++ cs).dropWhile goesOnWithName = cs := by
  rw [List.dropWhile_append_of_pos hname]
  cases cs with
  | nil => rfl
  | cons c cs => rw [List.dropWhile_cons_of_neg (by simpa using hcs c rfl)]

lemma endsName_dropWhile (cs : List Char) : EndsName (cs.dropWhile goesOnWithName) := by
  intro c hc
  have hnot := List.head?_dropWhile_not goesOnWithName cs
  rwa [hc] at hnot

/-! ### Pieces of a text -/

/-- A piece of a text. -/
inductive Piece
  /-- A character that stands for itself. -/
  | plain (c : Char)
  /-- A reference to the variable of a name. -/
  | reference (name : String)
  deriving DecidableEq, Repr

namespace Piece

/-- The piece as it is written. -/
def written : Piece → List Char
  | plain c => [c]
  | reference name => '$' :: name.toList

/-- What is put in the place of the piece: the character itself, or the value of the variable, which
is empty if there is none. -/
def value (vars : Variables) : Piece → List Char
  | plain c => [c]
  | reference name => ((vars.get? name).getD "").toList

end Piece

/-- The characters are read as these pieces. A dollar sign before a letter or an underscore begins a
reference, which goes on as far as there are letters, digits and underscores. -/
inductive Reads : List Char → List Piece → Prop
  | nil : Reads [] []
  | plain {c : Char} {cs : List Char} {pieces : List Piece}
    (hplain : c = '$' → ∀ d ∈ cs.head?, beginsName d = false) (h : Reads cs pieces) :
    Reads (c :: cs) (.plain c :: pieces)
  | reference {d : Char} {name cs : List Char} {pieces : List Piece} (hbegin : beginsName d = true)
    (hname : ∀ c ∈ name, goesOnWithName c = true) (hend : EndsName cs) (h : Reads cs pieces) :
    Reads ('$' :: (d :: name ++ cs)) (.reference (.ofList (d :: name)) :: pieces)

/-- Where a reference begins, and only there, a value is put in. -/
lemma beginsReference_iff :
    (c = '$' ∧ cs.head?.any isNameStart = true) ↔
      ¬ (c = '$' → ∀ d ∈ cs.head?, beginsName d = false) := by
  rw [show isNameStart = beginsName from funext isNameStart_eq, Option.any_eq_true]
  simp

namespace Reads

variable {pieces pieces' : List Piece}

lemma flatMap_written (h : Reads cs pieces) : pieces.flatMap Piece.written = cs := by
  induction h with
  | nil => rfl
  | plain _ _ ih => rw [List.flatMap_cons, ih, Piece.written, List.singleton_append]
  | reference _ _ _ _ ih =>
    rw [List.flatMap_cons, ih, Piece.written, String.toList_ofList, List.cons_append]

/-- A dollar sign before a letter or an underscore is read as the beginning of a reference, wherever
it stands. -/
lemma reference_at (h : Reads cs pieces) {before rest : List Char}
    (hcs : cs = before ++ '$' :: d :: rest) (hd : beginsName d = true) :
    ∃ ps qs, pieces =
        ps ++ .reference (.ofList ((d :: rest).takeWhile goesOnWithName)) :: qs ∧
      ps.flatMap Piece.written = before := by
  induction h generalizing before with
  | nil => simp at hcs
  | @plain c cs pieces hplain h ih =>
    cases before with
    | nil =>
      obtain ⟨rfl, rfl⟩ := List.cons.inj hcs
      exact absurd hd (Bool.eq_false_iff.mp (hplain rfl d rfl))
    | cons b before =>
      obtain ⟨rfl, rfl⟩ := List.cons.inj hcs
      obtain ⟨ps, qs, rfl, hps⟩ := ih rfl
      exact ⟨.plain c :: ps, qs, rfl, congrArg (c :: ·) hps⟩
  | @reference d' name cs pieces hbegin hname hend h ih =>
    have hall : ∀ c ∈ d' :: name, goesOnWithName c = true :=
      List.forall_mem_cons.mpr ⟨goesOnWithName_of_beginsName hbegin, hname⟩
    cases before with
    | nil =>
      obtain ⟨-, hrest⟩ := List.cons.inj hcs
      refine ⟨[], pieces, ?_, rfl⟩
      rw [← hrest, takeWhile_name hall hend]
      rfl
    | cons b before =>
      obtain ⟨rfl, hrest⟩ := List.cons.inj hcs
      -- the dollar sign is no part of the name, so it comes after it
      rcases List.append_eq_append_iff.mp hrest with
        ⟨middle, rfl, hmiddle⟩ | ⟨middle, hsplit, hmiddle⟩
      · obtain ⟨ps, qs, rfl, hps⟩ := ih hmiddle
        refine ⟨_ :: ps, qs, rfl, ?_⟩
        rw [List.flatMap_cons, hps, Piece.written, String.toList_ofList, List.cons_append]
      · cases middle with
        | nil =>
          obtain ⟨ps, qs, rfl, hps⟩ := ih (show cs = [] ++ '$' :: d :: rest from hmiddle.symm)
          refine ⟨_ :: ps, qs, rfl, ?_⟩
          rw [List.flatMap_cons, hps, Piece.written, String.toList_ofList, hsplit]
          simp
        | cons m middle =>
          obtain ⟨rfl, -⟩ := List.cons.inj hmiddle
          exact absurd rfl (ne_dollar_of_goesOnWithName (hall '$' (by simp [hsplit])))

/-- The induction is on the one reading; what comes first in the other one is told by the
characters. -/
lemma unique (h : Reads cs pieces) (h' : Reads cs pieces') : pieces' = pieces := by
  induction h generalizing pieces' with
  | nil => cases h'; rfl
  | @plain c cs pieces hplain h ih =>
    cases h' with
    | plain _ h' => rw [ih h']
    | reference hbegin _ _ _ => exact absurd hbegin (Bool.eq_false_iff.mp (hplain rfl _ rfl))
  | @reference d name cs pieces hbegin hname hend h ih =>
    generalize hwhole : '$' :: (d :: name ++ cs) = whole at h'
    cases h' with
    | nil => cases hwhole
    | plain hplain h' =>
      obtain ⟨rfl, rfl⟩ := List.cons.inj hwhole
      exact absurd hbegin (Bool.eq_false_iff.mp (hplain rfl d rfl))
    | @reference d' name' cs' pieces' hbegin' hname' hend' h' =>
      obtain ⟨rfl, hrest⟩ := List.cons.inj (List.cons.inj hwhole).2
      replace hrest : name ++ cs = name' ++ cs' := hrest
      obtain rfl : name = name' := by
        rw [← takeWhile_name hname hend, hrest, takeWhile_name hname' hend']
      obtain rfl := List.append_cancel_left hrest
      rw [ih h']

/-- Texts that are cut where no name goes on are read one after the other. -/
lemma append (h : Reads cs pieces) (h' : Reads cs' pieces') (hcut : EndsName cs') :
    Reads (cs ++ cs') (pieces ++ pieces') := by
  induction h with
  | nil => exact h'
  | @plain c cs pieces hplain h ih =>
    refine .plain (fun hdollar d hd => ?_) ih
    cases cs with
    | nil =>
      have hnot := hcut d hd
      exact Bool.eq_false_iff.mpr fun hbegin =>
        Bool.eq_false_iff.mp hnot (goesOnWithName_of_beginsName hbegin)
    | cons b cs => exact hplain hdollar d hd
  | reference hbegin hname hend h ih =>
    have hboth := Reads.reference hbegin hname (hend.append hcut) ih
    rwa [← List.append_assoc] at hboth

/-- To expand characters is to put values in the place of what they are read as. -/
lemma expandChars_eq (h : Reads cs pieces) (vars : Variables) :
    vars.expandChars cs = pieces.flatMap (Piece.value vars) := by
  induction h with
  | nil => rw [expandChars, List.flatMap_nil]
  | @plain c cs pieces hplain h ih =>
    have hnot := mt beginsReference_iff.mp (not_not.mpr hplain)
    rw [expandChars, if_neg hnot, ih, List.flatMap_cons, Piece.value, List.singleton_append]
  | @reference d name cs pieces hbegin hname hend h ih =>
    have hall : ∀ c ∈ d :: name, goesOnWithName c = true :=
      List.forall_mem_cons.mpr ⟨goesOnWithName_of_beginsName hbegin, hname⟩
    have hstart : '$' = '$' ∧ (d :: name ++ cs).head?.any isNameStart = true :=
      ⟨rfl, (isNameStart_eq d).trans hbegin⟩
    have hchars : isNameChar = goesOnWithName := funext isNameChar_eq
    rw [expandChars, if_pos hstart, hchars, takeWhile_name hall hend, dropWhile_name hall hend, ih,
      List.flatMap_cons, Piece.value]

end Reads

/-- Any characters can be read. The induction is the one of expanding them. -/
lemma exists_reads (cs : List Char) : ∃ pieces, Reads cs pieces := by
  induction cs using expandChars.induct with
  | case1 => exact ⟨[], .nil⟩
  | case2 c cs hreference ih =>
    obtain ⟨pieces, h⟩ := ih
    obtain ⟨rfl, d, hd, hbegin⟩ : c = '$' ∧ ∃ d ∈ cs.head?, beginsName d = true := by
      simpa using beginsReference_iff.mp hreference
    obtain ⟨cs, rfl⟩ := List.head?_eq_some_iff.mp hd
    rw [show isNameChar = goesOnWithName from funext isNameChar_eq,
      List.dropWhile_cons_of_pos (goesOnWithName_of_beginsName hbegin)] at h
    have hname : ∀ c ∈ cs.takeWhile goesOnWithName, goesOnWithName c = true :=
      fun c => List.mem_takeWhile_imp
    have hread := Reads.reference hbegin hname (endsName_dropWhile cs) h
    rw [List.cons_append, List.takeWhile_append_dropWhile] at hread
    exact ⟨_, hread⟩
  | case3 c cs hplain ih =>
    obtain ⟨pieces, h⟩ := ih
    exact ⟨_, .plain (not_not.mp (mt beginsReference_iff.mpr hplain)) h⟩

/-! ### Expanding a text -/

lemma toList_expand (vars : Variables) (text : String) :
    (vars.expand text).toList = vars.expandChars text.toList :=
  String.toList_ofList

/-- A text is read in one way, whatever the variables are. What it is read as is all of it, and each
dollar sign in it that a letter or an underscore comes after begins a reference, by a name that goes
on as far as there are letters, digits and underscores. To expand the text is to put the value of
the variable in the place of each reference, and to leave all other characters as they are. If what
comes after the text does not go on with a name, it makes no difference to this. -/
theorem expand_one_pass (text : String) :
    (∃ pieces, Reads text.toList pieces ∧ (∀ other, Reads text.toList other → other = pieces) ∧
      pieces.flatMap Piece.written = text.toList ∧
      (∀ before d rest, text.toList = before ++ '$' :: d :: rest → beginsName d = true →
        ∃ ps qs, pieces =
            ps ++ .reference (.ofList ((d :: rest).takeWhile goesOnWithName)) :: qs ∧
          ps.flatMap Piece.written = before) ∧
      ∀ vars : Variables, (vars.expand text).toList = pieces.flatMap (Piece.value vars)) ∧
    ∀ (vars : Variables) (more : String), EndsName more.toList →
      vars.expand (text ++ more) = vars.expand text ++ vars.expand more := by
  obtain ⟨pieces, h⟩ := exists_reads text.toList
  refine ⟨⟨pieces, h, fun _ h' => h.unique h', h.flatMap_written,
    fun _ _ _ hsplit hd => h.reference_at hsplit hd, fun vars => ?_⟩, fun vars more hmore => ?_⟩
  · rw [toList_expand, h.expandChars_eq]
  · obtain ⟨pieces', h'⟩ := exists_reads more.toList
    rw [← String.toList_inj, String.toList_append, toList_expand, toList_expand, toList_expand,
      String.toList_append, (h.append h' hmore).expandChars_eq, h.expandChars_eq, h'.expandChars_eq,
      List.flatMap_append]

end LineShell.Variables
