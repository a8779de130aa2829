import LineShell.Proofs.Grammar.WellFormed
import Mathlib.Data.Finset.Card
import Mathlib.Data.List.Count

/-!
# Each problem of a grammar, once

The ids and the forms that have been used are gathered on the way through the options, while the
problems are being reported. Kind by kind, and apart from their order, the problems are one for each
name, token, option and form that is at fault, and one more for each time that an id or a form comes
again (`problems_perm_faults`). So nothing that is wrong with one part of a grammar hides what is
wrong with another, and there is nothing to report just where nothing is at fault
(`problems_exact`).
-/

namespace LineShell

/-! ### What comes again -/

/-- The members of a list that come again, after some that were used before it. -/
def repeats (used : List String) : List String → List String
  | [] => []
  | x :: xs => (if x ∈ used then [x] else []) ++ repeats (x :: used) xs

lemma repeats_append (used xs ys : List String) :
    repeats used (xs ++ ys) = repeats used xs ++ repeats (xs.reverse ++ used) ys := by
  induction xs generalizing used with
  | nil => rfl
  | cons x xs ih => simp [repeats, ih]

/-- Every occurrence is a repetition but for the first one, and this one is too if the member was
used before. -/
lemma count_repeats (used xs : List String) (x : String) :
    (repeats used xs).count x = xs.count x - if x ∈ used then 0 else 1 := by
  induction xs generalizing used with
  | nil => simp [repeats]
  | cons y xs ih =>
    rw [repeats, List.count_append, ih]
    by_cases hxy : y = x
    · subst hxy
      by_cases hy : y ∈ used <;> simp [hy, Nat.add_comm]
    · by_cases hy : y ∈ used <;> simp [hy, hxy, Ne.symm hxy]

/-- What comes again is what is left of a list if each member is taken away once. -/
lemma repeats_perm_diff (xs : List String) : (repeats [] xs).Perm (xs.diff xs.dedup) := by
  rw [List.perm_iff_count]
  intro x
  rw [count_repeats, List.count_diff, List.count_dedup, if_neg List.not_mem_nil]
  split_ifs with hx
  · rfl
  · rw [List.count_eq_zero_of_not_mem hx]

/-- As many members come again as there are more members than different ones. -/
lemma length_diff_dedup (xs : List String) :
    (xs.diff xs.dedup).length + xs.toFinset.card = xs.length := by
  have hperm : (xs.dedup ++ xs.diff xs.dedup).Perm xs :=
    List.subperm_append_diff_self_of_count_le fun x _ => (List.dedup_sublist xs).count_le x
  have hlength := hperm.length_eq
  rw [List.length_append] at hlength
  rw [List.card_toFinset]
  omega

namespace Grammar

/-! ### Tokens and forms that are at fault -/

lemma isToken_iff {token : String} :
    isToken token ↔ token ≠ "" ∧ ∀ a ∈ token.toList, Text.isBlank a = false := by
  simp [isToken]

lemma isForm_iff {marker : Char} {form : String} :
    isForm marker form ↔ form.toList.head? = some marker ∧ 2 ≤ form.length := by
  simp [isForm]

lemma not_isToken (token : String) :
    (!isToken token) = (token.isEmpty || token.toList.any Text.isBlank) := by
  simp [isToken]

lemma not_isForm (marker : Char) (form : String) :
    (!isForm marker form) = (form.toList.head? != some marker || form.length < 2) := by
  rw [Bool.eq_iff_iff, Bool.not_eq_true', ← Bool.not_eq_true, isForm_iff, not_and_or, Nat.not_le,
    Bool.or_eq_true, bne_iff_ne, decide_eq_true_eq]

/-! ### What is reported, kind by kind -/

lemma nameProblems_perm (names : List (List String)) :
    (names.flatMap nameProblems).Perm
      ((names.filter (·.isEmpty)).map (fun _ => .emptyName) ++
        (names.flatten.filter (!isToken ·)).map .invalidToken) := by
  induction names with
  | nil => rfl
  | cons name names ih =>
    rw [List.perm_iff_count]
    intro problem
    simp only [List.flatMap_cons, nameProblems, List.flatten_cons, List.filter_append,
      List.map_append, List.count_append, ih.count_eq]
    cases hnone : name.isEmpty <;> simp [hnone, List.count_cons] <;> omega

/-- At each form the two kinds of problems that it may have are sorted. -/
lemma formProblems_perm (marker : Char) (used forms : List String) :
    (formProblems marker used forms).Perm
      ((forms.filter (!isForm marker ·)).map (.invalidForm · marker) ++
        (repeats used forms).map .duplicateForm) := by
  induction forms generalizing used with
  | nil => rfl
  | cons form forms ih =>
    have hrest := ih (form :: used)
    rw [List.perm_iff_count]
    intro problem
    rw [formProblems, repeats, List.count_append, List.count_append, hrest.count_eq,
      List.filter_cons]
    by_cases hform : isForm marker form <;> by_cases hused : form ∈ used <;>
      simp [hform, hused, List.count_append, List.count_cons] <;> omega

/-- The induction is on the options. Those after the first one come after its id and its forms, just
as their ids and forms do. -/
lemma optionProblems_perm (marker : Char) (ids used : List String) (options : List OptionGrammar) :
    (optionProblems marker ids used options).Perm
      ((repeats ids (options.map (·.id))).map .duplicateOption ++
        (options.filter (·.forms.isEmpty)).map (.missingForm ·.id) ++
        ((options.flatMap (·.forms)).filter (!isForm marker ·)).map (.invalidForm · marker) ++
        (repeats used (options.flatMap (·.forms))).map .duplicateForm) := by
  induction options generalizing ids used with
  | nil => rfl
  | cons o options ih =>
    have hforms := formProblems_perm marker used o.forms
    have hrest := ih (o.id :: ids) (o.forms.reverse ++ used)
    rw [List.perm_iff_count]
    intro problem
    rw [optionProblems]
    simp only [List.map_cons, List.flatMap_cons, repeats, repeats_append, List.filter_append,
      List.map_append, List.count_append, hforms.count_eq, hrest.count_eq]
    by_cases hid : o.id ∈ ids <;> cases hnone : o.forms.isEmpty <;>
      simp [hid, hnone, List.count_cons] <;> omega

/-- What is at fault in a grammar, kind by kind: that there is no name, each name without tokens,
each token that is empty or holds a blank, each id that comes again, each option without a form,
each form that does not begin with the marker or is nothing but the marker, and each form that comes
again. -/
def faults (g : Grammar) : List Problem :=
  let ids := g.options.map (·.id)
  let forms := g.options.flatMap (·.forms)
  (if g.names.isEmpty then [Problem.emptyName] else []) ++
    (g.names.filter (·.isEmpty)).map (fun _ => Problem.emptyName) ++
    (g.names.flatten.filter fun token =>
      token.isEmpty || token.toList.any Text.isBlank).map Problem.invalidToken ++
    (ids.diff ids.dedup).map Problem.duplicateOption ++
    (g.options.filter (·.forms.isEmpty)).map (Problem.missingForm ·.id) ++
    (forms.filter fun form =>
      form.toList.head? != some g.marker || form.length < 2).map (Problem.invalidForm · g.marker) ++
    (forms.diff forms.dedup).map Problem.duplicateForm

lemma problems_perm_faults (g : Grammar) : g.problems.Perm g.faults := by
  have hnames := nameProblems_perm g.names
  have hoptions := optionProblems_perm g.marker [] [] g.options
  have hids := (repeats_perm_diff (g.options.map (·.id))).map Problem.duplicateOption
  have hforms := (repeats_perm_diff (g.options.flatMap (·.forms))).map Problem.duplicateForm
  rw [List.perm_iff_count]
  intro problem
  simp only [problems, faults, List.count_append, hnames.count_eq, hoptions.count_eq,
    hids.count_eq, hforms.count_eq, not_isToken, not_isForm]
  omega

end Grammar

/-! ### What comes again among the problems -/

/-- Whether the problem is an id that comes again. -/
def Problem.isDuplicateOption : Problem → Bool
  | .duplicateOption _ => true
  | _ => false

/-- Whether the problem is a form that comes again. -/
def Problem.isDuplicateForm : Problem → Bool
  | .duplicateForm _ => true
  | _ => false

namespace Grammar

lemma countP_isDuplicateOption (g : Grammar) :
    g.problems.countP (·.isDuplicateOption) =
      ((g.options.map (·.id)).diff (g.options.map (·.id)).dedup).length := by
  rw [(problems_perm_faults g).countP_eq, faults]
  cases g.names.isEmpty <;>
    simp [List.countP_map, List.countP_replicate, Function.comp_def, Problem.isDuplicateOption]

lemma countP_isDuplicateForm (g : Grammar) :
    g.problems.countP (·.isDuplicateForm) =
      ((g.options.flatMap (·.forms)).diff (g.options.flatMap (·.forms)).dedup).length := by
  rw [(problems_perm_faults g).countP_eq, faults]
  cases g.names.isEmpty <;>
    simp [List.countP_map, List.countP_replicate, Function.comp_def, Problem.isDuplicateForm]

lemma wellFormed_iff {g : Grammar} :
    g.WellFormed ↔ g.names ≠ [] ∧ (∀ name ∈ g.names, name ≠ []) ∧
      (∀ name ∈ g.names, ∀ token ∈ name, token ≠ "" ∧ ∀ a ∈ token.toList, Text.isBlank a = false) ∧
      (g.options.map (·.id)).Nodup ∧ (∀ o ∈ g.options, o.forms ≠ []) ∧
      (∀ o ∈ g.options, ∀ form ∈ o.forms, form.toList.head? = some g.marker ∧ 2 ≤ form.length) ∧
      (g.options.flatMap (·.forms)).Nodup := by
  simp only [← isToken_iff, ← isForm_iff]
  constructor
  · intro h
    exact ⟨h.names_ne_nil, h.name_ne_nil, h.isToken, h.nodup_ids, h.forms_ne_nil, h.isForm,
      h.nodup_forms⟩
  · rintro ⟨hnames, hname, htoken, hids, hmissing, hform, hforms⟩
    exact ⟨hnames, hname, htoken, hmissing, hform, hids, hforms⟩

/-- A grammar has no problems just when it has a name, no name lacks tokens, no token is empty or
holds a blank, no two options have the same id, no option lacks forms, each form begins with the
marker and has a further character, and no form comes again, in the same option or in another one.

In any case there are as many problems of ids that come again as there are more options than
different ids, as many of forms that come again as there are more forms than different ones, and
altogether, apart from their order, the problems are what is at fault, each of it once. -/
theorem problems_exact (g : Grammar) :
    let ids := g.options.map (·.id)
    let forms := g.options.flatMap (·.forms)
    (g.problems = [] ↔ g.names ≠ [] ∧ (∀ name ∈ g.names, name ≠ []) ∧
      (∀ name ∈ g.names, ∀ token ∈ name, token ≠ "" ∧ ∀ a ∈ token.toList, Text.isBlank a = false) ∧
      ids.Nodup ∧ (∀ o ∈ g.options, o.forms ≠ []) ∧
      (∀ o ∈ g.options, ∀ form ∈ o.forms, form.toList.head? = some g.marker ∧ 2 ≤ form.length) ∧
      forms.Nodup) ∧
    g.problems.countP (·.isDuplicateOption) + ids.toFinset.card = g.options.length ∧
    g.problems.countP (·.isDuplicateForm) + forms.toFinset.card = forms.length ∧
    g.problems.Perm g.faults := by
  intro ids forms
  refine ⟨problems_eq_nil_iff.trans wellFormed_iff, ?_, ?_, problems_perm_faults g⟩
  · rw [countP_isDuplicateOption, length_diff_dedup, List.length_map]
  · rw [countP_isDuplicateForm, length_diff_dedup]

/-- A form that is none comes again within an option, and so does an id, of an option that has no
form. -/
example :
    let g : Grammar := {
      names := [["get"]]
      options := [{ id := "a", forms := ["v", "v"] }, { id := "a" }] }
    g.problems = [.invalidForm "v" '-', .invalidForm "v" '-', .duplicateForm "v",
      .duplicateOption "a", .missingForm "a"] := by
  decide

end Grammar

end LineShell
