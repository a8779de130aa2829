import LineShell.Grammar.Problem
import Mathlib.Data.List.Nodup
import Mathlib.Data.List.Pairwise

/-!
# Grammars without problems

A grammar has no problems just when it is well formed (`problems_eq_nil_iff`). In a well formed
grammar a form belongs to one option only, and so does an id.
-/

namespace LineShell.Grammar

/-- Names can be typed, forms begin as options do, and no id and no form occurs twice. -/
structure WellFormed (g : Grammar) : Prop where
  names_ne_nil : g.names ≠ []
  name_ne_nil : ∀ name ∈ g.names, name ≠ []
  isToken : ∀ name ∈ g.names, ∀ token ∈ name, isToken token
  forms_ne_nil : ∀ o ∈ g.options, o.forms ≠ []
  isForm : ∀ o ∈ g.options, ∀ form ∈ o.forms, isForm g.marker form
  nodup_ids : (g.options.map (·.id)).Nodup
  nodup_forms : (g.options.flatMap (·.forms)).Nodup

/-! ### No problems -/

lemma nameProblems_eq_nil_iff {name : List String} :
    nameProblems name = [] ↔ name ≠ [] ∧ ∀ token ∈ name, isToken token := by
  simp [nameProblems]

/-- The forms of an option have no problems where each is a form, and each is new. -/
lemma formProblems_eq_nil_iff {marker : Char} {used forms : List String} :
    formProblems marker used forms = [] ↔
      (∀ form ∈ forms, isForm marker form) ∧ forms.Nodup ∧ ∀ form ∈ forms, form ∉ used := by
  induction forms generalizing used with
  | nil => simp [formProblems]
  | cons form forms ih =>
    simp only [formProblems, List.append_eq_nil_iff, ih, ite_eq_left_iff, ite_eq_right_iff,
      List.cons_ne_nil, List.nodup_cons, List.mem_cons, not_or]
    grind

lemma optionProblems_cons_eq_nil_iff {marker : Char} {ids used : List String} {o : OptionGrammar}
    {options : List OptionGrammar} :
    optionProblems marker ids used (o :: options) = [] ↔
      o.id ∉ ids ∧ o.forms ≠ [] ∧ formProblems marker used o.forms = [] ∧
        optionProblems marker (o.id :: ids) (o.forms.reverse ++ used) options = [] := by
  simp [optionProblems]

/-- Options have no problems where none has one, and each of their ids and forms is new. -/
lemma optionProblems_eq_nil_iff {marker : Char} {ids used : List String}
    {options : List OptionGrammar} :
    optionProblems marker ids used options = [] ↔
      (∀ o ∈ options, o.forms ≠ [] ∧ ∀ form ∈ o.forms, isForm marker form) ∧
      ((options.map (·.id)).Nodup ∧ ∀ o ∈ options, o.id ∉ ids) ∧
      (options.flatMap (·.forms)).Nodup ∧ ∀ o ∈ options, ∀ form ∈ o.forms, form ∉ used := by
  induction options generalizing ids used with
  | nil => simp [optionProblems]
  | cons o options ih =>
    rw [optionProblems_cons_eq_nil_iff, ih, formProblems_eq_nil_iff]
    simp only [List.map_cons, List.nodup_cons, List.flatMap_cons, List.nodup_append,
      List.mem_append, List.mem_reverse, List.mem_map, List.mem_flatMap, List.mem_cons, not_or]
    grind

/-- A grammar without problems is a well formed one. -/
theorem problems_eq_nil_iff {g : Grammar} : g.problems = [] ↔ g.WellFormed := by
  simp only [problems, List.append_eq_nil_iff, List.flatMap_eq_nil_iff, nameProblems_eq_nil_iff,
    optionProblems_eq_nil_iff]
  constructor
  · rintro ⟨⟨hnames, hname⟩, hoptions, ⟨hids, -⟩, hforms, -⟩
    exact ⟨by simpa using hnames, fun name h => (hname name h).1, fun name h => (hname name h).2,
      fun o h => (hoptions o h).1, fun o h => (hoptions o h).2, hids, hforms⟩
  · intro h
    exact
      ⟨⟨by simpa using h.names_ne_nil, fun name hn => ⟨h.name_ne_nil name hn, h.isToken name hn⟩⟩,
        fun o ho => ⟨h.forms_ne_nil o ho, h.isForm o ho⟩, ⟨h.nodup_ids, by simp⟩, h.nodup_forms,
        by simp⟩

/-! ### Looking up options -/

namespace WellFormed

variable {g : Grammar} {o o' : OptionGrammar} {form : String}

lemma eq_of_form (h : g.WellFormed) (ho : o ∈ g.options) (ho' : o' ∈ g.options)
    (hf : form ∈ o.forms) (hf' : form ∈ o'.forms) : o = o' := by
  by_contra hne
  have hsymm : Std.Symm (Function.onFun List.Disjoint OptionGrammar.forms) :=
    ⟨fun _ _ hd => List.disjoint_symm hd⟩
  exact (List.nodup_flatMap.mp h.nodup_forms).2.forall ho ho' hne hf hf'

lemma eq_of_id (h : g.WellFormed) (ho : o ∈ g.options) (ho' : o' ∈ g.options)
    (hid : o.id = o'.id) : o = o' :=
  List.inj_on_of_nodup_map h.nodup_ids ho ho' hid

/-- A form leads back to its option. -/
lemma optionWithForm?_eq (h : g.WellFormed) (ho : o ∈ g.options) (hf : form ∈ o.forms) :
    g.optionWithForm? form = some o := by
  cases hfind : g.optionWithForm? form with
  | none =>
    have := List.find?_eq_none.mp hfind o ho
    simp [OptionGrammar.hasForm, hf] at this
  | some o' =>
    have ho' : o' ∈ g.options := List.mem_of_find?_eq_some hfind
    have hf' : o'.hasForm form := by
      rw [optionWithForm?, List.find?_eq_some_iff_append] at hfind
      exact hfind.1
    rw [h.eq_of_form ho' ho (by simpa [OptionGrammar.hasForm] using hf') hf]

/-- An id leads back to its option. -/
lemma option?_eq (h : g.WellFormed) (ho : o ∈ g.options) : g.option? o.id = some o := by
  cases hfind : g.option? o.id with
  | none => simpa using List.find?_eq_none.mp hfind o ho
  | some o' =>
    have hid : o'.id = o.id := by simpa using List.find?_some hfind
    rw [h.eq_of_id (List.mem_of_find?_eq_some hfind) ho hid]

/-- A form of an option is a form of just those options that have its id. -/
lemma hasForm_iff (h : g.WellFormed) (ho : o ∈ g.options) (ho' : o' ∈ g.options)
    (hf : form ∈ o.forms) : o'.hasForm form ↔ o.id = o'.id := by
  simp only [OptionGrammar.hasForm, List.contains_eq_mem, decide_eq_true_eq]
  constructor
  · intro hf'
    rw [h.eq_of_form ho ho' hf hf']
  · intro hid
    rwa [← h.eq_of_id ho ho' hid]

lemma isOptionLike (h : g.WellFormed) (ho : o ∈ g.options) (hf : form ∈ o.forms) :
    g.isOptionLike form := by
  have hform := h.isForm o ho form hf
  simp only [Grammar.isForm, Bool.and_eq_true] at hform
  exact hform.1

lemma form_ne_empty (h : g.WellFormed) (ho : o ∈ g.options) (hf : form ∈ o.forms) :
    form ≠ "" := by
  rintro rfl
  simpa [Grammar.isForm] using h.isForm o ho "" hf

end WellFormed

end LineShell.Grammar
