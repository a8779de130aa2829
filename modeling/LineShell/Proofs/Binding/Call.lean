import LineShell.Proofs.Binding.Read
import LineShell.Proofs.Grammar.WellFormed
import LineShell.Proofs.Line.Quoted
import Mathlib.Data.List.Chain

/-!
# Calls of a command

A call of a command is its name with items after it: arguments, options, and options with a value
(`CallItem`). `Grammar.call` writes a call as a line. Binding the line to the grammar finds the
items again (`bind_call`), as long as no item can be taken for something else: an argument that
begins as an option does would be read as one, and so would an argument be the value of an option
that accepts one and stands right before it.
-/

namespace LineShell

/-! ### Items -/

/-- What stands in a call after the name. -/
inductive CallItem
  /-- An argument of some value. -/
  | argument (value : String)
  /-- An option without a value, in one of its forms. -/
  | option (form : String)
  /-- An option in one of its forms, with a value. -/
  | valued (form value : String)
  deriving DecidableEq, Repr

namespace CallItem

/-- The words of an item. -/
def words : CallItem → List String
  | .argument value => [quote value]
  | .option form => [form]
  | .valued form value => [form, quote value]

/-- The value of an argument. -/
def argument? : CallItem → Option String
  | .argument value => some value
  | _ => none

/-- Whether the item is an option, with a value or without. -/
def isOf (o : OptionGrammar) : CallItem → Bool
  | .argument _ => false
  | .option form | .valued form _ => o.hasForm form

/-- The value that the item gives to an option. -/
def valueOf? (o : OptionGrammar) : CallItem → Option String
  | .valued form value => if o.hasForm form then some value else none
  | _ => none

/-- Whether the item is an option and leaves it without a value. -/
def isBareOf (o : OptionGrammar) : CallItem → Bool
  | .option form => o.hasForm form
  | _ => false

end CallItem

namespace Grammar

/-- Whether an item can stand in a call: its forms are those of options, a value is given to an
option that accepts one, and what is no option does not begin as options do. -/
def Admits (g : Grammar) : CallItem → Prop
  | .argument value => g.isOptionLike (quote value) = false
  | .option form => ∃ o ∈ g.options, form ∈ o.forms
  | .valued form value =>
    (∃ o ∈ g.options, form ∈ o.forms ∧ o.acceptsValue) ∧ g.isOptionLike (quote value) = false

instance (g : Grammar) : DecidablePred g.Admits
  | .argument value => inferInstanceAs (Decidable (g.isOptionLike (quote value) = false))
  | .option form => inferInstanceAs (Decidable (∃ o ∈ g.options, form ∈ o.forms))
  | .valued form value =>
    inferInstanceAs (Decidable ((∃ o ∈ g.options, form ∈ o.forms ∧ o.acceptsValue) ∧
      g.isOptionLike (quote value) = false))

/-- Whether an item leaves the one after it alone: an option that accepts a value would take an
argument for it. -/
def LeavesAlone (g : Grammar) : CallItem → CallItem → Prop
  | .option form, .argument _ => ∀ o ∈ g.options, form ∈ o.forms → o.acceptsValue = false
  | _, _ => True

instance (g : Grammar) : DecidableRel g.LeavesAlone
  | .option form, .argument _ =>
    inferInstanceAs (Decidable (∀ o ∈ g.options, form ∈ o.forms → o.acceptsValue = false))
  | .option _, .option _ | .option _, .valued _ _ | .argument _, _ | .valued _ _, _ =>
    inferInstanceAs (Decidable True)

/-- The line of a call: the first name and the items, with single spaces between them. -/
def call (g : Grammar) (items : List CallItem) : String :=
  " ".intercalate ((g.names.headD []).map quote ++ items.flatMap CallItem.words)

/-! ### Reading the items -/

/-- A reading that finds all the items, and nothing else. -/
structure Reading.Finds (r : Reading) (g : Grammar) (items : List CallItem) : Prop where
  arguments : (r.elements.filter (·.isArgument)).map (·.value) = items.filterMap (·.argument?)
  occurrences : ∀ o ∈ g.options, r.occurrences.count o.id = items.countP (·.isOf o)
  values : ∀ o ∈ g.options,
    (r.elements.filter (·.role == .value o.id)).map (·.value) = items.filterMap (·.valueOf? o)
  issues : r.issues = [] ↔
    ∀ o ∈ g.options, o.mustTakeValue → ∀ item ∈ items, item.isBareOf o = false

variable {g : Grammar} {r : Reading} {items : List CallItem} {o : OptionGrammar}
  {form value : String}

lemma Reading.finds_nil : ({} : Reading).Finds g [] := by
  constructor <;> simp

lemma Reading.Finds.argument (h : r.Finds g items) (i : Nat) :
    (r.argument i (quote value)).Finds g (.argument value :: items) where
  arguments := by
    simpa [Element.isArgument, Element.value, unquote_quote, CallItem.argument?] using h.arguments
  occurrences o ho := by simpa [CallItem.isOf] using h.occurrences o ho
  values o ho := by simpa [CallItem.valueOf?] using h.values o ho
  issues := by simpa [CallItem.isBareOf] using h.issues

lemma Reading.Finds.bare (h : r.Finds g items) (hg : g.WellFormed) (ho : o ∈ g.options)
    (hf : form ∈ o.forms) (i : Nat) :
    ((r.withoutValue o form).option o i form).Finds g (.option form :: items) where
  arguments := by
    simpa [Element.isArgument, CallItem.argument?] using h.arguments
  occurrences o' ho' := by
    simp [List.count_cons, List.countP_cons, h.occurrences o' ho', CallItem.isOf,
      hg.hasForm_iff ho ho' hf]
  values o' ho' := by simpa [CallItem.valueOf?] using h.values o' ho'
  issues := by
    rw [issues_option, issues_withoutValue]
    split
    · rename_i hmust
      refine iff_of_false (by simp) fun hbare => ?_
      have := hbare o ho hmust _ List.mem_cons_self
      rw [CallItem.isBareOf, (hg.hasForm_iff ho ho hf).mpr rfl] at this
      cases this
    · rename_i hmust
      rw [h.issues]
      refine forall₂_congr fun o' ho' => forall_congr' fun hmust' => ?_
      have hother : o'.hasForm form = false := by
        rw [Bool.eq_false_iff, ne_eq, hg.hasForm_iff ho ho' hf]
        intro hid
        exact hmust (hg.eq_of_id ho ho' hid ▸ hmust')
      simp [CallItem.isBareOf, hother]

lemma Reading.Finds.valued (h : r.Finds g items) (hg : g.WellFormed) (ho : o ∈ g.options)
    (hf : form ∈ o.forms) (i : Nat) :
    ((r.value o (i + 1) (quote value)).option o i form).Finds g (.valued form value :: items) where
  arguments := by
    simpa [Element.isArgument, CallItem.argument?] using h.arguments
  occurrences o' ho' := by
    simp [List.count_cons, List.countP_cons, h.occurrences o' ho', CallItem.isOf,
      hg.hasForm_iff ho ho' hf]
  values o' ho' := by
    by_cases hid : o.id = o'.id
    · have hform : o'.hasForm form := (hg.hasForm_iff ho ho' hf).mpr hid
      simpa [CallItem.valueOf?, hform, hid, Element.value, unquote_quote] using h.values o' ho'
    · have hform : o'.hasForm form = false := by
        rw [Bool.eq_false_iff, ne_eq, hg.hasForm_iff ho ho' hf]
        exact hid
      simpa [CallItem.valueOf?, hform, hid] using h.values o' ho'
  issues := by simpa [CallItem.isBareOf] using h.issues

/-- What comes after a bare option is no value for it. -/
lemma noValueNext_of_leavesAlone (hg : g.WellFormed) (ho : o ∈ g.options) (hf : form ∈ o.forms)
    (hitems : ∀ item ∈ items, g.Admits item)
    (hnext : ∀ item ∈ items.head?, g.LeavesAlone (.option form) item) :
    g.noValueNext o (items.flatMap CallItem.words) := by
  intro ha
  cases items with
  | nil => simp
  | cons item items =>
    have hitem := hitems item List.mem_cons_self
    cases item with
    | argument value =>
      have := hnext _ rfl o ho hf
      rw [ha] at this
      cases this
    | option form' =>
      obtain ⟨o', ho', hf'⟩ := hitem
      simpa [CallItem.words] using hg.isOptionLike ho' hf'
    | valued form' value =>
      obtain ⟨⟨o', ho', hf', -⟩, -⟩ := hitem
      simpa [CallItem.words] using hg.isOptionLike ho' hf'

/-- Reading the words of the items finds the items. -/
lemma finds_read (hg : g.WellFormed) (hitems : ∀ item ∈ items, g.Admits item)
    (halone : items.IsChain g.LeavesAlone) (i : Nat) :
    (g.read i (items.flatMap CallItem.words)).Finds g items := by
  induction items generalizing i with
  | nil =>
    rw [List.flatMap_nil, read_nil]
    exact Reading.finds_nil
  | cons item items ih =>
    obtain ⟨hitem, hitems'⟩ := List.forall_mem_cons.mp hitems
    obtain ⟨hnext, halone'⟩ := List.isChain_cons.mp halone
    have ih := ih hitems' halone'
    rw [List.flatMap_cons]
    cases item with
    | argument value =>
      rw [CallItem.words, List.singleton_append, read_argument hitem]
      exact (ih (i + 1)).argument i
    | option form =>
      obtain ⟨o, ho, hf⟩ := hitem
      have hempty := noValueNext_of_leavesAlone hg ho hf hitems' hnext
      rw [CallItem.words, List.singleton_append,
        read_bare (hg.isOptionLike ho hf) (hg.optionWithForm?_eq ho hf) i hempty]
      exact (ih (i + 1)).bare hg ho hf i
    | valued form value =>
      obtain ⟨⟨o, ho, hf, ha⟩, hvalue⟩ := hitem
      rw [CallItem.words, List.cons_append, List.singleton_append,
        read_valued (hg.isOptionLike ho hf) (hg.optionWithForm?_eq ho hf) ha hvalue]
      exact (ih (i + 2)).valued hg ho hf i

/-! ### The line of a call -/

lemma standsAlone_of_mem_words (hg : g.WellFormed)
    (hforms : ∀ o ∈ g.options, ∀ form ∈ o.forms, ∀ c ∈ form.toList,
      Text.isBlank c = false ∧ c ≠ '"') {item : CallItem} (hitem : g.Admits item) :
    ∀ word ∈ item.words, StandsAlone word.toList := by
  have hform : ∀ o ∈ g.options, ∀ form ∈ o.forms, StandsAlone form.toList := by
    intro o ho form hf
    refine standsAlone_of_plain ?_ (hforms o ho form hf)
    simpa using hg.form_ne_empty ho hf
  cases item with
  | argument value => simpa [CallItem.words] using standsAlone_quote value
  | option form =>
    obtain ⟨o, ho, hf⟩ := hitem
    simpa [CallItem.words] using hform o ho form hf
  | valued form value =>
    obtain ⟨⟨o, ho, hf, -⟩, -⟩ := hitem
    simpa [CallItem.words] using ⟨hform o ho form hf, standsAlone_quote value⟩

lemma words_call (hg : g.WellFormed)
    (hforms : ∀ o ∈ g.options, ∀ form ∈ o.forms, ∀ c ∈ form.toList,
      Text.isBlank c = false ∧ c ≠ '"')
    (hitems : ∀ item ∈ items, g.Admits item) (caret : Nat) :
    (Line.parse (g.call items) caret).words =
      (g.names.headD []).map quote ++ items.flatMap CallItem.words := by
  refine Line.words_parse_intercalate caret (List.forall_mem_append.mpr ⟨?_, ?_⟩)
  · exact List.forall_mem_map.mpr fun token _ => standsAlone_quote token
  · intro word hword
    obtain ⟨item, hitem, hword⟩ := List.mem_flatMap.mp hword
    exact standsAlone_of_mem_words hg hforms (hitems item hitem) word hword

/-- A name stands at the beginning of words of which the first ones are its quoted tokens. -/
lemma nameMatches_quote {name : List String} (hne : name ≠ []) (words : List String) :
    nameMatches (name.map quote ++ words) name := by
  have hzip : ∀ x ∈ name.zip (name.map quote ++ words), unquote x.2 = x.1 := by
    clear hne
    induction name with
    | nil => simp
    | cons token name ih =>
      rw [List.map_cons, List.cons_append, List.zip_cons_cons]
      exact List.forall_mem_cons.mpr ⟨unquote_quote token, ih⟩
  refine nameMatches_iff.mpr ⟨hne, by simp, fun x hx => ?_⟩
  rw [hzip x hx, Text.eqIgnoringCase_iff]

lemma matchingName?_of_words {line : Line} {words : List String} (hg : g.WellFormed)
    (hwords : line.words = (g.names.headD []).map quote ++ words) :
    g.matchingName? line = some (g.names.headD []) := by
  obtain ⟨name, rest, hnames⟩ := List.exists_cons_of_ne_nil hg.names_ne_nil
  have hne : name ≠ [] := hg.name_ne_nil name (by simp [hnames])
  rw [hnames, List.headD_cons] at hwords ⊢
  rw [matchingName?, hnames, hwords, List.find?_cons_of_pos (nameMatches_quote hne words)]

lemma filter_nameElements {p : Element → Bool} (hp : ∀ e : Element, e.role = .name → p e = false)
    (words : List String) : (nameElements words).filter p = [] := by
  refine List.filter_eq_nil_iff.mpr fun e he => ?_
  obtain ⟨i, hi, rfl⟩ := List.mem_mapIdx.mp he
  simp [hp]

lemma map_nameElements_quote (name : List String) :
    (nameElements (name.map quote)).map (fun e => (e.role, e.value)) =
      name.map (Role.name, ·) := by
  refine List.ext_getElem? fun i => ?_
  simp [nameElements, Element.value, unquote_quote, Function.comp_def]

/-- Binding the line of a call finds its name, its arguments, and for each option how often it
occurs and with which values. Nothing is wrong with the call if the counts are in bounds and no
option that must take a value is left without one. -/
theorem bind_call (g : Grammar) (items : List CallItem) (caret : Nat) (hg : g.problems = [])
    (hforms : ∀ o ∈ g.options, ∀ form ∈ o.forms, ∀ c ∈ form.toList,
      Text.isBlank c = false ∧ c ≠ '"')
    (hitems : ∀ item ∈ items, g.Admits item) (halone : items.IsChain g.LeavesAlone) :
    ∃ input issues, g.bind (Line.parse (g.call items) caret) = .bound input issues ∧
      input.name.map (fun e => (e.role, e.value)) = (g.names.headD []).map (Role.name, ·) ∧
      input.argumentValues = items.filterMap (·.argument?) ∧
      (∀ o ∈ g.options, input.optionCount o.id = items.countP (·.isOf o) ∧
        input.optionValues o.id = items.filterMap (·.valueOf? o)) ∧
      ((Binding.bound input issues).strict = .ok input ↔
        (g.minimum ≤ (items.filterMap (·.argument?)).length ∧
          (items.filterMap (·.argument?)).length ≤ g.maximum) ∧
        ∀ o ∈ g.options,
          (o.minimum ≤ items.countP (·.isOf o) ∧ items.countP (·.isOf o) ≤ o.maximum) ∧
          (o.mustTakeValue → ∀ item ∈ items, item.isBareOf o = false)) := by
  have hg := problems_eq_nil_iff.mp hg
  have hwords := words_call hg hforms hitems caret
  have hname := matchingName?_of_words hg hwords
  generalize hline : Line.parse (g.call items) caret = line at hwords hname
  generalize g.names.headD [] = name at hwords hname
  have hread := finds_read hg hitems halone name.length
  have htake : line.words.take name.length = name.map quote := by simp [hwords]
  have hdrop : line.words.drop name.length = items.flatMap CallItem.words := by simp [hwords]
  have helements : g.boundElements line name.length = nameElements (name.map quote) ++
      (g.read name.length (items.flatMap CallItem.words)).elements := by
    rw [boundElements, htake, hdrop]
  have hargs : ((g.boundElements line name.length).filter (·.isArgument)).map (·.value) =
      items.filterMap (·.argument?) := by
    rw [helements, List.filter_append,
      filter_nameElements (by simp +contextual [Element.isArgument]), List.nil_append,
      hread.arguments]
  have hcount : (g.boundElements line name.length).countP (·.isArgument) =
      (items.filterMap (·.argument?)).length := by
    rw [← hargs, List.length_map, List.countP_eq_length_filter]
  refine ⟨_, _, bind_of_matchingName? hname, ?_, hargs, fun o ho => ⟨?_, ?_⟩, ?_⟩
  · have hlen : (nameElements (name.map quote)).length = name.length := by simp [nameElements]
    rw [Input.name, helements, ← hlen, List.take_left, map_nameElements_quote]
  · rw [Input.optionCount, helements, List.countP_append, countP_option_read,
      hread.occurrences o ho, List.countP_eq_length_filter,
      filter_nameElements (by simp +contextual), List.length_nil, Nat.zero_add]
  · rw [Input.optionValues, helements, List.filter_append,
      filter_nameElements (by simp +contextual), List.nil_append, hread.values o ho]
  · rw [strict_bound_eq_ok_iff, boundIssues_eq_nil_iff, hdrop, hread.issues, hcount]
    constructor
    · rintro ⟨hbare, hoccurrences, hbounds⟩
      refine ⟨hbounds, fun o ho => ⟨?_, hbare o ho⟩⟩
      rw [← hread.occurrences o ho]
      exact hoccurrences o ho
    · rintro ⟨hbounds, hoptions⟩
      refine ⟨fun o ho => (hoptions o ho).2, fun o ho => ?_, hbounds⟩
      rw [hread.occurrences o ho]
      exact (hoptions o ho).1

/-- An argument that needs quotes may begin with the marker, a value may be empty, and an option
before another option is left without a value. -/
theorem bind_call_mixed :
    let header : OptionGrammar :=
      { id := "h", forms := ["-h", "--header"], mustTakeValue := true, minimum := 1
        declaredMaximum := 9 }
    let level : OptionGrammar := { id := "level", forms := ["-l"], mayTakeValue := true }
    let g : Grammar :=
      { names := [["set", "header"], ["sh"]], options := [header, level], declaredMaximum := 2 }
    let items : List CallItem :=
      [.argument "-n x", .valued "-h" "", .option "-l", .valued "--header" "a \"b\"",
        .argument "c\\"]
    g.call items = "set header \"-n x\" -h \"\" -l --header \"a \\\"b\\\"\" c\\" ∧
      ∃ input, g.bind (Line.parse (g.call items) 0) = .bound input [] ∧
        input.argumentValues = ["-n x", "c\\"] ∧ input.optionValues "h" = ["", "a \"b\""] ∧
        input.optionCount "level" = 1 := by
  intro header level g items
  have hplain : ∀ o ∈ g.options, ∀ form ∈ o.forms, needsQuotes form = false := by decide
  obtain ⟨input, issues, hbind, -, hargs, hoptions, hok⟩ :=
    bind_call g items 0 (by decide)
      (fun o ho form hf => (needsQuotes_eq_false_iff.mp (hplain o ho form hf)).2)
      (by decide) (by decide)
  obtain rfl := strict_bound_eq_ok_iff.mp (hok.mpr (by decide))
  have hheader := hoptions header (by decide)
  have hlevel := hoptions level (by decide)
  exact ⟨by decide, input, hbind, hargs.trans (by decide), hheader.2.trans (by decide),
    hlevel.1.trans (by decide)⟩

end Grammar

end LineShell
