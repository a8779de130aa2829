import LineShell.Proofs.Binding.Read

/-!
# The roles of the words of a line

The words after the name are read one after the other, and an option may take the next word with
it. What a word turns out to be can yet be told from the word itself and the one before it
(`roleAfter`), so that every word of a bound line has a role of its own, none is lost and none
counts twice (`elements_bind`).
-/

namespace LineShell.Grammar

/-- The option that a word stands for, if it takes the next word as its value. -/
def valueTaker? (g : Grammar) (word : String) : Option OptionGrammar :=
  if g.isOptionLike word then (g.optionWithForm? word).filter (·.acceptsValue) else none

/-- The role of a word after the name. The word before it is left out if it belongs to the name. -/
def roleAfter (g : Grammar) (before : Option String) (word : String) : Role :=
  if g.isOptionLike word then .option ((g.optionWithForm? word).map (·.id))
  else match before.bind g.valueTaker? with
    | some o => .value o.id
    | none => .argument

/-- The role of a word in a line whose first words, so many of them, are the name. -/
def roleAt (g : Grammar) (nameLength : Nat) (words : List String) (i : Nat) (word : String) :
    Role :=
  if i < nameLength then .name
  else g.roleAfter (if nameLength < i then words[i - 1]? else none) word

/-! ### The words after the name -/

/-- The words after the name, each with the role that the word before it gives it. -/
def elementsAfter (g : Grammar) : Option String → Nat → List String → List Element
  | _, _, [] => []
  | before, i, word :: words =>
    ⟨g.roleAfter before word, word, i⟩ :: g.elementsAfter (some word) (i + 1) words

variable {g : Grammar}

@[simp] lemma elementsAfter_nil (before : Option String) (i : Nat) :
    g.elementsAfter before i [] = [] := by simp [elementsAfter]

@[simp] lemma elementsAfter_cons (before : Option String) (i : Nat) (word : String)
    (words : List String) :
    g.elementsAfter before i (word :: words) =
      ⟨g.roleAfter before word, word, i⟩ :: g.elementsAfter (some word) (i + 1) words := by
  rw [elementsAfter]

lemma roleAfter_of_isOptionLike {word : String} (h : g.isOptionLike word)
    (before : Option String) :
    g.roleAfter before word = .option ((g.optionWithForm? word).map (·.id)) := by
  rw [roleAfter, if_pos h]

lemma roleAfter_none {word : String} (h : g.isOptionLike word = false) :
    g.roleAfter none word = .argument := by
  simp [roleAfter, h]

lemma roleAfter_of_valueTaker {before word : String} {o : OptionGrammar}
    (ho : g.valueTaker? before = some o) (h : g.isOptionLike word = false) :
    g.roleAfter (some before) word = .value o.id := by
  simp [roleAfter, h, ho]

lemma valueTaker?_of_not_isOptionLike {word : String} (h : g.isOptionLike word = false) :
    g.valueTaker? word = none := by
  simp [valueTaker?, h]

lemma valueTaker?_of_isOptionLike {word : String} (h : g.isOptionLike word) :
    g.valueTaker? word = (g.optionWithForm? word).filter (·.acceptsValue) := by
  rw [valueTaker?, if_pos h]

/-- A word that takes no value has no say in what comes after it. -/
lemma elementsAfter_of_valueTaker?_eq_none {before : String} (h : g.valueTaker? before = none)
    (i : Nat) (words : List String) :
    g.elementsAfter (some before) i words = g.elementsAfter none i words := by
  cases words with
  | nil => simp
  | cons word words => simp [roleAfter, h]

/-- No word has a say where an option comes next. -/
lemma elementsAfter_of_head?_isOptionLike {words : List String}
    (h : ∀ next ∈ words.head?, g.isOptionLike next) (before : Option String) (i : Nat) :
    g.elementsAfter before i words = g.elementsAfter none i words := by
  cases words with
  | nil => simp
  | cons word words =>
    simp only [elementsAfter_cons, roleAfter_of_isOptionLike (h word rfl)]

/-- The words of a line are read as each of them says, together with the one before it. -/
lemma elements_read (i : Nat) (words : List String) :
    (g.read i words).elements = g.elementsAfter none i words := by
  induction i, words using read_induction (g := g) with
  | nil i => simp
  | argument i word words h ih =>
    rw [read_argument h, Reading.elements_argument, ih, elementsAfter_cons, roleAfter_none h,
      elementsAfter_of_valueTaker?_eq_none (valueTaker?_of_not_isOptionLike h)]
  | unknown i word words h ho ih =>
    have htaker : g.valueTaker? word = none := by rw [valueTaker?_of_isOptionLike h, ho]; rfl
    rw [read_unknown h ho, Reading.elements_unknownOption, ih, elementsAfter_cons,
      roleAfter_of_isOptionLike h, ho, elementsAfter_of_valueTaker?_eq_none htaker]
    rfl
  | bare i word words o h ho hnext ih =>
    rw [read_bare h ho i hnext, Reading.elements_option, Reading.elements_withoutValue, ih,
      elementsAfter_cons, roleAfter_of_isOptionLike h, ho, Option.map_some]
    cases ha : o.acceptsValue with
    | true => rw [elementsAfter_of_head?_isOptionLike (hnext ha) (some word)]
    | false =>
      have htaker : g.valueTaker? word = none := by
        simp [valueTaker?_of_isOptionLike h, ho, ha]
      rw [elementsAfter_of_valueTaker?_eq_none htaker]
  | valued i word next rest o h ho ha hnext ih =>
    have htaker : g.valueTaker? word = some o := by
      simp [valueTaker?_of_isOptionLike h, ho, ha]
    rw [read_valued h ho ha hnext, Reading.elements_option, Reading.elements_value, ih,
      elementsAfter_cons, elementsAfter_cons, roleAfter_of_isOptionLike h, ho, Option.map_some,
      roleAfter_of_valueTaker htaker hnext,
      elementsAfter_of_valueTaker?_eq_none (valueTaker?_of_not_isOptionLike hnext)]

/-! ### All words -/

lemma getElem?_elementsAfter (before : Option String) (i k : Nat) (words : List String) :
    (g.elementsAfter before i words)[k]? = words[k]?.map fun word =>
      ⟨g.roleAfter (if k = 0 then before else words[k - 1]?) word, word, i + k⟩ := by
  induction words generalizing before i k with
  | nil => simp
  | cons word words ih =>
    cases k with
    | zero => simp
    | succ k =>
      have hbefore : (if k = 0 then some word else words[k - 1]?) = (word :: words)[k]? := by
        cases k <;> simp
      rw [elementsAfter_cons, List.getElem?_cons_succ, ih, hbefore]
      simp [Nat.add_assoc, Nat.add_comm 1 k]

lemma boundElements_eq_mapIdx {line : Line} {n : Nat} (hn : n ≤ line.words.length) :
    g.boundElements line n = line.words.mapIdx fun i word =>
      ⟨g.roleAt n line.words i word, word, i⟩ := by
  refine List.ext_getElem? fun i => ?_
  have hlen : (nameElements (line.words.take n)).length = n := by
    simp [nameElements, hn]
  rw [boundElements, List.getElem?_mapIdx]
  by_cases hi : i < n
  · rw [List.getElem?_append_left (by omega)]
    simp [nameElements, hi, roleAt]
  · obtain ⟨k, rfl⟩ := Nat.exists_eq_add_of_le (Nat.le_of_not_lt hi)
    have hbefore : (if k = 0 then none else (line.words.drop n)[k - 1]?) =
        if n < n + k then line.words[n + k - 1]? else none := by
      cases k <;> simp
    rw [List.getElem?_append_right (by omega), hlen, Nat.add_sub_cancel_left, elements_read,
      getElem?_elementsAfter, hbefore, List.getElem?_drop]
    simp only [roleAt, if_neg hi]

/-- Every word of a bound line is an element of it in its own place. The first ones, as many as the
matching name has tokens, are the name; the role of each of the others is told by itself and the
word before it. -/
theorem elements_bind {line : Line} {input : Input} {issues : List Issue}
    (h : g.bind line = .bound input issues) :
    ∃ name, g.matchingName? line = some name ∧ input.nameLength = name.length ∧
      input.elements.map (fun e => (e.index, e.text, e.value, e.role)) =
        line.words.mapIdx fun i word =>
          (i, word, unquote word, g.roleAt name.length line.words i word) := by
  obtain ⟨name, hname, hlen, helements, -⟩ := bind_eq_bound h
  refine ⟨name, hname, hlen, ?_⟩
  rw [helements, boundElements_eq_mapIdx (matchingName?_eq_some hname).2.2]
  refine List.ext_getElem? fun i => ?_
  simp only [List.getElem?_map, List.getElem?_mapIdx, Option.map_map]
  rfl

/-- Of the words `3` and `4` only the first one is a value, and an option in the place of a value is
an option. -/
theorem elements_bind_mixed :
    let g := ((named ["run"]).withOption { id := "level", forms := ["--level"], mayTakeValue := true
      }).withOption { id := "dry", forms := ["--dry"] }
    let line : Line :=
      { text := "", words := ["RUN", "--level", "3", "4", "--level", "--dry", "\"-y\"", "-z"]
        starts := [], selected := 9, caretInWord := 0, caret := 5, startsWord := false }
    ∃ input issues, g.bind line = .bound input issues ∧
      input.elements.map (fun e => (e.index, e.text, e.value, e.role)) =
        [(0, "RUN", "RUN", .name), (1, "--level", "--level", .option (some "level")),
          (2, "3", "3", .value "level"), (3, "4", "4", .argument),
          (4, "--level", "--level", .option (some "level")),
          (5, "--dry", "--dry", .option (some "dry")), (6, "\"-y\"", "-y", .argument),
          (7, "-z", "-z", .option none)] := by
  intro g line
  have hname : g.matchingName? line = some ["run"] := by decide
  have hbind := bind_of_matchingName? hname
  obtain ⟨name, hname', -, h⟩ := elements_bind hbind
  obtain rfl := Option.some.inj (hname.symm.trans hname')
  exact ⟨_, _, hbind, h.trans (by decide)⟩

end LineShell.Grammar
