import LineShell.Line.Basic
import LineShell.Proofs.Line.Cut

/-!
# Lines made of words

A text that holds no open span and no blank outside of one is a word wherever blanks stand around
it (`StandsAlone`). What `quote` makes of a text is such a word, whatever the text, so a line put
together from quoted texts is cut into them again (`Line.parse_quoted_words`).
-/

namespace LineShell

open Text

/-- The characters make up one word, unless something other than a blank stands next to them. -/
structure StandsAlone (cs : List Char) : Prop where
  ne_nil : cs ≠ []
  unbroken : Quoting.bare.Unbroken cs
  closed : SpansClosed cs

/-! ### Quoted texts -/

lemma SpanBody.unbroken {body : List Char} (h : SpanBody body) :
    Quoting.quoted.Unbroken body := by
  induction h with
  | nil => simp
  | plain hq hb _ ih => simpa [Quoting.step, hq, hb] using ih
  | escape c _ ih => simpa [Quoting.step] using ih

lemma spanBody_escapeQuotes (cs : List Char) : SpanBody (escapeQuotes cs) := by
  induction cs with
  | nil => exact .nil
  | cons c cs ih =>
    rw [escapeQuotes]
    split
    · exact .escape c ih
    · rename_i hc
      rw [not_or] at hc
      exact .plain hc.1 hc.2 ih

/-- One whole span is a word. -/
lemma SpanBody.standsAlone {body : List Char} (h : SpanBody body) :
    StandsAlone ('"' :: body ++ ['"']) where
  ne_nil := by simp
  unbroken := by simp [Quoting.step, h.unbroken, Quoting.run_of_spanBody h]
  closed := .span h .nil

/-- A text without blanks and quotes is a word. -/
lemma standsAlone_of_plain {cs : List Char} (hne : cs ≠ [])
    (hcs : ∀ c ∈ cs, isBlank c = false ∧ c ≠ '"') : StandsAlone cs := by
  have hclosed : SpansClosed cs := by
    clear hne
    induction cs with
    | nil => exact .nil
    | cons c cs ih =>
      obtain ⟨hc, hcs⟩ := List.forall_mem_cons.mp hcs
      exact .plain hc.2 (ih hcs)
  refine ⟨hne, Quoting.unbroken_iff.mpr fun i c hi hb => ?_, hclosed⟩
  simp [(hcs c (List.mem_of_getElem? hi)).1] at hb

lemma needsQuotes_eq_false_iff {text : String} :
    needsQuotes text = false ↔
      text.toList ≠ [] ∧ ∀ c ∈ text.toList, isBlank c = false ∧ c ≠ '"' := by
  simp [needsQuotes]

/-- What `quote` makes of a text is one word. -/
lemma standsAlone_quote (text : String) : StandsAlone (quote text).toList := by
  cases h : needsQuotes text with
  | true =>
    rw [quote, if_pos h, String.toList_ofList]
    exact (spanBody_escapeQuotes text.toList).standsAlone
  | false =>
    obtain ⟨hne, hplain⟩ := needsQuotes_eq_false_iff.mp h
    rw [quote, h, if_neg Bool.false_ne_true]
    exact standsAlone_of_plain hne hplain

/-! ### Words with blanks around them -/

/-- Blanks, and then words each with blanks after it, are cut into these words. -/
lemma exists_cut_gapped (p : Nat) {gap : List Char} {parts : List (List Char × List Char)}
    (hgap : ∀ c ∈ gap, isBlank c) (hwords : ∀ x ∈ parts, StandsAlone x.1)
    (hgaps : ∀ x ∈ parts, ∀ c ∈ x.2, isBlank c) (hapart : ∀ x ∈ parts.dropLast, x.2 ≠ []) :
    ∃ ws, Cut p (gap ++ parts.flatMap fun x => x.1 ++ x.2) ws ∧
      ws.map Word.chars = parts.map Prod.fst := by
  induction parts generalizing p gap with
  | nil => exact ⟨[], by simpa using .blank hgap, rfl⟩
  | cons x parts ih =>
    obtain ⟨w, after⟩ := x
    obtain ⟨hw, hwords'⟩ := List.forall_mem_cons.mp hwords
    obtain ⟨hafter, hgaps'⟩ := List.forall_mem_cons.mp hgaps
    cases after with
    | nil =>
      -- only the last word may stand without a blank after it
      obtain rfl : parts = [] := by
        by_contra hne
        exact hapart (w, []) (by rw [List.dropLast_cons_of_ne_nil hne]; simp) rfl
      exact ⟨_, by simpa using .last hgap hw.ne_nil hw.unbroken, rfl⟩
    | cons b after =>
      obtain ⟨hb, hafter⟩ := List.forall_mem_cons.mp hafter
      have hapart' : ∀ x ∈ parts.dropLast, x.2 ≠ [] := by
        intro x hx
        cases parts with
        | nil => simp at hx
        | cons y parts => exact hapart x (List.mem_cons_of_mem _ hx)
      obtain ⟨ws, hcut, hws⟩ := ih (p + gap.length + w.length + 1) hafter hwords' hgaps' hapart'
      exact ⟨_, by simpa using .word hgap hw.ne_nil hw.unbroken hw.closed hb hcut, by simp [hws]⟩

namespace Line

lemma words_parse_of_cut {text : String} {ws : List Word} (h : Cut 0 text.toList ws)
    (caret : Nat) : (parse text caret).words = ws.map fun w => String.ofList w.chars := by
  simp only [parse, cut_iff_split_eq.mp h]

/-- A line of words with blanks around them is cut into these words. -/
lemma words_parse_gapped {before : String} {parts : List (String × String)} (caret : Nat)
    (hbefore : allBlank before) (hwords : ∀ x ∈ parts, StandsAlone x.1.toList)
    (hgaps : ∀ x ∈ parts, allBlank x.2) (hapart : ∀ x ∈ parts.dropLast, x.2 ≠ "") :
    (parse (before ++ String.join (parts.map fun x => x.1 ++ x.2)) caret).words =
      parts.map Prod.fst := by
  have hbefore : ∀ c ∈ before.toList, isBlank c := by simpa [allBlank] using hbefore
  have hgaps : ∀ x ∈ parts, ∀ c ∈ x.2.toList, isBlank c := by simpa [allBlank] using hgaps
  have hapart : ∀ x ∈ parts.dropLast, x.2.toList ≠ [] := by simpa using hapart
  have hapart : ∀ x ∈ (parts.map fun x => (x.1.toList, x.2.toList)).dropLast, x.2 ≠ [] := by
    rw [← List.map_dropLast]
    exact List.forall_mem_map.mpr hapart
  obtain ⟨ws, hcut, hws⟩ := exists_cut_gapped 0 hbefore (List.forall_mem_map.mpr hwords)
    (List.forall_mem_map.mpr hgaps) hapart
  have hcut : Cut 0 (before ++ String.join (parts.map fun x => x.1 ++ x.2)).toList ws := by
    simpa [List.flatMap_map] using hcut
  have hws : ws.map (fun w => String.ofList w.chars) = parts.map Prod.fst := by
    have := congrArg (List.map String.ofList) hws
    simpa [Function.comp_def] using this
  rw [words_parse_of_cut hcut, hws]

lemma intercalate_concat (words : List String) (last : String) :
    " ".intercalate (words ++ [last]) = String.join (words.map (· ++ " ")) ++ last := by
  induction words with
  | nil => simp
  | cons word words ih =>
    rw [List.cons_append, String.intercalate_cons_of_ne_nil (by simp), ih, List.map_cons,
      String.join_cons]
    simp only [String.append_assoc]

/-- A line of words with single spaces between them is cut into these words. -/
lemma words_parse_intercalate {words : List String} (caret : Nat)
    (hwords : ∀ w ∈ words, StandsAlone w.toList) :
    (parse (" ".intercalate words) caret).words = words := by
  rcases List.eq_nil_or_concat words with rfl | ⟨words, last, rfl⟩
  · rfl
  · rw [List.concat_eq_append] at hwords ⊢
    obtain ⟨hwords, hlast⟩ := List.forall_mem_append.mp hwords
    have hparts : ∀ x ∈ words.map (·, " ") ++ [(last, "")], StandsAlone x.1.toList :=
      List.forall_mem_append.mpr ⟨List.forall_mem_map.mpr hwords, by simpa using hlast⟩
    have hspace : allBlank " " := by decide
    have hnone : allBlank "" := by decide
    have hgaps : ∀ x ∈ words.map (·, " ") ++ [(last, "")], allBlank x.2 :=
      List.forall_mem_append.mpr
        ⟨List.forall_mem_map.mpr fun _ _ => hspace, by simpa using hnone⟩
    have hapart : ∀ x ∈ (words.map (·, " ") ++ [(last, "")]).dropLast, x.2 ≠ "" := by
      rw [List.dropLast_concat]
      exact List.forall_mem_map.mpr fun _ _ => by simp
    have h := words_parse_gapped caret hnone hparts hgaps hapart
    rw [intercalate_concat]
    simpa [Function.comp_def] using h

/-- A line of quoted texts with blanks around them is cut into them, and each of them is the value
of its word. -/
theorem parse_quoted_words (before : String) (parts : List (String × String)) (caret : Nat)
    (hbefore : allBlank before) (hgaps : ∀ x ∈ parts, allBlank x.2)
    (hapart : ∀ x ∈ parts.dropLast, x.2 ≠ "") :
    let line := parse (before ++ String.join (parts.map fun x => quote x.1 ++ x.2)) caret
    line.words = parts.map (fun x => quote x.1) ∧ line.words.map unquote = parts.map Prod.fst := by
  have hquoted : ∀ x ∈ parts.map (fun x => (quote x.1, x.2)), StandsAlone x.1.toList :=
    List.forall_mem_map.mpr fun x _ => standsAlone_quote x.1
  have hwords := words_parse_gapped caret hbefore hquoted (List.forall_mem_map.mpr hgaps)
    (by rw [← List.map_dropLast]; exact List.forall_mem_map.mpr hapart)
  simp only [List.map_map, Function.comp_def] at hwords
  refine ⟨hwords, ?_⟩
  rw [hwords]
  simp [unquote_quote]

/-- Empty texts, texts with quotes and texts that end in a backslash come back as they were. -/
theorem parse_quoted_words_mixed :
    let parts := [("", "\t "), ("say \"hi\" ", " "), ("C:\\", "\u00a0\n"), ("a b\\", "")]
    let line := parse (" " ++ String.join (parts.map fun x => quote x.1 ++ x.2)) 0
    line.words = ["\"\"", "\"say \\\"hi\\\" \"", "C:\\", "\"a b\\\\\""] ∧
      line.words.map unquote = ["", "say \"hi\" ", "C:\\", "a b\\"] := by
  have h := parse_quoted_words " "
    [("", "\t "), ("say \"hi\" ", " "), ("C:\\", "\u00a0\n"), ("a b\\", "")] 0
    (by decide) (by decide) (by decide)
  exact ⟨h.1.trans (by decide), h.2⟩

end Line

end LineShell
