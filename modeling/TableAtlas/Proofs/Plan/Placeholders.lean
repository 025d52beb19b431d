import TableAtlas.Proofs.Plan.Text

/-!
# Placeholders and parameters

A planned query has as many placeholders as parameters, and they belong together: each filter that
compares its field with a value has one placeholder in its own condition, and the parameter at the
same position is the value of that filter.

Only question marks outside of quotes are placeholders, so names that hold question marks shift
nothing.
-/

namespace TableAtlas

/-- The operator of the filter takes no value. -/
def Filter.isNullTest (f : Filter) : Bool :=
  normalWord f.operator = "is null" || normalWord f.operator = "is not null"

/-- The filter compares its field with a value. -/
def Filter.isValued (f : Filter) : Bool :=
  !f.isNullTest

def Query.valuedFilters (q : Query) : List Filter :=
  q.allFilters.filter Filter.isValued

/-- The condition of a filter as its statement holds it. -/
def Filter.text (f : Filter) : Sql.Fragment :=
  Sql.memberText f.field ++ Sql.Fragment.plain (" " ++ normalWord f.operator)
    ++ if f.isValued then Sql.Fragment.plain " ?" else []

theorem Operator.takesValue_of_ofText? {f : Filter} {operator : Operator}
    (h : Operator.ofText? f.operator = some operator) : operator.takesValue = f.isValued := by
  rw [Filter.isValued, Filter.isNullTest, ← ofText?_eq_some_iff.1 h]
  cases operator <;> decide

namespace Sql

/-- The placeholder. -/
abbrev question : Lexeme := .char '?'

theorem count_question_plain {s : String} (h : '?' ∉ s.toList) :
    (Fragment.plain s).count question = 0 := by
  rw [List.count_eq_zero, Fragment.plain]
  simpa using h

theorem count_question_spell (ts : List Token) :
    (spell ts).count question = ts.count (.word .placeholder) := by
  induction ts with
  | nil => rfl
  | cons t ts ih =>
    rw [spell_cons, List.count_append, ih, List.count_cons, Nat.add_comm]
    congr 1
    cases t with
    | name s => rfl
    | word w =>
      by_cases hw : w = .placeholder
      · subst hw
        rfl
      · rw [Token.lexemes, count_question_plain (Word.question_notMem_text hw)]
        simp [hw]

theorem placeholder_notMem_separated {w : Word} (hw : w ≠ .placeholder) {pieces : List (List Token)}
    (h : ∀ piece ∈ pieces, .word .placeholder ∉ piece) :
    .word .placeholder ∉ separated w pieces := by
  intro hmem
  rcases mem_separated hmem with heq | ⟨piece, hpiece, hmem⟩
  · exact hw (by simpa using heq.symm)
  · exact h piece hpiece hmem

theorem count_placeholder_separated {w : Word} (hw : w ≠ .placeholder) (pieces : List (List Token)) :
    (separated w pieces).count (.word .placeholder) =
      pieces.flatten.count (.word .placeholder) := by
  induction pieces with
  | nil => rfl
  | cons piece pieces ih =>
    cases pieces with
    | nil => simp
    | cons next pieces =>
      rw [separated_cons_cons, List.flatten_cons, List.count_append, List.count_append,
        List.count_cons_of_ne (by simpa using hw), ih]

theorem placeholder_notMem_memberTokens (name : String) :
    .word .placeholder ∉ memberTokens name := by
  refine placeholder_notMem_separated (by decide) fun piece hpiece => ?_
  obtain ⟨part, -, rfl⟩ := List.mem_map.1 hpiece
  simp

end Sql

namespace Plan

open Sql

/-! ## Outside of the conditions -/

theorem placeholder_notMem_entryTokens {s : Schema} {t : Table} {q : Query} :
    ∀ piece ∈ entryTokens s t q, .word .placeholder ∉ piece := by
  intro piece hpiece
  simp only [entryTokens, lookupPieces, List.mem_append, List.mem_map, Option.mem_toList,
    Option.map_eq_some_iff, List.mem_mapIdx] at hpiece
  rcases hpiece with (⟨name, -, rfl⟩ | ⟨a, -, rfl⟩) | ⟨i, -, rfl⟩
  · exact placeholder_notMem_memberTokens name
  · unfold aggregateTokens
    cases AggregateFunction.ofText? a.function with
    | none => simp
    | some function => cases a.target <;> simp [targetTokens, placeholder_notMem_memberTokens]
  · simp [lookupTokens, placeholder_notMem_memberTokens]

theorem placeholder_notMem_headTokens (s : Schema) (t : Table) (q : Query) :
    .word .placeholder ∉ headTokens s t q := by
  have hselect : .word .placeholder ∉ selectTokens (entryTokens s t q) := by
    unfold selectTokens
    split
    · simp
    · simpa using placeholder_notMem_separated (by decide) placeholder_notMem_entryTokens
  simpa [headTokens, placeholder_notMem_memberTokens] using hselect

theorem placeholder_notMem_clauseTokens {keyword separator : Word} {pieces : List (List Token)}
    (hkeyword : keyword ≠ .placeholder) (hseparator : separator ≠ .placeholder)
    (h : ∀ piece ∈ pieces, .word .placeholder ∉ piece) :
    .word .placeholder ∉ clauseTokens keyword separator pieces := by
  unfold clauseTokens
  split
  · simp
  · simpa [hkeyword.symm] using placeholder_notMem_separated hseparator h

theorem placeholder_notMem_tailTokens (q : Query) : .word .placeholder ∉ tailTokens q := by
  have hgroup : .word .placeholder ∉ clauseTokens .grouping .comma
      (((q.aggregate.map Aggregate.groupBy).getD []).map memberTokens) :=
    placeholder_notMem_clauseTokens (by decide) (by decide)
      (by simp [placeholder_notMem_memberTokens])
  have horder : .word .placeholder ∉ clauseTokens .ordering .comma
      (q.allSortKeys.map sortKeyTokens) :=
    placeholder_notMem_clauseTokens (by decide) (by decide)
      (by simp [sortKeyTokens, placeholder_notMem_memberTokens])
  unfold tailTokens
  cases q.offset <;> simp [hgroup, horder]

theorem count_question_headTokens (s : Schema) (t : Table) (q : Query) :
    (spell (headTokens s t q)).count question = 0 := by
  rw [count_question_spell]
  exact List.count_eq_zero.2 (placeholder_notMem_headTokens s t q)

theorem count_question_tailTokens (q : Query) : (spell (tailTokens q)).count question = 0 := by
  rw [count_question_spell]
  exact List.count_eq_zero.2 (placeholder_notMem_tailTokens q)

/-! ## One condition -/

/-- What is known of a filter that has been planned. -/
def Readable (f : Filter) : Prop :=
  ∃ operator, Operator.ofText? f.operator = some operator ∧ (operator.takesValue → f.value.isSome)

theorem text_eq_spell {f : Filter} (h : Readable f) : f.text = spell (filterTokens f) := by
  obtain ⟨operator, hoperator, -⟩ := h
  have hword := Operator.ofText?_eq_some_iff.1 hoperator
  have htakes := Operator.takesValue_of_ofText? hoperator
  rw [Filter.text, filterTokens, spell_append, spell_memberTokens, hoperator, ← hword]
  cases hvalued : f.isValued with
  | true => simp [htakes, hvalued, Token.lexemes, Word.text, Fragment.plain]
  | false => simp [htakes, hvalued, Token.lexemes, Word.text, Fragment.plain]

theorem count_question_text {f : Filter} (h : Readable f) :
    f.text.count question = if f.isValued then 1 else 0 := by
  have htext := text_eq_spell h
  obtain ⟨operator, hoperator, -⟩ := h
  have htakes := Operator.takesValue_of_ofText? hoperator
  have hmember := List.count_eq_zero.2 (placeholder_notMem_memberTokens f.field)
  rw [htext, count_question_spell, filterTokens, List.count_append, hmember, hoperator]
  cases hvalued : f.isValued with
  | true => simp [htakes, hvalued]
  | false => simp [htakes, hvalued]

theorem text_of_isValued {f : Filter} (hvalued : f.isValued = true) :
    f.text = memberText f.field ++ Fragment.plain (" " ++ normalWord f.operator ++ " ")
      ++ [question] := by
  rw [Filter.text, hvalued, if_pos rfl]
  simp [Fragment.plain]

theorem count_question_comparison {f : Filter} (h : Readable f) (hvalued : f.isValued = true) :
    (memberText f.field ++ Fragment.plain (" " ++ normalWord f.operator ++ " ")).count question
      = 0 := by
  have hcount := count_question_text h
  rw [text_of_isValued hvalued, hvalued, if_pos rfl, List.count_append, List.count_singleton_self]
    at hcount
  omega

theorem parameterOf_of_ofText? {f : Filter} {operator : Operator}
    (h : Operator.ofText? f.operator = some operator) :
    parameterOf f = if f.isValued then f.value.map (boundValue operator) else none := by
  simp only [parameterOf, h, Operator.takesValue_of_ofText? h]

theorem parameterOf_of_isNullTest {f : Filter} (h : Readable f) (hvalued : f.isValued = false) :
    parameterOf f = none := by
  obtain ⟨operator, hoperator, -⟩ := h
  rw [parameterOf_of_ofText? hoperator, hvalued, if_neg Bool.false_ne_true]

theorem boundValue_eq (operator : Operator) (value : String) :
    boundValue operator value = value ∨ boundValue operator value = "%" ++ value ++ "%" := by
  rw [boundValue, likePattern]
  split
  · exact ite_eq_or_eq _ _ _
  · exact .inl rfl

theorem parameterOf_of_isValued {f : Filter} (h : Readable f) (hvalued : f.isValued = true) :
    ∃ value, f.value = some value ∧
      (parameterOf f = some value ∨ parameterOf f = some ("%" ++ value ++ "%")) := by
  obtain ⟨operator, hoperator, hvalue⟩ := h
  have htakes : operator.takesValue = true := by
    rw [Operator.takesValue_of_ofText? hoperator, hvalued]
  obtain ⟨value, hvalue⟩ := Option.isSome_iff_exists.1 (hvalue htakes)
  have hbound : parameterOf f = some (boundValue operator value) := by
    rw [parameterOf_of_ofText? hoperator, hvalued, if_pos rfl, hvalue, Option.map_some]
  refine ⟨value, hvalue, ?_⟩
  rw [hbound]
  exact (boundValue_eq operator value).imp (congrArg some) (congrArg some)

theorem isSome_parameterOf {f : Filter} (h : Readable f) : (parameterOf f).isSome = f.isValued := by
  cases hvalued : f.isValued with
  | false => rw [parameterOf_of_isNullTest h hvalued, Option.isSome_none]
  | true =>
    obtain ⟨value, -, hparam | hparam⟩ := parameterOf_of_isValued h hvalued
    · rw [hparam, Option.isSome_some]
    · rw [hparam, Option.isSome_some]

/-! ## Several conditions -/

theorem split_of_getElem?_filter {α : Type} {p : α → Bool} {l : List α} {i : Nat} {a : α}
    (h : (l.filter p)[i]? = some a) :
    ∃ earlier later, l = earlier ++ a :: later ∧ (earlier.filter p).length = i ∧ p a := by
  obtain ⟨hi, ha⟩ := List.getElem?_eq_some_iff.1 h
  have hsplit : l.filter p = (l.filter p).take i ++ a :: (l.filter p).drop (i + 1) := by
    rw [← ha, List.getElem_cons_drop hi, List.take_append_drop]
  obtain ⟨l₁, l₂, hl, htake, hdrop⟩ := List.filter_eq_append_iff.1 hsplit
  obtain ⟨skipped, later, hl₂, hskipped, hpa, -⟩ := List.filter_eq_cons_iff.1 hdrop
  refine ⟨l₁ ++ skipped, later, ?_, ?_, hpa⟩
  · rw [hl, hl₂, List.append_assoc]
  · rw [List.filter_append, htake, List.filter_eq_nil_iff.2 hskipped, List.append_nil,
      List.length_take, Nat.min_eq_left hi.le]

theorem length_filterMap_parameterOf {fs : List Filter} (h : ∀ f ∈ fs, Readable f) :
    (fs.filterMap parameterOf).length = (fs.filter Filter.isValued).length := by
  rw [List.length_filterMap_eq_countP, ← List.countP_eq_length_filter]
  exact List.countP_congr fun f hf => by rw [isSome_parameterOf (h f hf)]

theorem count_question_flatMap {fs : List Filter} {piece : Filter → Fragment}
    (h : ∀ f ∈ fs, (piece f).count question = if f.isValued then 1 else 0) :
    (fs.flatMap piece).count question = (fs.filter Filter.isValued).length := by
  induction fs with
  | nil => rfl
  | cons f fs ih =>
    have hf := h f List.mem_cons_self
    have hfs := ih fun g hg => h g (List.mem_cons_of_mem f hg)
    rw [List.flatMap_cons, List.count_append, hf, hfs, List.filter_cons]
    split
    · rw [List.length_cons, Nat.add_comm]
    · rw [Nat.zero_add]

theorem count_question_earlier {fs : List Filter} (h : ∀ f ∈ fs, Readable f) :
    (fs.flatMap fun f => f.text ++ Fragment.plain " AND ").count question =
      (fs.filter Filter.isValued).length := by
  refine count_question_flatMap fun f hf => ?_
  rw [List.count_append, count_question_plain (by decide), Nat.add_zero]
  exact count_question_text (h f hf)

theorem count_question_later {fs : List Filter} (h : ∀ f ∈ fs, Readable f) :
    (fs.flatMap fun f => Fragment.plain " AND " ++ f.text).count question =
      (fs.filter Filter.isValued).length := by
  refine count_question_flatMap fun f hf => ?_
  rw [List.count_append, count_question_plain (by decide), Nat.zero_add]
  exact count_question_text (h f hf)

/-- The parameter of a filter stands behind those of the filters in front of it. -/
theorem getElem?_filterMap_parameterOf {earlier later : List Filter} {f : Filter}
    (h : ∀ g ∈ earlier, Readable g) {bound : String} (hbound : parameterOf f = some bound) :
    ((earlier ++ f :: later).filterMap parameterOf)[(earlier.filter Filter.isValued).length]? =
      some bound := by
  have hlength := length_filterMap_parameterOf h
  rw [List.filterMap_append, List.getElem?_append_right hlength.le, hlength, Nat.sub_self,
    List.filterMap_cons_some hbound, List.getElem?_cons_zero]

theorem spell_conditions {fs earlier later : List Filter} {f : Filter}
    (hreadable : ∀ g ∈ fs, Readable g) (h : fs = earlier ++ f :: later) :
    spell (clauseTokens .conditions .also (fs.map filterTokens)) =
      Fragment.plain "\nWHERE " ++ (earlier.flatMap fun g => g.text ++ Fragment.plain " AND ")
        ++ f.text ++ later.flatMap fun g => Fragment.plain " AND " ++ g.text := by
  have hne : (fs.map filterTokens).isEmpty = false := by simp [h]
  have htexts : (fs.map filterTokens).map spell = fs.map Filter.text := by
    rw [List.map_map]
    exact List.map_congr_left fun g hg => (text_eq_spell (hreadable g hg)).symm
  have hkeyword : Token.lexemes (.word .newline) ++ Token.lexemes (.word .conditions) =
      Fragment.plain "\nWHERE " := rfl
  rw [clauseTokens, hne, if_neg Bool.false_ne_true, spell_cons, spell_cons, spell_separated, htexts,
    h, List.map_append, List.map_cons, Fragment.join_append_cons, List.flatMap_map,
    List.flatMap_map, ← List.append_assoc, hkeyword, Word.text]
  simp only [List.append_assoc]

theorem count_question_conditions {fs : List Filter} (h : ∀ f ∈ fs, Readable f) :
    (spell (clauseTokens .conditions .also (fs.map filterTokens))).count question =
      (fs.filter Filter.isValued).length := by
  cases hfs : fs with
  | nil => rfl
  | cons f rest =>
    have hrest := count_question_later fun g hg => h g (hfs ▸ List.mem_cons_of_mem f hg)
    have hf := count_question_text (h f (hfs ▸ List.mem_cons_self))
    have hfirst : fs = [] ++ f :: rest := hfs
    have hspell := spell_conditions h hfirst
    rw [hfs] at hspell
    rw [hspell, List.flatMap_nil, List.append_nil, List.count_append, List.count_append,
      count_question_plain (by decide), Nat.zero_add, hf, hrest, List.filter_cons]
    split
    · rw [List.length_cons, Nat.add_comm]
    · rw [Nat.zero_add]

/-! ## Statements -/

theorem select_filters {s : Schema} {t : Table} {q : Query} {clause : Select} {params : List String}
    (h : selectFrom s t q = .ok (clause, params)) :
    (∀ f ∈ q.allFilters, Readable f) ∧ params = q.allFilters.filterMap parameterOf := by
  obtain ⟨-, aggregate, read, -, hread, -, hparams⟩ := selectFrom_eq_ok_iff.1 h
  refine ⟨?_, hparams.trans (params_of_filters hread)⟩
  have hreadable := (conditions_of_filters hread).imp (S := fun f c => Readable f ∧ True)
    fun f c ⟨operator, hoperator, hvalue, _⟩ => ⟨⟨operator, hoperator, hvalue⟩, trivial⟩
  exact ((List.forall₂_and_left _ _).1 hreadable).1

/-- A planned query has a placeholder and a parameter for each of its filters that takes a value. The
`i`-th placeholder is the one in the condition of the `i`-th of these filters, and the `i`-th parameter
is this filter's value or a pattern around it. -/
theorem placeholders_of_select {s : Schema} {q : Query} {st : Statement}
    (h : select s q = .ok st) :
    ∃ t lexed, s.table? q.table = some t ∧ lex st.sql = some lexed ∧
      lexed.count question = st.params.length ∧
      st.params.length = q.valuedFilters.length ∧
      ∀ i f, q.valuedFilters[i]? = some f →
        ∃ earlier later before after value,
          q.allFilters = earlier ++ f :: later ∧ (earlier.filter Filter.isValued).length = i ∧
          before = spell (headTokens s t q) ++ Fragment.plain "\nWHERE "
            ++ (earlier.flatMap fun g => g.text ++ Fragment.plain " AND ")
            ++ memberText f.field ++ Fragment.plain (" " ++ normalWord f.operator ++ " ") ∧
          after = (later.flatMap fun g => Fragment.plain " AND " ++ g.text)
            ++ spell (tailTokens q) ∧
          lexed = before ++ question :: after ∧ before.count question = i ∧
          f.value = some value ∧
          (st.params[i]? = some value ∨ st.params[i]? = some ("%" ++ value ++ "%")) := by
  obtain ⟨t, clause, htable, hselect, -, hsql⟩ := select_spelled h
  obtain ⟨hreadable, hparams⟩ := select_filters hselect
  have hlex : lex st.sql = some (spell (statementTokens s t q)) := by
    rw [hsql]
    exact lex_spell (apart_statementTokens s t q)
  have hlength : st.params.length = q.valuedFilters.length := by
    rw [hparams, length_filterMap_parameterOf hreadable, Query.valuedFilters]
  refine ⟨t, _, htable, hlex, ?_, hlength, ?_⟩
  · rw [statementTokens, spell_append, spell_append, List.count_append, List.count_append,
      count_question_headTokens, count_question_tailTokens, count_question_conditions hreadable,
      hlength, Query.valuedFilters]
    omega
  · intro i f hf
    obtain ⟨earlier, later, hfilters, hi, hvalued⟩ := split_of_getElem?_filter hf
    have hearlier : ∀ g ∈ earlier, Readable g := fun g hg =>
      hreadable g (hfilters ▸ List.mem_append_left _ hg)
    have hf' : Readable f := hreadable f (hfilters ▸ List.mem_append_right _ List.mem_cons_self)
    obtain ⟨value, hvalue, hparam⟩ := parameterOf_of_isValued hf' hvalued
    refine ⟨earlier, later, _, _, value, hfilters, hi, rfl, rfl, ?_, ?_, hvalue, ?_⟩
    · rw [statementTokens, spell_append, spell_append, spell_conditions hreadable hfilters,
        text_of_isValued hvalued]
      simp only [List.append_assoc, List.cons_append, List.nil_append]
    · rw [List.append_assoc _ (memberText f.field), List.count_append, List.count_append,
        List.count_append, count_question_headTokens, count_question_plain (by decide),
        count_question_earlier hearlier, hi, count_question_comparison hf' hvalued]
      omega
    · rw [hparams, hfilters, ← hi]
      exact hparam.imp (getElem?_filterMap_parameterOf hearlier)
        (getElem?_filterMap_parameterOf hearlier)

/-- A null test with a value, names with question marks, and values that look like placeholders. -/
def markedQuery : Query where
  table := "a`b?"
  columns := some ["``"]
  filters := some [⟨"x?", "Is Null", some "?"⟩, ⟨"``", " LIKE ", some "a?"⟩, ⟨"y", ">=", some "?"⟩]

def markedStatement : Statement where
  sql := "SELECT ``````, (SELECT `t1`.`n?` FROM `u`.`v` `t1` WHERE `t1`.`i``d` = " ++
    "`a``b?`.``````) AS `$label$`````\nFROM `a``b?`\nWHERE `x?` is null AND `````` like ? AND " ++
    "`y` >= ?\nLIMIT 300"
  params := ["%a?%", "?"]

theorem select_marked : select oddSchema markedQuery = .ok markedStatement :=
  eq_ok_of_toOption (by decide +kernel)

theorem placeholders_of_select_marked :
    select oddSchema markedQuery = .ok markedStatement ∧
    ∃ lexed, lex markedStatement.sql = some lexed ∧ lexed.count question = 2 := by
  obtain ⟨t, lexed, -, hlex, hcount, -⟩ := placeholders_of_select select_marked
  exact ⟨select_marked, lexed, hlex, hcount⟩

end Plan

end TableAtlas
