import TableAtlas.Plan.ReferenceCount
import TableAtlas.Proofs.Plan.Placeholders

/-!
# Values and the text of statements

What a filter compares its field with never reaches the text of a statement. Planning sees of a value
that it is there; whether it holds a wildcard decides on the parameter alone. Two queries of one
outline are therefore refused for the same reason, or they have one text and as many parameters.
-/

namespace TableAtlas

/-- The filter with its value blotted out. -/
def Filter.outline (f : Filter) : Filter :=
  { f with value := f.value.map fun _ => "" }

/-- The query with the values of its filters blotted out. -/
def Query.outline (q : Query) : Query :=
  { q with filters := q.filters.map (List.map Filter.outline) }

/-- The statements have the same text and as many parameters. -/
def Statement.SameText (a b : Statement) : Prop :=
  a.sql = b.sql ∧ a.params.length = b.params.length

theorem Filter.outline_eq_iff {f g : Filter} :
    f.outline = g.outline ↔
      f.field = g.field ∧ f.operator = g.operator ∧ f.value.isSome = g.value.isSome := by
  obtain ⟨field, operator, value⟩ := f
  obtain ⟨field', operator', value'⟩ := g
  cases value <;> cases value' <;> simp [outline]

namespace Query

theorem allFilters_outline (q : Query) : q.outline.allFilters = q.allFilters.map Filter.outline := by
  cases hfilters : q.filters <;> simp [allFilters, outline, hfilters]

theorem exists_filters_of_outline {q q' : Query} (h : q.outline = q'.outline) :
    ∃ filters, q' = { q with filters := filters } := by
  obtain ⟨table, columns, filters, aggregate, orderBy, limit, offset⟩ := q
  obtain ⟨table', columns', filters', aggregate', orderBy', limit', offset'⟩ := q'
  simp only [outline, mk.injEq] at h
  obtain ⟨rfl, rfl, -, rfl, rfl, rfl, rfl⟩ := h
  exact ⟨filters', rfl⟩

theorem forall₂_allFilters_of_outline {q q' : Query} (h : q.outline = q'.outline) :
    List.Forall₂ (fun f g => f.outline = g.outline) q.allFilters q'.allFilters := by
  have hfilters : q.allFilters.map Filter.outline = q'.allFilters.map Filter.outline := by
    rw [← allFilters_outline, ← allFilters_outline, h]
  rwa [← List.forall₂_eq_eq_eq, List.forall₂_map_left_iff, List.forall₂_map_right_iff] at hfilters

end Query

namespace Plan

open Sql (Select Condition)

/-! ## What planning reads of a query -/

theorem namesOf_outline (q : Query) : namesOf q.outline = namesOf q := by
  have hfields :
      (q.allFilters.map Filter.outline).map Filter.field = q.allFilters.map Filter.field := by
    rw [List.map_map]
    rfl
  rw [namesOf, Query.allFilters_outline, hfields]
  rfl

theorem checkNames_outline (q : Query) : checkNames q.outline = checkNames q := by
  rw [checkNames, namesOf_outline, checkNames]

/-- A filter is refused for its operator or for the lack of a value, and its condition holds no
value. -/
theorem agree_readFilter {f g : Filter} (h : f.outline = g.outline) :
    Agree (fun a b => a.1 = b.1 ∧ a.2.isSome = b.2.isSome) (readFilter f) (readFilter g) := by
  obtain ⟨hfield, hoperator, hvalue⟩ := Filter.outline_eq_iff.1 h
  unfold readFilter
  rw [hfield, hoperator]
  cases Operator.ofText? g.operator with
  | none => exact .error _
  | some operator =>
    cases htakes : operator.takesValue with
    | false =>
      simp only [htakes, Bool.false_eq_true, if_false]
      exact .ok ⟨rfl, rfl⟩
    | true =>
      simp only [htakes, if_true]
      cases hf : f.value with
      | none =>
        cases hg : g.value with
        | none => exact .error _
        | some value' => simp [hf, hg] at hvalue
      | some value =>
        cases hg : g.value with
        | none => simp [hf, hg] at hvalue
        | some value' => exact .ok ⟨rfl, rfl⟩

/-! ## Statements -/

theorem agree_selectFrom (s : Schema) (t : Table) {q q' : Query} (h : q.outline = q'.outline) :
    Agree (fun a b => a.1 = b.1 ∧ a.2.length = b.2.length) (selectFrom s t q)
      (selectFrom s t q') := by
  have hfilters := Query.forall₂_allFilters_of_outline h
  have hchecks : checkNames q = checkNames q' := by
    rw [← checkNames_outline q, h, checkNames_outline]
  obtain ⟨filters, rfl⟩ := Query.exists_filters_of_outline h
  unfold selectFrom
  rw [hchecks]
  refine (Agree.refl (fun _ => rfl) _).bind fun _ _ _ => ?_
  refine (Agree.refl (fun _ => rfl) _).bind fun aggregate _ heq => ?_
  refine (Agree.mapM hfilters fun f g => agree_readFilter).bind fun read read' hread => .ok ⟨?_, ?_⟩
  · exact congrArg₂ (clausesOf s t q) heq (map_eq_map_of_forall₂ hread fun a b hab => hab.1)
  · exact length_filterMap_of_forall₂ hread fun a b hab => hab.2

theorem agree_select (s : Schema) {q q' : Query} (h : q.outline = q'.outline) :
    Agree Statement.SameText (select s q) (select s q') := by
  have hfrom := fun t => agree_selectFrom s t h
  obtain ⟨filters, rfl⟩ := Query.exists_filters_of_outline h
  unfold select
  cases s.table? q.table with
  | none => exact .error _
  | some t =>
    refine (hfrom t).bind ?_
    rintro ⟨clause, params⟩ ⟨_, params'⟩ ⟨rfl, hparams⟩
    exact (Agree.refl (fun _ => rfl) _).bind fun sql sql' hsql => .ok ⟨hsql, hparams⟩

theorem agree_referenceCount (s : Schema) (table rowId rowId' : String) :
    Agree (Option.Rel Statement.SameText) (referenceCount s table rowId)
      (referenceCount s table rowId') := by
  unfold referenceCount
  cases s.table? table with
  | none => exact .error _
  | some t =>
    simp only
    split
    · exact .ok .none
    · refine (Agree.refl (fun _ => rfl) _).bind fun sql sql' hsql => .ok (.some ⟨hsql, ?_⟩)
      simp

/-- The text of a statement is free of the values it is asked about. Queries that differ in nothing
but the contents of their filters' values are refused with one error or become one text with as many
parameters, and so does the count of the rows that refer to a row, whatever row it is. -/
theorem text_free_of_values (s : Schema) :
    (∀ q q' : Query, q.outline = q'.outline →
      Agree Statement.SameText (select s q) (select s q')) ∧
    ∀ table rowId rowId' : String,
      Agree (Option.Rel Statement.SameText) (referenceCount s table rowId)
        (referenceCount s table rowId') :=
  ⟨fun _ _ h => agree_select s h, agree_referenceCount s⟩

/-- The marked query with values that try to leave their places. -/
def intrudingQuery : Query :=
  { markedQuery with
    filters := some [⟨"x?", "Is Null", some "x` or 1=1"⟩, ⟨"``", " LIKE ", some "50%' or `a"⟩,
      ⟨"y", ">=", some ""⟩] }

theorem text_free_of_intruding :
    markedQuery.outline = intrudingQuery.outline ∧
    ∃ st, select oddSchema intrudingQuery = .ok st ∧ st.sql = markedStatement.sql ∧
      st.params.length = 2 := by
  have houtline : markedQuery.outline = intrudingQuery.outline := by decide
  have hagree := (text_free_of_values oddSchema).1 markedQuery intrudingQuery houtline
  rw [select_marked] at hagree
  generalize select oddSchema intrudingQuery = result at hagree
  cases hagree with
  | ok hst => exact ⟨houtline, _, rfl, hst.1.symm, hst.2.symm⟩

end Plan

end TableAtlas
