import TableAtlas.Plan.Select
import TableAtlas.Proofs.Sorting
import TableAtlas.Proofs.Sql.Paths

/-!
# Planned queries

What is known of each part of a query once it has been planned: the function of its aggregate, the
operators of its filters with the parameters they bind, and the clauses that are put together from
them.
-/

namespace TableAtlas

/-! ## Words -/

theorem Operator.ofText?_eq_some_iff {s : String} {operator : Operator} :
    ofText? s = some operator ↔ operator.word = normalWord s := by
  constructor
  · intro h
    simpa using List.find?_some h
  · intro h
    rw [ofText?, ← h]
    cases operator <;> decide

theorem Operator.ofText?_eq_none_iff {s : String} :
    ofText? s = none ↔ ∀ operator : Operator, operator.word ≠ normalWord s := by
  simp only [Option.eq_none_iff_forall_ne_some, ne_eq, ofText?_eq_some_iff]

theorem AggregateFunction.ofText?_eq_some_iff {s : String} {function : AggregateFunction} :
    ofText? s = some function ↔ function.word = normalWord s := by
  constructor
  · intro h
    simpa using List.find?_some h
  · intro h
    rw [ofText?, ← h]
    cases function <;> decide

namespace Plan

open Sql (Select Entry Condition Fragment)

/-! ## Filters -/

/-- The condition of a filter whose operator is known. -/
def conditionOf (operator : Operator) (f : Filter) : Condition :=
  ⟨f.field, operator.word, if operator.takesValue then some Sql.placeholder else none⟩

/-- The parameter of a filter, none if its operator takes no value. -/
def parameterOf (f : Filter) : Option String :=
  match Operator.ofText? f.operator with
  | some operator => if operator.takesValue then f.value.map (boundValue operator) else none
  | none => none

theorem readFilter_eq_ok_iff {f : Filter} {read : Condition × Option String} :
    readFilter f = .ok read ↔
      ∃ operator, Operator.ofText? f.operator = some operator ∧
        (operator.takesValue → f.value.isSome) ∧ read = (conditionOf operator f, parameterOf f) := by
  unfold readFilter
  cases hop : Operator.ofText? f.operator with
  | none => simp
  | some operator =>
    simp only [Option.some.injEq, exists_eq_left', conditionOf, parameterOf, hop]
    cases htakes : operator.takesValue with
    | false => simpa using eq_comm
    | true =>
      cases f.value with
      | none => simp
      | some value => simpa using eq_comm

/-! ## Aggregates -/

/-- The name that an aggregate goes by. -/
def aggregateAlias (function : AggregateFunction) (target : Option String) : String :=
  match target with
  | some column => function.word ++ "_" ++ column
  | none => function.word

theorem aggregateEntry_eq_ok_iff {a : Aggregate} {entry : Entry} :
    aggregateEntry a = .ok entry ↔
      ∃ function target, AggregateFunction.ofText? a.function = some function ∧
        (match a.target with
          | some column => Sql.member column = .ok target
          | none => target = Fragment.plain "*") ∧
        entry = .expression (Fragment.plain (function.word ++ "(") ++ target ++ Fragment.plain ")")
          (some (aggregateAlias function a.target)) := by
  unfold aggregateEntry
  cases AggregateFunction.ofText? a.function with
  | none => simp [throw_ne_ok]
  | some function =>
    simp only [Option.some.injEq, exists_and_left, exists_eq_left', aggregateAlias]
    cases a.target with
    | none =>
      simp only [pure_bind, pure_eq_ok_iff, exists_eq_left]
      exact eq_comm
    | some column =>
      simp only [bind_eq_ok_iff, pure_eq_ok_iff, liftName_eq_ok_iff, exists_eq_left',
        eq_comm (b := entry)]

theorem aggregateEntries_cases {q : Query} {entries : List Entry}
    (h : aggregateEntries q = .ok entries) :
    q.aggregate = none ∧ entries = [] ∨
      ∃ a function text, q.aggregate = some a ∧
        AggregateFunction.ofText? a.function = some function ∧
        entries = [.expression text (some (aggregateAlias function a.target))] := by
  unfold aggregateEntries at h
  cases ha : q.aggregate with
  | none =>
    left
    rw [ha] at h
    exact ⟨rfl, (Except.ok.inj h).symm⟩
  | some a =>
    right
    simp only [ha, bind_eq_ok_iff, pure_eq_ok_iff] at h
    obtain ⟨entry, hentry, rfl⟩ := h
    obtain ⟨function, target, hfunction, -, rfl⟩ := aggregateEntry_eq_ok_iff.1 hentry
    exact ⟨a, function, _, rfl, hfunction, rfl⟩

/-! ## Names -/

theorem checkNames_eq_ok_iff {q : Query} :
    checkNames q = .ok () ↔ ∀ name ∈ namesOf q, isReservedName name = false := by
  unfold checkNames
  cases hfound : (namesOf q).find? isReservedName with
  | none =>
    rw [List.find?_eq_none] at hfound
    simpa using hfound
  | some name =>
    have hreserved := List.find?_some hfound
    have hmem := List.mem_of_find?_eq_some hfound
    refine iff_of_false nofun fun h => ?_
    rw [h name hmem] at hreserved
    cases hreserved

/-- The column names that a query itself chooses. -/
def chosenNames (q : Query) : List String :=
  match q.aggregate with
  | some a => a.groupBy
  | none => q.columns.getD []

theorem mem_namesOf_of_mem_chosenNames {q : Query} {name : String} (h : name ∈ chosenNames q) :
    name ∈ namesOf q := by
  unfold chosenNames at h
  unfold namesOf
  cases ha : q.aggregate with
  | none =>
    rw [ha] at h
    simp [h]
  | some a =>
    rw [ha] at h
    simp [h]

theorem baseNames_cases (t : Table) (q : Query) :
    (∃ a, q.aggregate = some a ∧ baseNames t q = a.groupBy) ∨
    (∃ name rest, q.aggregate = none ∧ q.columns = some (name :: rest) ∧
      baseNames t q = name :: rest) ∨
    (q.aggregate = none ∧ q.columns.getD [] = [] ∧
      baseNames t q = t.columnsByOrdinal.map Column.name) := by
  unfold baseNames
  cases q.aggregate with
  | some a => exact .inl ⟨a, rfl, rfl⟩
  | none =>
    match q.columns with
    | none => exact .inr (.inr ⟨rfl, rfl, rfl⟩)
    | some [] => exact .inr (.inr ⟨rfl, rfl, rfl⟩)
    | some (name :: rest) => exact .inr (.inl ⟨name, rest, rfl, rfl, rfl⟩)

theorem baseNames_eq (t : Table) (q : Query) :
    baseNames t q = chosenNames q ∨
      q.aggregate = none ∧ baseNames t q = t.columnsByOrdinal.map Column.name := by
  rcases baseNames_cases t q with ⟨a, ha, h⟩ | ⟨name, rest, ha, hcolumns, h⟩ | ⟨ha, -, h⟩
  · left
    rw [h, chosenNames, ha]
  · left
    rw [h, chosenNames, ha, hcolumns, Option.getD_some]
  · exact .inr ⟨ha, h⟩

/-! ## Statements -/

/-- The clauses of a query whose aggregate and conditions are known. -/
def clausesOf (s : Schema) (t : Table) (q : Query) (aggregate : List Entry)
    (conditions : List Condition) : Select where
  source := some (.table t.name)
  entries := (baseNames t q).map .column ++ aggregate ++ labelLookups s t (baseNames t q)
  conditions := conditions
  groupBy := (q.aggregate.map Aggregate.groupBy).getD []
  orderBy := q.allSortKeys
  limit := some (q.limit.getD defaultLimit)
  offset := q.offset

theorem selectFrom_eq_ok_iff {s : Schema} {t : Table} {q : Query} {clause : Select}
    {params : List String} :
    selectFrom s t q = .ok (clause, params) ↔
      checkNames q = .ok () ∧ ∃ aggregate filters, aggregateEntries q = .ok aggregate ∧
        q.allFilters.mapM readFilter = .ok filters ∧
        clause = clausesOf s t q aggregate (filters.map Prod.fst) ∧
        params = filters.filterMap Prod.snd := by
  simp only [selectFrom, bind_eq_ok_iff, pure_eq_ok_iff, Prod.mk.injEq, clausesOf]
  constructor
  · rintro ⟨_, hnames, aggregate, haggregate, filters, hfilters, rfl, rfl⟩
    exact ⟨hnames, aggregate, filters, haggregate, hfilters, rfl, rfl⟩
  · rintro ⟨hnames, aggregate, filters, haggregate, hfilters, rfl, rfl⟩
    exact ⟨(), hnames, aggregate, haggregate, filters, hfilters, rfl, rfl⟩

theorem select_eq_ok_iff {s : Schema} {q : Query} {st : Statement} :
    select s q = .ok st ↔
      ∃ t clause, s.table? q.table = some t ∧ selectFrom s t q = .ok (clause, st.params) ∧
        clause.text .multiLine = .ok st.sql := by
  unfold select
  cases s.table? q.table with
  | none => simp [throw_ne_ok]
  | some t =>
    obtain ⟨sql, params⟩ := st
    simp only [bind_eq_ok_iff, pure_eq_ok_iff, liftName_eq_ok_iff, Option.some.injEq,
      Statement.mk.injEq]
    constructor
    · rintro ⟨⟨clause, params'⟩, hselect, sql', hsql, rfl, rfl⟩
      exact ⟨t, clause, rfl, hselect, hsql⟩
    · rintro ⟨_, clause, rfl, hselect, hsql⟩
      exact ⟨(clause, params), hselect, sql, hsql, rfl, rfl⟩

theorem conditions_of_filters {filters : List Filter} {read : List (Condition × Option String)}
    (h : filters.mapM readFilter = .ok read) :
    List.Forall₂ (fun f c => ∃ operator, Operator.ofText? f.operator = some operator ∧
      (operator.takesValue → f.value.isSome) ∧ c = conditionOf operator f) filters
      (read.map Prod.fst) := by
  rw [List.forall₂_map_right_iff]
  refine (mapM_eq_ok_iff.1 h).imp fun f r hr => ?_
  obtain ⟨operator, hop, hvalue, rfl⟩ := readFilter_eq_ok_iff.1 hr
  exact ⟨operator, hop, hvalue, rfl⟩

theorem params_of_filters {filters : List Filter} {read : List (Condition × Option String)}
    (h : filters.mapM readFilter = .ok read) :
    read.filterMap Prod.snd = filters.filterMap parameterOf := by
  refine (filterMap_eq_filterMap_of_forall₂ (mapM_eq_ok_iff.1 h) fun f r hr => ?_).symm
  obtain ⟨operator, -, -, hr⟩ := readFilter_eq_ok_iff.1 hr
  rw [hr]

end Plan

end TableAtlas
