import TableAtlas.Proofs.Plan.Paths

/-!
# Refused queries

A query is refused for its table, or for a fault in one of its parts: a name that is kept for labels, a
function or an operator that the vocabulary lacks, a value that is missing, or a name that is no path.
Each fault is told here from the schema and the query alone, without the order in which planning comes
upon them, and planning fails just if there is one (`select_fails_iff`).
-/

namespace TableAtlas

open Sql (Entry Condition)

/-! ## Faults -/

/-- The names of columns that a query holds, be they used or not. -/
inductive Query.Names (q : Query) : String → Prop
  | column {name : String} (h : name ∈ q.columns.getD []) : Names q name
  | filter {f : Filter} (h : f ∈ q.allFilters) : Names q f.field
  | sortKey {k : Sql.SortKey} (h : k ∈ q.allSortKeys) : Names q k.field
  | target {a : Aggregate} {name : String} (ha : q.aggregate = some a) (h : a.target = some name) :
    Names q name
  | group {a : Aggregate} {name : String} (ha : q.aggregate = some a) (h : name ∈ a.groupBy) :
    Names q name

/-- The vocabulary lacks the operator, or a value to compare with is missing. -/
inductive Filter.Faulty (f : Filter) : Prop
  | unknownOperator (h : ∀ operator : Operator, operator.word ≠ normalWord f.operator)
  | valueMissing {operator : Operator} (h : operator.word = normalWord f.operator)
    (htakes : operator.takesValue) (hvalue : f.value = none)

namespace Plan

/-- Why there is no statement for a query over a table. -/
inductive Refused (s : Schema) (t : Table) (q : Query) : Prop
  | reservedName {name : String} (h : q.Names name) (hreserved : labelMarker.toList <+: name.toList)
  | unknownFunction {a : Aggregate} (ha : q.aggregate = some a)
    (h : ∀ function : AggregateFunction, function.word ≠ normalWord a.function)
  | faultyFilter {f : Filter} (h : f ∈ q.allFilters) (hf : f.Faulty)
  | noPath {name : String} (h : Writes s t q name) (hpath : IsNoPath name)

/-! ## Faults of the parts -/

theorem mem_namesOf_iff {q : Query} {name : String} : name ∈ namesOf q ↔ q.Names name := by
  constructor
  · intro h
    simp only [namesOf, List.mem_append, List.mem_map] at h
    rcases h with ((h | ⟨f, h, rfl⟩) | ⟨k, h, rfl⟩) | h
    · exact .column h
    · exact .filter h
    · exact .sortKey h
    · cases ha : q.aggregate with
      | none => simp [ha] at h
      | some a =>
        simp only [ha, List.mem_append, Option.mem_toList] at h
        rcases h with h | h
        · exact .target ha h
        · exact .group ha h
  · intro h
    cases h with
    | column h => simp [namesOf, h]
    | filter h => simp [namesOf, List.mem_map_of_mem h]
    | sortKey h => simp [namesOf, List.mem_map_of_mem h]
    | target ha h => simp [namesOf, ha, h]
    | group ha h => simp [namesOf, ha, h]

theorem checkNames_eq_ok_iff_names {q : Query} :
    checkNames q = .ok () ↔ ∀ name, q.Names name → ¬labelMarker.toList <+: name.toList := by
  simp only [checkNames_eq_ok_iff, mem_namesOf_iff, isReservedName, ← Bool.not_eq_true,
    List.isPrefixOf_iff_prefix]

theorem exists_readFilter_iff {f : Filter} : (∃ read, readFilter f = .ok read) ↔ ¬f.Faulty := by
  simp only [readFilter_eq_ok_iff]
  constructor
  · rintro ⟨_, operator, hoperator, hvalue, -⟩ (hunknown | ⟨hword, htakes, hnone⟩)
    · exact hunknown operator (Operator.ofText?_eq_some_iff.1 hoperator)
    · -- A word belongs to one operator.
      rw [← Operator.ofText?_eq_some_iff, hoperator, Option.some_inj] at hword
      subst hword
      simpa [hnone] using hvalue htakes
  · intro h
    cases hoperator : Operator.ofText? f.operator with
    | none => exact absurd (.unknownOperator (Operator.ofText?_eq_none_iff.1 hoperator)) h
    | some operator =>
      refine ⟨_, operator, rfl, fun htakes => ?_, rfl⟩
      rw [Option.isSome_iff_ne_none]
      exact fun hnone => h (.valueMissing (Operator.ofText?_eq_some_iff.1 hoperator) htakes hnone)

theorem exists_aggregateEntries_iff {q : Query} :
    (∃ entries, aggregateEntries q = .ok entries) ↔ ∀ a, q.aggregate = some a →
      (∃ function : AggregateFunction, function.word = normalWord a.function) ∧
        ∀ name, a.target = some name → ¬IsNoPath name := by
  unfold aggregateEntries
  cases q.aggregate with
  | none => simp
  | some a =>
    simp only [bind_eq_ok_iff, pure_eq_ok_iff, exists_and_left, aggregateEntry_eq_ok_iff,
      Option.some.injEq, forall_eq', AggregateFunction.ofText?_eq_some_iff]
    cases a.target with
    | none => simp
    | some name => simp [Sql.exists_member_iff]

/-! ## Faults of the text -/

theorem fields_of_filters {filters : List Filter} {read : List (Condition × Option String)}
    (h : filters.mapM readFilter = .ok read) :
    (read.map Prod.fst).map Condition.field = filters.map Filter.field := by
  refine (map_eq_map_of_forall₂ (conditions_of_filters h) fun f c hc => ?_).symm
  obtain ⟨operator, -, -, rfl⟩ := hc
  rfl

section Text

variable {s : Schema} {t : Table} {q : Query} {aggregate : List Entry}
  {filters : List (Condition × Option String)}

theorem exists_text_clausesOf_iff (haggregate : aggregateEntries q = .ok aggregate)
    (hfilters : q.allFilters.mapM readFilter = .ok filters) :
    (∃ sql, (clausesOf s t q aggregate (filters.map Prod.fst)).text .multiLine = .ok sql) ↔
      ∀ name, Writes s t q name → ¬IsNoPath name := by
  simp only [Sql.Select.text_eq, Sql.written_eq_ok_iff, exists_and_left, exists_eq', and_true,
    Sql.nameError?_eq_none_iff, isNoPath_iff]
  constructor
  · intro h written hwritten
    rcases exists_mem_names_of_writes haggregate (fields_of_filters hfilters) hwritten with
      ⟨name, hname, hempty⟩ | ⟨a, ha, htarget⟩
    · exact hempty.not.1 (h name hname)
    · exact isNoPath_iff.not.1 ((exists_aggregateEntries_iff.1 ⟨_, haggregate⟩ a ha).2 _ htarget)
  · intro h name hname
    obtain ⟨written, hwritten, hempty⟩ :=
      exists_writes_of_mem_names haggregate (fields_of_filters hfilters) hname
    exact hempty.not.2 (h written hwritten)

end Text

/-! ## Refusals -/

/-- There is a statement for a query just if none of its parts has a fault. -/
theorem exists_select_iff {s : Schema} {q : Query} :
    (∃ st, select s q = .ok st) ↔ ∃ t, s.table? q.table = some t ∧ ¬Refused s t q := by
  constructor
  · rintro ⟨st, hplan⟩
    obtain ⟨t, clause, htable, hselect, htext⟩ := select_eq_ok_iff.1 hplan
    obtain ⟨hnames, aggregate, filters, haggregate, hfilters, rfl, -⟩ := selectFrom_eq_ok_iff.1 hselect
    refine ⟨t, htable, fun hrefused => ?_⟩
    cases hrefused with
    | reservedName h hreserved => exact checkNames_eq_ok_iff_names.1 hnames _ h hreserved
    | @unknownFunction a ha h =>
      obtain ⟨function, hfunction⟩ := (exists_aggregateEntries_iff.1 ⟨_, haggregate⟩ a ha).1
      exact h function hfunction
    | @faultyFilter f h hf =>
      obtain ⟨read, hread⟩ := exists_mapM_iff.1 ⟨_, hfilters⟩ f h
      exact exists_readFilter_iff.1 ⟨read, hread⟩ hf
    | noPath h hpath => exact (exists_text_clausesOf_iff haggregate hfilters).1 ⟨_, htext⟩ _ h hpath
  · rintro ⟨t, htable, haccepted⟩
    have hnames : checkNames q = .ok () :=
      checkNames_eq_ok_iff_names.2 fun name h hreserved => haccepted (.reservedName h hreserved)
    obtain ⟨aggregate, haggregate⟩ : ∃ aggregate, aggregateEntries q = .ok aggregate := by
      refine exists_aggregateEntries_iff.2 fun a ha => ⟨?_, fun name hname hpath => ?_⟩
      · by_contra hnone
        exact haccepted (.unknownFunction ha (not_exists.1 hnone))
      · exact haccepted (.noPath (.target ha hname) hpath)
    obtain ⟨filters, hfilters⟩ : ∃ filters, q.allFilters.mapM readFilter = .ok filters :=
      exists_mapM_iff.2 fun f hf => exists_readFilter_iff.2 fun hfaulty =>
        haccepted (.faultyFilter hf hfaulty)
    obtain ⟨sql, hsql⟩ := (exists_text_clausesOf_iff haggregate hfilters).2 fun name h hpath =>
      haccepted (.noPath (s := s) (t := t) h hpath)
    refine ⟨⟨sql, filters.filterMap Prod.snd⟩, select_eq_ok_iff.2 ⟨t, _, htable, ?_, hsql⟩⟩
    exact selectFrom_eq_ok_iff.2 ⟨hnames, aggregate, filters, haggregate, hfilters, rfl, rfl⟩

/-! ## Errors -/

theorem compilation_of_liftName {α : Type} {result : Except Sql.NameError α} {e : Error}
    (h : liftName result = .error e) : ∃ fault, e = .compilation fault := by
  obtain ⟨fault, -, rfl⟩ := liftName_eq_error_iff.1 h
  exact ⟨.badName fault, rfl⟩

theorem compilation_of_checkNames {q : Query} {e : Error} (h : checkNames q = .error e) :
    ∃ fault, e = .compilation fault := by
  unfold checkNames at h
  split at h
  · next name _ =>
    cases h
    exact ⟨.reservedName name, rfl⟩
  · cases h

theorem compilation_of_aggregateEntry {a : Aggregate} {e : Error} (h : aggregateEntry a = .error e) :
    ∃ fault, e = .compilation fault := by
  unfold aggregateEntry at h
  cases hfunction : AggregateFunction.ofText? a.function with
  | none =>
    rw [hfunction] at h
    cases h
    exact ⟨.unsupportedFunction a.function, rfl⟩
  | some function =>
    rw [hfunction] at h
    cases htarget : a.target with
    | none =>
      rw [htarget] at h
      cases h
    | some column =>
      simp only [htarget, bind_eq_error_iff] at h
      rcases h with hname | ⟨_, -, hpure | ⟨_, -, hpure⟩⟩
      · exact compilation_of_liftName hname
      · cases hpure
      · cases hpure

theorem compilation_of_readFilter {f : Filter} {e : Error} (h : readFilter f = .error e) :
    ∃ fault, e = .compilation fault := by
  unfold readFilter at h
  split at h
  · cases h
    exact ⟨.unsupportedOperator f.operator, rfl⟩
  · split at h
    · split at h
      · cases h
      · cases h
        exact ⟨.valueMissing f.operator f.field, rfl⟩
    · cases h

theorem compilation_of_select {s : Schema} {q : Query} {t : Table} {e : Error}
    (htable : s.table? q.table = some t) (h : select s q = .error e) :
    ∃ fault, e = .compilation fault := by
  simp only [select, htable, bind_eq_error_iff, selectFrom] at h
  rcases h with (hnames | ⟨_, -, haggregate | ⟨_, -, hfilters | ⟨_, -, hpure⟩⟩⟩) | ⟨_, -, htext⟩
  · exact compilation_of_checkNames hnames
  · unfold aggregateEntries at haggregate
    split at haggregate
    · rcases bind_eq_error_iff.1 haggregate with hentry | ⟨_, -, hpure⟩
      · exact compilation_of_aggregateEntry hentry
      · cases hpure
    · cases haggregate
  · obtain ⟨f, -, hf⟩ := exists_of_mapM_eq_error hfilters
    exact compilation_of_readFilter hf
  · cases hpure
  · rcases htext with htext | ⟨_, -, hpure⟩
    · exact compilation_of_liftName htext
    · cases hpure

/-- Planning fails for its table just if the schema lacks the table, whatever else is wrong. For a table
of the schema it fails with an error of compilation just if the query has a fault, and gives a statement
just if it has none; there is no other error. -/
theorem select_fails_iff (s : Schema) (q : Query) :
    (∀ name, select s q = .error (.unknownTable name) ↔
      s.table? q.table = none ∧ name = q.table) ∧
    ((∃ fault, select s q = .error (.compilation fault)) ↔
      ∃ t, s.table? q.table = some t ∧ Refused s t q) ∧
    ((∃ st, select s q = .ok st) ↔ ∃ t, s.table? q.table = some t ∧ ¬Refused s t q) ∧
    ∀ e, select s q = .error e →
      e = .unknownTable q.table ∨ ∃ fault, e = .compilation fault := by
  cases htable : s.table? q.table with
  | none =>
    have hselect : select s q = .error (.unknownTable q.table) := by
      simp only [select, htable]
      rfl
    simp [hselect, eq_comm]
  | some t =>
    have hok := exists_select_iff (s := s) (q := q)
    simp only [htable, Option.some.injEq, exists_eq_left'] at hok
    simp only [Option.some.injEq, exists_eq_left', reduceCtorEq, false_and, iff_false]
    refine ⟨fun name h => ?_, ⟨?_, fun hrefused => ?_⟩, hok, fun e h =>
      .inr (compilation_of_select htable h)⟩
    · obtain ⟨fault, hfault⟩ := compilation_of_select htable h
      cases hfault
    · rintro ⟨fault, hfault⟩
      by_contra haccepted
      obtain ⟨st, hst⟩ := hok.2 haccepted
      simp [hst] at hfault
    · cases hselect : select s q with
      | ok st => exact absurd hrefused (hok.1 ⟨st, hselect⟩)
      | error e =>
        obtain ⟨fault, rfl⟩ := compilation_of_select htable hselect
        exact ⟨fault, rfl⟩

end Plan

end TableAtlas
