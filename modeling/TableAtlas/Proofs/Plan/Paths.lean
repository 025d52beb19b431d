import TableAtlas.Proofs.Plan.Lookups
import TableAtlas.Proofs.Plan.Tokens
import TableAtlas.Proofs.Sql.Mentions

/-!
# The paths of planned queries

A planned query writes most of its names as paths, and a path with an empty part is refused. `Writes`
tells these names from the schema and the query alone: the columns that the statement is about, what the
look-ups of their labels take from the schema, the table, and the fields of the aggregate, of conditions
and of sort keys. The text of planned clauses checks just these names, some of them behind the alias of
a look-up (`exists_writes_of_mem_names`, `exists_mem_names_of_writes`).
-/

namespace TableAtlas.Plan

open Sql (Entry Condition NameError nameError? nameParts)

/-! ## Names behind an alias -/

theorem empty_mem_nameParts_behind_alias {number : Nat} {name : String} :
    "" ∈ nameParts (lookupAlias number ++ "." ++ name) ↔ "" ∈ nameParts name := by
  have halias : "" ≠ lookupAlias number := by
    intro heq
    simp [lookupAlias] at heq
  rw [Sql.nameParts_append_point (point_notMem_lookupAlias number), List.mem_cons, or_iff_right halias]

theorem nameError?_behind_alias {number : Nat} {name : String} {fault : NameError} :
    nameError? (lookupAlias number ++ "." ++ name) = some fault ↔
      "" ∈ nameParts name ∧ fault = .malformed (lookupAlias number ++ "." ++ name) := by
  have hne : lookupAlias number ++ "." ++ name ≠ "" := by simp
  rw [nameError?, if_neg hne]
  by_cases hpart : "" ∈ nameParts name
  · rw [if_pos (empty_mem_nameParts_behind_alias.2 hpart)]
    simp [hpart, eq_comm]
  · rw [if_neg (fun h => hpart (empty_mem_nameParts_behind_alias.1 h))]
    simp [hpart]

/-! ## What a statement is about -/

/-- The names of the columns that a statement over a table is about. -/
inductive Concerns (t : Table) (q : Query) : String → Prop
  | group {a : Aggregate} {name : String} (ha : q.aggregate = some a) (h : name ∈ a.groupBy) :
    Concerns t q name
  | chosen {names : List String} {name : String} (ha : q.aggregate = none)
    (hcolumns : q.columns = some names) (h : name ∈ names) : Concerns t q name
  | byDefault {column : String} {c : Column} (ha : q.aggregate = none)
    (hcolumns : q.columns.getD [] = []) (h : t.columns.get? column = some c) : Concerns t q c.name

theorem mem_baseNames_iff {t : Table} {q : Query} {name : String} :
    name ∈ baseNames t q ↔ Concerns t q name := by
  have hall : name ∈ t.columnsByOrdinal.map Column.name ↔
      ∃ column c, t.columns.get? column = some c ∧ c.name = name := by
    simp only [List.mem_map, mem_columnsByOrdinal]
    grind
  constructor
  · intro h
    rcases baseNames_cases t q with ⟨a, ha, hbase⟩ | ⟨first, rest, ha, hcolumns, hbase⟩ |
      ⟨ha, hcolumns, hbase⟩
    · exact .group ha (hbase ▸ h)
    · exact .chosen ha hcolumns (hbase ▸ h)
    · obtain ⟨column, c, hc, rfl⟩ := hall.1 (hbase ▸ h)
      exact .byDefault ha hcolumns hc
  · intro h
    cases h with
    | group ha h => rwa [baseNames, ha]
    | @chosen names _ ha hcolumns h =>
      cases names with
      | nil => exact absurd h List.not_mem_nil
      | cons first rest => rwa [baseNames, ha, hcolumns]
    | @byDefault column c ha hcolumns h =>
      rcases baseNames_cases t q with ⟨a, hsome, -⟩ | ⟨first, rest, -, hchosen, -⟩ | ⟨-, -, hbase⟩
      · simp [ha] at hsome
      · simp [hchosen] at hcolumns
      · rw [hbase]
        exact hall.2 ⟨column, c, h, rfl⟩

/-- The column refers to a table with a label. -/
def HasLabel (s : Schema) (t : Table) (name : String) (r : Reference) (label : String) : Prop :=
  ∃ column target, t.columns.get? name = some column ∧ column.refersTo = some r ∧
    s.table? r.targetTable = some target ∧ target.labelColumn = some label

/-- The names that a statement over a table writes as paths. -/
inductive Writes (s : Schema) (t : Table) (q : Query) : String → Prop
  | table : Writes s t q t.name
  | base {name : String} (h : Concerns t q name) : Writes s t q name
  | target {a : Aggregate} {name : String} (ha : q.aggregate = some a) (h : a.target = some name) :
    Writes s t q name
  | filter {f : Filter} (h : f ∈ q.allFilters) : Writes s t q f.field
  | sortKey {k : Sql.SortKey} (h : k ∈ q.allSortKeys) : Writes s t q k.field
  | label {name label : String} {r : Reference} (h : Concerns t q name)
    (hlabel : HasLabel s t name r label) : Writes s t q label
  | labelTable {name label : String} {r : Reference} (h : Concerns t q name)
    (hlabel : HasLabel s t name r label) : Writes s t q r.targetTable
  | labelTarget {name label : String} {r : Reference} (h : Concerns t q name)
    (hlabel : HasLabel s t name r label) : Writes s t q r.targetColumn

/-! ## The paths of the text -/

/-- The names of a look-up that are checked. -/
def checkedLookup (number : Nat) (reference : Reference) (label : String) : List String :=
  [lookupAlias number ++ "." ++ label, reference.targetTable,
    lookupAlias number ++ "." ++ reference.targetColumn]

section Clauses

variable {s : Schema} {t : Table} {q : Query} {aggregate : List Entry} {conditions : List Condition}

theorem names_columns (names : List String) :
    (names.map Entry.column).flatMap Entry.names = names := by
  rw [List.flatMap_map]
  conv_rhs => rw [← List.map_id names, List.map_eq_flatMap]
  exact List.flatMap_congr fun name _ => by rw [Entry.names, id]

theorem names_aggregateEntries (haggregate : aggregateEntries q = .ok aggregate) :
    aggregate.flatMap Entry.names = [] := by
  rcases aggregateEntries_cases haggregate with ⟨-, rfl⟩ | ⟨_, _, _, -, -, rfl⟩
  · rfl
  · simp [Entry.names]

theorem names_labelLookups (s : Schema) (t : Table) (names : List String) :
    (labelLookups s t names).flatMap Entry.names =
      (names.filterMap (labelled? s t)).zipIdx.flatMap fun found =>
        checkedLookup (found.2 + 1) found.1.1 found.1.2 := by
  rw [labelLookups, List.mapIdx_eq_zipIdx_map, List.flatMap_map]
  refine List.flatMap_congr fun found _ => ?_
  simp [labelLookup, checkedLookup, Entry.names, Sql.Select.names, Sql.entryNames, Sql.Source.name]

theorem names_clausesOf (haggregate : aggregateEntries q = .ok aggregate) :
    (clausesOf s t q aggregate conditions).names =
      baseNames t q
        ++ ((baseNames t q).filterMap (labelled? s t)).zipIdx.flatMap
          (fun found => checkedLookup (found.2 + 1) found.1.1 found.1.2)
        ++ [t.name] ++ conditions.map Condition.field
        ++ (q.aggregate.map Aggregate.groupBy).getD [] ++ q.allSortKeys.map Sql.SortKey.field := by
  simp only [clausesOf, Sql.Select.names, Sql.entryNames_eq, List.flatMap_append, names_columns,
    names_aggregateEntries haggregate, names_labelLookups, List.append_nil]
  simp [Sql.Source.name]

theorem mem_zipIdx_labelled {r : Reference} {label : String} :
    (∃ i, ((r, label), i) ∈ ((baseNames t q).filterMap (labelled? s t)).zipIdx) ↔
      ∃ name, Concerns t q name ∧ HasLabel s t name r label := by
  simp only [← mem_baseNames_iff, HasLabel, ← labelled?_eq_some_iff, ← List.mem_filterMap]
  constructor
  · rintro ⟨i, hi⟩
    exact List.fst_mem_of_mem_zipIdx hi
  · intro h
    obtain ⟨i, hi, hget⟩ := List.mem_iff_getElem.1 h
    exact ⟨i, List.mem_zipIdx_iff_getElem?.2 (hget ▸ List.getElem?_eq_getElem hi)⟩

theorem exists_writes_of_mem_names (haggregate : aggregateEntries q = .ok aggregate)
    (hfields : conditions.map Condition.field = q.allFilters.map Filter.field) {name : String}
    (h : name ∈ (clausesOf s t q aggregate conditions).names) :
    ∃ written, Writes s t q written ∧ ("" ∈ nameParts name ↔ "" ∈ nameParts written) := by
  rw [names_clausesOf haggregate, hfields] at h
  simp only [List.mem_append, List.mem_flatMap, List.mem_singleton, List.mem_map] at h
  rcases h with ((((h | ⟨⟨⟨r, label⟩, i⟩, hfound, h⟩) | rfl) | ⟨f, hf, rfl⟩) | h) | ⟨k, hk, rfl⟩
  · exact ⟨name, .base (mem_baseNames_iff.1 h), .rfl⟩
  · obtain ⟨column, hbase, hlabel⟩ := mem_zipIdx_labelled.1 ⟨i, hfound⟩
    simp only [checkedLookup, List.mem_cons, List.not_mem_nil, or_false] at h
    rcases h with rfl | rfl | rfl
    · exact ⟨label, .label hbase hlabel, empty_mem_nameParts_behind_alias⟩
    · exact ⟨r.targetTable, .labelTable hbase hlabel, .rfl⟩
    · exact ⟨r.targetColumn, .labelTarget hbase hlabel, empty_mem_nameParts_behind_alias⟩
  · exact ⟨t.name, .table, .rfl⟩
  · exact ⟨f.field, .filter hf, .rfl⟩
  · cases ha : q.aggregate with
    | none => simp [ha] at h
    | some a => exact ⟨name, .base (.group ha (by simpa [ha] using h)), .rfl⟩
  · exact ⟨k.field, .sortKey hk, .rfl⟩

/-- A path of the statement is checked, as it is or behind the alias of a look-up; that of an aggregate
has been checked before. -/
theorem exists_mem_names_of_writes (haggregate : aggregateEntries q = .ok aggregate)
    (hfields : conditions.map Condition.field = q.allFilters.map Filter.field) {written : String}
    (h : Writes s t q written) :
    (∃ name ∈ (clausesOf s t q aggregate conditions).names,
      ("" ∈ nameParts name ↔ "" ∈ nameParts written)) ∨
    ∃ a, q.aggregate = some a ∧ a.target = some written := by
  have hlookup : ∀ {column label : String} {r : Reference}, Concerns t q column →
      HasLabel s t column r label → ∃ i, ∀ name ∈ checkedLookup (i + 1) r label,
        name ∈ (clausesOf s t q aggregate conditions).names := by
    intro column label r hbase hlabel
    obtain ⟨i, hi⟩ := mem_zipIdx_labelled.2 ⟨column, hbase, hlabel⟩
    refine ⟨i, fun name hname => ?_⟩
    rw [names_clausesOf haggregate]
    simp only [List.mem_append, List.mem_flatMap]
    exact .inl (.inl (.inl (.inl (.inr ⟨_, hi, hname⟩))))
  rw [or_iff_not_imp_right]
  intro htarget
  cases h with
  | table => exact ⟨t.name, by simp [names_clausesOf haggregate], .rfl⟩
  | base h => exact ⟨written, by simp [names_clausesOf haggregate, mem_baseNames_iff.2 h], .rfl⟩
  | target ha h => exact absurd ⟨_, ha, h⟩ htarget
  | @filter f h =>
    have hmem : f.field ∈ conditions.map Condition.field := hfields ▸ List.mem_map_of_mem h
    exact ⟨f.field, by simp only [names_clausesOf haggregate, List.mem_append, hmem, or_true, true_or],
      .rfl⟩
  | @sortKey k h =>
    have hmem : k.field ∈ q.allSortKeys.map Sql.SortKey.field := List.mem_map_of_mem h
    exact ⟨k.field, by simp only [names_clausesOf haggregate, List.mem_append, hmem, or_true], .rfl⟩
  | label hbase hlabel =>
    obtain ⟨i, hi⟩ := hlookup hbase hlabel
    exact ⟨lookupAlias (i + 1) ++ "." ++ written, hi _ (by simp [checkedLookup]),
      empty_mem_nameParts_behind_alias⟩
  | labelTable hbase hlabel =>
    obtain ⟨i, hi⟩ := hlookup hbase hlabel
    exact ⟨_, hi _ (by simp [checkedLookup]), .rfl⟩
  | @labelTarget _ _ r hbase hlabel =>
    obtain ⟨i, hi⟩ := hlookup hbase hlabel
    exact ⟨lookupAlias (i + 1) ++ "." ++ r.targetColumn, hi _ (by simp [checkedLookup]),
      empty_mem_nameParts_behind_alias⟩

end Clauses

end TableAtlas.Plan
