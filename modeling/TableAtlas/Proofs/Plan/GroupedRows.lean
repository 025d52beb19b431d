import TableAtlas.Mysql.Value
import TableAtlas.Proofs.Plan.OutputNames
import TableAtlas.Proofs.Row

/-!
# Rows of grouped queries

A query with an aggregate is answered with the columns that it groups by, then the aggregate, then the
labels. The aggregate goes by an alias that its function and its column give, and nothing compares the
alias with the names of the groups. A row has one value under each name, so a group called like the
alias is lost, and the row holds the aggregate in its place (`groups_kept_iff`).
-/

namespace TableAtlas.Plan

open Sql
open Mysql (Client)

/-- A row of an answer to the clauses, from whatever client: its columns are named after their values. -/
structure RowOf {κ ν : Type} (client : Client κ ν) (clause : Select) (places : List (κ × ν)) (row : Row) :
    Prop where
  names : places.map (fun place => client.name place.1) = clause.outputNames
  made : client.rowToJson places = .ok row

/-! ## Names -/

theorem lastPart_ne_of_point {name other : String} (h : '.' ∈ other.toList) :
    lastPart name ≠ other := by
  rintro rfl
  exact point_notMem_lastPart name h

theorem point_mem_aggregateAlias {function : AggregateFunction} {column : String}
    (h : '.' ∈ column.toList) : '.' ∈ (aggregateAlias function (some column)).toList := by
  rw [aggregateAlias, String.toList_append]
  exact List.mem_append_right _ h

theorem plainNames_of_aggregate {s : Schema} {t : Table} {q : Query} {a : Aggregate}
    {clause : Select} {params : List String} (hselect : selectFrom s t q = .ok (clause, params))
    (ha : q.aggregate = some a) :
    ∃ function, AggregateFunction.ofText? a.function = some function ∧
      clause.plainNames = a.groupBy.map lastPart ++ [aggregateAlias function a.target] ∧
      clause.outputNames = clause.plainNames ++ clause.nestedNames ∧
      clause.outputNames.length = clause.entries.length ∧
      ∀ label ∈ clause.nestedNames, isReservedName label := by
  obtain ⟨-, aggregate, filters, haggregate, -, rfl, -⟩ := selectFrom_eq_ok_iff.1 hselect
  have hbase : baseNames t q = a.groupBy := by rw [baseNames, ha]
  rcases aggregateEntries_cases haggregate with ⟨hnone, -⟩ | ⟨a', function, text, ha', hfunction, hentry⟩
  · rw [ha] at hnone
    cases hnone
  · obtain rfl : a = a' := Option.some.inj (ha.symm.trans ha')
    refine ⟨function, hfunction, ?_, outputNames_clausesOf haggregate,
      length_outputNames_clausesOf haggregate, fun label hlabel => ?_⟩
    · rw [plainNames_clausesOf haggregate, hbase, hentry]
      rfl
    · rw [nestedNames_clausesOf haggregate] at hlabel
      obtain ⟨found, -, rfl⟩ := List.mem_map.1 hlabel
      exact isReservedName_marker _

/-! ## Values -/

section Values

variable {κ ν : Type} {client : Client κ ν} {clause : Select} {groups labels : List String}
  {asName : String} {places : List (κ × ν)} {row : Row}

theorem RowOf.holds_aggregate (hrow : RowOf client clause places row)
    (hnames : clause.outputNames = groups.map lastPart ++ asName :: labels)
    (hlabels : asName ∉ labels) : client.Holds places row groups.length asName := by
  have hholds := Client.holds_rowToJson hrow.made (hrow.names.trans hnames) hlabels
  rwa [List.length_map] at hholds

theorem RowOf.holds_group (hrow : RowOf client clause places row)
    (hnames : clause.outputNames = groups.map lastPart ++ asName :: labels)
    (hgroups : (groups.map lastPart).Nodup) {i : Nat} {name : String} (hname : groups[i]? = some name)
    (halias : lastPart name ≠ asName) (hlabels : lastPart name ∉ labels) :
    client.Holds places row i (lastPart name) := by
  obtain ⟨hi, hget⟩ := List.getElem?_eq_some_iff.1 hname
  have hsplit : groups.take i ++ name :: groups.drop (i + 1) = groups := by
    rw [← hget, List.getElem_cons_drop, List.take_append_drop]
  rw [← hsplit, List.map_append, List.map_cons] at hgroups hnames
  have hlater : lastPart name ∉ (groups.drop (i + 1)).map lastPart :=
    (List.nodup_cons.1 (List.nodup_append.1 hgroups).2.1).1
  have hsplitNames : places.map (fun place => client.name place.1) =
      (groups.take i).map lastPart ++
        lastPart name :: ((groups.drop (i + 1)).map lastPart ++ asName :: labels) := by
    rw [hrow.names, hnames, List.append_assoc, List.cons_append]
  have hholds := Client.holds_rowToJson hrow.made hsplitNames (by
    simp only [List.mem_append, List.mem_cons, not_or]
    exact ⟨hlater, halias, hlabels⟩)
  rwa [List.length_map, List.length_take, Nat.min_eq_left (Nat.le_of_lt hi)] at hholds

end Values

/-! ## Rows with one null -/

/-- Null in one place and a number in all other ones. -/
def placesNullAt (names : List String) (i : Nat) : List (Mysql.Column × Mysql.Cell) :=
  names.mapIdx fun j name => ({ name, kind := .long }, if j = i then .null else .signed 0)

theorem valueAt?_placesNullAt {names : List String} {i j : Nat} (hj : j < names.length) :
    Mysql.protocol.valueAt? (placesNullAt names i) j =
      some (.ok (if j = i then .null else .number (.natural 0))) := by
  rw [Client.valueAt?, placesNullAt, List.getElem?_mapIdx, List.getElem?_eq_getElem hj]
  by_cases h : j = i
  · simp only [h, if_true, Option.map_some]
    rfl
  · simp only [h, if_false, Option.map_some]
    rfl

theorem exists_rowOf_nullAt (clause : Select) (i : Nat) :
    ∃ row, RowOf Mysql.protocol clause (placesNullAt clause.outputNames i) row := by
  have hvalues : ∀ place ∈ placesNullAt clause.outputNames i,
      ∃ value, Mysql.protocol.toJson place.1 place.2 = .ok value := by
    intro place hmem
    obtain ⟨j, hj, rfl⟩ := List.mem_iff_getElem.1 hmem
    have hj' : j < clause.outputNames.length := by simpa [placesNullAt] using hj
    have hvalue := @valueAt?_placesNullAt _ i j hj'
    rw [Client.valueAt?, List.getElem?_eq_getElem hj] at hvalue
    exact ⟨_, Option.some.inj hvalue⟩
  obtain ⟨row, hrow⟩ := Client.exists_rowToJson hvalues
  refine ⟨row, List.ext_getElem (by simp [placesNullAt]) fun j hj hj' => ?_, hrow⟩
  simp [placesNullAt, Mysql.protocol]

/-! ## Groups and aggregates -/

/-- A planned query with an aggregate over groups of different names. Each row of its answer holds the
aggregate under its alias. The rows hold all groups just if no group goes by the alias, and none does if
the column of the aggregate is a path. Groups that go by the name of a label are left aside. -/
theorem groups_kept_iff {s : Schema} {q : Query} {a : Aggregate} {st : Statement}
    (hplan : select s q = .ok st) (ha : q.aggregate = some a)
    (hgroups : (a.groupBy.map lastPart).Nodup) :
    ∃ t clause function, s.table? q.table = some t ∧ selectFrom s t q = .ok (clause, st.params) ∧
      clause.text .multiLine = .ok st.sql ∧
      AggregateFunction.ofText? a.function = some function ∧
      clause.outputNames.length = clause.entries.length ∧
      clause.plainNames = a.groupBy.map lastPart ++ [aggregateAlias function a.target] ∧
      (∀ {κ ν : Type} (client : Client κ ν) places row, RowOf client clause places row →
        client.Holds places row a.groupBy.length (aggregateAlias function a.target)) ∧
      ((∀ {κ ν : Type} (client : Client κ ν) places row, RowOf client clause places row →
          ∀ i name, a.groupBy[i]? = some name → isReservedName (lastPart name) = false →
            client.Holds places row i (lastPart name)) ↔
        ∀ name ∈ a.groupBy, lastPart name ≠ aggregateAlias function a.target) ∧
      ∀ column, a.target = some column → '.' ∈ column.toList →
        ∀ name ∈ a.groupBy, lastPart name ≠ aggregateAlias function a.target := by
  obtain ⟨t, clause, htable, hselect, htext⟩ := select_eq_ok_iff.1 hplan
  obtain ⟨function, hfunction, hplain, hnames, hvalues, hlabels⟩ := plainNames_of_aggregate hselect ha
  have halias := isReservedName_aggregateAlias function a.target
  rw [hplain, List.append_assoc, List.singleton_append] at hnames
  -- What is not reserved is no name of a label.
  have hfree : ∀ name, isReservedName name = false → name ∉ clause.nestedNames := by
    intro name hname hmem
    rw [hlabels name hmem] at hname
    cases hname
  refine ⟨t, clause, function, htable, hselect, htext, hfunction, hvalues, hplain, ?_, ?_, ?_⟩
  · intro κ ν client places row hrow
    exact hrow.holds_aggregate hnames (hfree _ halias)
  · constructor
    · intro hkept name hname heq
      obtain ⟨i, hi, hget⟩ := List.mem_iff_getElem.1 hname
      obtain ⟨row, hrow⟩ := exists_rowOf_nullAt clause i
      have hlength : clause.outputNames.length = a.groupBy.length + 1 + clause.nestedNames.length := by
        simp [hnames]
        omega
      obtain ⟨group, hgroup, hrowGroup⟩ := hkept _ _ row hrow i name
        (List.getElem?_eq_some_iff.2 ⟨hi, hget⟩) (heq ▸ halias)
      obtain ⟨total, htotal, hrowTotal⟩ := hrow.holds_aggregate hnames (hfree _ halias)
      rw [valueAt?_placesNullAt (by omega), if_pos rfl] at hgroup
      rw [valueAt?_placesNullAt (by omega), if_neg (by omega)] at htotal
      rw [heq, hrowTotal, ← Except.ok.inj (Option.some.inj hgroup),
        ← Except.ok.inj (Option.some.inj htotal)] at hrowGroup
      cases hrowGroup
    · intro hapart κ ν client places row hrow i name hname hreserved
      exact hrow.holds_group hnames hgroups hname (hapart name (List.mem_of_getElem? hname))
        (hfree _ hreserved)
  · rintro column hcolumn hpoint name -
    rw [hcolumn]
    exact lastPart_ne_of_point (point_mem_aggregateAlias hpoint)

open Catalog (textRow buildSchema)

def pollTables : List Row :=
  [textRow [("table_name", "polls")]]

/-- One of the columns is called like a function. -/
def pollColumns : List Row :=
  ["title", "count"].map fun column => textRow [("table_name", "polls"), ("column_name", column)]

def pollSchema : Schema :=
  (buildSchema (.mysql "root" "secret" "shop") pollTables pollColumns []).toOption.getD default

/-- How many polls there are for each value of a column. -/
def countBy (column : String) : Aggregate where
  function := "count"
  groupBy := [column]

theorem groups_kept_titles :
    select pollSchema { table := "polls", aggregate := some (countBy "title") } =
        .ok ⟨"SELECT `title`, count(*) AS `count`\nFROM `polls`\nGROUP BY `title`\nLIMIT 300", []⟩ ∧
      ((countBy "title").groupBy.map lastPart).Nodup ∧
      ∃ t clause, selectFrom pollSchema t
          { table := "polls", aggregate := some (countBy "title") } = .ok (clause, []) ∧
        ∀ {κ ν : Type} (client : Client κ ν) places row, RowOf client clause places row →
          client.Holds places row 0 "title" ∧ client.Holds places row 1 "count" := by
  have hplan : select pollSchema { table := "polls", aggregate := some (countBy "title") } =
      .ok ⟨"SELECT `title`, count(*) AS `count`\nFROM `polls`\nGROUP BY `title`\nLIMIT 300", []⟩ :=
    eq_ok_of_toOption (by decide +kernel)
  have hgroups : ((countBy "title").groupBy.map lastPart).Nodup := List.nodup_singleton _
  have htitle : lastPart "title" = "title" := lastPart_of_notMem (by decide)
  obtain ⟨t, clause, function, -, hselect, -, hfunction, -, -, haggregate, hkept, -⟩ :=
    groups_kept_iff hplan rfl hgroups
  have hcount : AggregateFunction.ofText? (countBy "title").function = some .count := by
    decide +kernel
  obtain rfl : .count = function := Option.some.inj (hcount.symm.trans hfunction)
  have hapart : ∀ name ∈ (countBy "title").groupBy, lastPart name ≠ aggregateAlias .count none := by
    intro name hname
    obtain rfl := List.mem_singleton.1 hname
    rw [htitle]
    decide
  refine ⟨hplan, hgroups, t, clause, hselect, fun client places row hrow => ?_⟩
  have htotal := haggregate client places row hrow
  have hgroup := hkept.2 hapart client places row hrow 0 "title" rfl (by rw [htitle]; decide)
  rw [htitle] at hgroup
  exact ⟨hgroup, htotal⟩

/-- Both values go by one name, and the row holds the aggregate alone. -/
theorem group_lost_counts :
    buildSchema (.mysql "root" "secret" "shop") pollTables pollColumns [] = .ok pollSchema ∧
      ((countBy "count").groupBy.map lastPart).Nodup ∧
      select pollSchema { table := "polls", aggregate := some (countBy "count") } =
        .ok ⟨"SELECT `count`, count(*) AS `count`\nFROM `polls`\nGROUP BY `count`\nLIMIT 300", []⟩ ∧
      lastPart "count" = aggregateAlias .count (countBy "count").target ∧
      ∃ row, Mysql.protocol.rowToJson [({ name := "count", kind := .long }, .signed 5),
          ({ name := "count", kind := .longLong }, .signed 2)] = .ok row ∧
        row.cells = [("count", .number (.natural 2))] := by
  have hbuilt : buildSchema (.mysql "root" "secret" "shop") pollTables pollColumns [] =
      .ok pollSchema := eq_ok_getD_of_isSome (by decide +kernel)
  exact ⟨hbuilt, List.nodup_singleton _, eq_ok_of_toOption (by decide +kernel),
    lastPart_of_notMem (by decide), _, rfl, rfl⟩

end TableAtlas.Plan
