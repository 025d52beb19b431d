import TableAtlas.Proofs.Plan.Lookups

/-!
# Names in the rows of a query

The rows of a planned query hold the columns under the last parts of their names, the aggregate under
its alias, and each label under the marker and the name of its column. The marker is refused in the
names of columns and in the names that a query writes, but only at their very beginning: behind a point
it passes, and then a column takes the name of a label (`labels_apart_iff`).
-/

namespace TableAtlas.Plan

open Sql

/-! ## Reserved names -/

theorem isReservedName_marker (column : String) : isReservedName (labelMarker ++ column) := by
  rw [isReservedName, List.isPrefixOf_iff_prefix, String.toList_append]
  exact List.prefix_append _ _

theorem isReservedName_aggregateAlias (function : AggregateFunction) (target : Option String) :
    isReservedName (aggregateAlias function target) = false := by
  cases function <;> cases target <;>
    simp [aggregateAlias, AggregateFunction.word, isReservedName, labelMarker, List.isPrefixOf]

theorem marker_injective : Function.Injective (labelMarker ++ ·) := by
  intro a b h
  have hlist := congrArg String.toList h
  simp only [String.toList_append, List.append_cancel_left_eq] at hlist
  exact String.toList_injective hlist

section Base

variable {s : Schema} {table : String} {t : Table} {q : Query}

theorem isReservedName_of_mem_baseNames (hwell : t.WellFormedIn s table)
    (hcheck : checkNames q = .ok ()) {name : String} (h : name ∈ baseNames t q) :
    isReservedName name = false := by
  rcases baseNames_eq t q with hbase | ⟨-, hbase⟩
  · rw [hbase] at h
    exact checkNames_eq_ok_iff.1 hcheck name (mem_namesOf_of_mem_chosenNames h)
  · rw [hbase, List.mem_map] at h
    obtain ⟨c, hc, rfl⟩ := h
    obtain ⟨column, hcolumn⟩ := mem_columnsByOrdinal.1 hc
    have hname := hwell.notReserved column c hcolumn
    rw [isReservedName, ← Bool.not_eq_true, List.isPrefixOf_iff_prefix]
    exact hname

/-- The columns of a table have different names, so a statement about all of them repeats none. -/
theorem nodup_baseNames (hwell : t.WellFormedIn s table) (h : (chosenNames q).Nodup) :
    (baseNames t q).Nodup := by
  rcases baseNames_eq t q with hbase | ⟨-, hbase⟩
  · exact hbase ▸ h
  · have hkeys : t.columns.values.map Column.name = t.columns.keys := by
      rw [SortedMap.values, SortedMap.keys, List.map_map]
      refine List.map_congr_left fun entry hentry => ?_
      exact hwell.columnName entry.1 entry.2 (SortedMap.mem_entries_iff.1 hentry)
    have hperm : (t.columnsByOrdinal.map Column.name).Perm t.columns.keys := by
      rw [← hkeys]
      exact (List.mergeSort_perm _ _).map _
    rw [hbase]
    exact hperm.nodup_iff.2 t.columns.nodup_keys

end Base

/-! ## Names of the values -/

section Names

variable {s : Schema} {t : Table} {q : Query} {aggregate : List Entry} {conditions : List Condition}

theorem filterMap_mapIdx_eq_map {α β γ : Type} (as : List α) {f : Nat → α → β} {g : β → Option γ}
    {h : α → γ} (hfg : ∀ i a, g (f i a) = some (h a)) : (as.mapIdx f).filterMap g = as.map h := by
  rw [List.mapIdx_eq_zipIdx_map, List.filterMap_map]
  conv_rhs => rw [← List.zipIdx_map_fst 0 as, List.map_map, ← List.filterMap_eq_map]
  exact List.filterMap_congr fun pair _ => hfg pair.2 pair.1

theorem outputNames_columns (names : List String) :
    (names.map Entry.column).filterMap Entry.outputName? = names.map lastPart := by
  rw [List.filterMap_map, ← List.filterMap_eq_map]
  rfl

theorem outputNames_labelLookups (names : List String) :
    (labelLookups s t names).filterMap Entry.outputName? =
      (names.filterMap (labelled? s t)).map fun found => labelMarker ++ found.1.column := by
  rw [labelLookups]
  exact filterMap_mapIdx_eq_map _ fun _ _ => rfl

theorem nestedNames_clausesOf (haggregate : aggregateEntries q = .ok aggregate) :
    (clausesOf s t q aggregate conditions).nestedNames =
      ((baseNames t q).filterMap (labelled? s t)).map fun found => labelMarker ++ found.1.column := by
  rw [Select.nestedNames, nested_clausesOf haggregate, ← List.filterMap_eq_map]
  exact filterMap_mapIdx_eq_map _ fun _ _ => rfl

theorem plainNames_clausesOf (haggregate : aggregateEntries q = .ok aggregate) :
    (clausesOf s t q aggregate conditions).plainNames =
      (baseNames t q).map lastPart ++ aggregate.filterMap Entry.outputName? := by
  have hcolumns : ((baseNames t q).map Entry.column).filter (fun entry => entry.nested?.isNone) =
      (baseNames t q).map Entry.column := by
    rw [List.filter_eq_self]
    intro entry hentry
    obtain ⟨name, -, rfl⟩ := List.mem_map.1 hentry
    rfl
  have hself : aggregate.filter (fun entry => entry.nested?.isNone) = aggregate := by
    rcases aggregateEntries_cases haggregate with ⟨-, rfl⟩ | ⟨_, _, _, -, -, rfl⟩
    · rfl
    · rfl
  have hlookups : (labelLookups s t (baseNames t q)).filter (fun entry => entry.nested?.isNone) =
      [] := by
    rw [List.filter_eq_nil_iff]
    intro entry hentry
    simp only [labelLookups, List.mem_mapIdx] at hentry
    obtain ⟨i, hi, rfl⟩ := hentry
    simp [labelLookup, Entry.nested?]
  rw [Select.plainNames, clausesOf, List.filter_append, List.filter_append, hcolumns, hself,
    hlookups, List.append_nil, List.filterMap_append, outputNames_columns]

theorem outputNames_clausesOf (haggregate : aggregateEntries q = .ok aggregate) :
    (clausesOf s t q aggregate conditions).outputNames =
      (clausesOf s t q aggregate conditions).plainNames ++
        (clausesOf s t q aggregate conditions).nestedNames := by
  rw [plainNames_clausesOf haggregate, nestedNames_clausesOf haggregate, Select.outputNames,
    clausesOf, List.filterMap_append, List.filterMap_append, outputNames_columns,
    outputNames_labelLookups]

theorem length_outputNames_clausesOf (haggregate : aggregateEntries q = .ok aggregate) :
    (clausesOf s t q aggregate conditions).outputNames.length =
      (clausesOf s t q aggregate conditions).entries.length := by
  have hsame : (aggregate.filterMap Entry.outputName?).length = aggregate.length := by
    rcases aggregateEntries_cases haggregate with ⟨-, rfl⟩ | ⟨_, _, _, -, -, rfl⟩
    · rfl
    · rfl
  rw [outputNames_clausesOf haggregate, plainNames_clausesOf haggregate,
    nestedNames_clausesOf haggregate]
  simp [clausesOf, labelLookups, hsame]

theorem labelNames_eq {table : String} (hwell : t.WellFormedIn s table) (names : List String) :
    ((names.filterMap (labelled? s t)).map fun found => labelMarker ++ found.1.column) =
      (names.filter fun name => (labelled? s t name).isSome).map (labelMarker ++ ·) := by
  induction names with
  | nil => rfl
  | cons name names ih =>
    cases hname : labelled? s t name with
    | none =>
      rw [List.filterMap_cons_none hname, ih]
      simp [hname]
    | some found =>
      obtain ⟨c, target, hc, hr, -, -⟩ := labelled?_eq_some_iff.1 hname
      have hcolumn : found.1.column = name := (hwell.refersTo name c found.1 hc hr).1
      rw [List.filterMap_cons_some hname, List.map_cons, ih, hcolumn]
      simp [hname]

end Names

/-! ## Labels and other values -/

/-- The labels of a planned query over a built schema that chooses no name twice. A row has them under
the marker and the names of their columns, no two under one name. They differ from the names of all
other values just if no chosen name ends, behind a point, in the marker and a column whose label is
looked up: a name that begins with the marker is refused, be it chosen or that of a column. -/
theorem labels_apart_iff {c : Configuration} {tableRows columnRows referenceRows : List Row}
    {s : Schema} {q : Query} {st : Statement}
    (hbuilt : Catalog.buildSchema c tableRows columnRows referenceRows = .ok s)
    (hplan : select s q = .ok st) (hchosen : (chosenNames q).Nodup) :
    ∃ t clause, s.table? q.table = some t ∧ selectFrom s t q = .ok (clause, st.params) ∧
      clause.text .multiLine = .ok st.sql ∧
      clause.nestedNames = ((baseNames t q).filter fun name => (labelled? s t name).isSome).map
        (labelMarker ++ ·) ∧
      clause.nestedNames.Nodup ∧
      ((∀ label ∈ clause.nestedNames, label ∉ clause.plainNames) ↔
        ∀ column ∈ baseNames t q, (labelled? s t column).isSome →
          ∀ name ∈ baseNames t q, '.' ∈ name.toList → lastPart name ≠ labelMarker ++ column) := by
  obtain ⟨t, clause, htable, hselect, htext⟩ := select_eq_ok_iff.1 hplan
  have hwell := Catalog.wellFormed_of_buildSchema hbuilt q.table t htable
  obtain ⟨hcheck, aggregate, filters, haggregate, -, hclause, -⟩ := selectFrom_eq_ok_iff.1 hselect
  have hnested : clause.nestedNames =
      ((baseNames t q).filter fun name => (labelled? s t name).isSome).map (labelMarker ++ ·) := by
    rw [hclause, nestedNames_clausesOf haggregate, labelNames_eq hwell]
  have hplain : clause.plainNames =
      (baseNames t q).map lastPart ++ aggregate.filterMap Entry.outputName? := by
    rw [hclause, plainNames_clausesOf haggregate]
  -- No aggregate goes by the name of a label.
  have hreserved : ∀ column, labelMarker ++ column ∉ aggregate.filterMap Entry.outputName? := by
    intro column hmem
    rcases aggregateEntries_cases haggregate with ⟨-, rfl⟩ | ⟨a, function, _, -, -, rfl⟩
    · exact absurd hmem List.not_mem_nil
    · have heq : labelMarker ++ column = aggregateAlias function a.target := by
        simpa [Entry.outputName?] using hmem
      have hmarker := isReservedName_marker column
      rw [heq, isReservedName_aggregateAlias] at hmarker
      cases hmarker
  refine ⟨t, clause, htable, hselect, htext, hnested, ?_, ?_⟩
  · rw [hnested]
    exact ((nodup_baseNames hwell hchosen).filter _).map marker_injective
  · rw [hnested, hplain]
    constructor
    · intro hapart column hcolumn hlabel name hname _ heq
      refine hapart (labelMarker ++ column) (List.mem_map.2 ⟨column, ?_, rfl⟩) ?_
      · exact List.mem_filter.2 ⟨hcolumn, hlabel⟩
      · exact List.mem_append_left _ (List.mem_map.2 ⟨name, hname, heq⟩)
    · intro hends label hlabel hmem
      obtain ⟨column, hcolumn, rfl⟩ := List.mem_map.1 hlabel
      obtain ⟨hcolumn, hlabelled⟩ := List.mem_filter.1 hcolumn
      rcases List.mem_append.1 hmem with hmem | hmem
      · obtain ⟨name, hname, heq⟩ := List.mem_map.1 hmem
        by_cases hpoint : '.' ∈ name.toList
        · exact hends column hcolumn hlabelled name hname hpoint heq
        · -- A name without a point is its own last part, and the marker would have been refused.
          rw [lastPart_of_notMem hpoint] at heq
          have hfree := isReservedName_of_mem_baseNames hwell hcheck hname
          rw [heq, isReservedName_marker] at hfree
          cases hfree
      · exact hreserved column hmem

open Catalog (buildSchema)

theorem labels_apart_orders :
    buildSchema (.mysql "root" "secret" "shop") (userTables "orders") (userColumns "orders")
        (userReferences "orders") = .ok (userSchema "orders") ∧
      (chosenNames { table := "orders", columns := some ["orders.user", "user"] }).Nodup ∧
      ∃ st, select (userSchema "orders") { table := "orders", columns := some ["orders.user", "user"] } =
          .ok st ∧
        ∃ t clause, selectFrom (userSchema "orders") t
            { table := "orders", columns := some ["orders.user", "user"] } = .ok (clause, st.params) ∧
          clause.nestedNames.Nodup ∧ ∀ label ∈ clause.nestedNames, label ∉ clause.plainNames := by
  have hbuilt : buildSchema (.mysql "root" "secret" "shop") (userTables "orders")
      (userColumns "orders") (userReferences "orders") = .ok (userSchema "orders") :=
    eq_ok_getD_of_isSome (by decide +kernel)
  have hplan : select (userSchema "orders")
      { table := "orders", columns := some ["orders.user", "user"] } = .ok
        ⟨"SELECT `orders`.`user`, `user`, (SELECT `t1`.`name` FROM `users` `t1` WHERE `t1`.`name` = " ++
          "`orders`.`user`) AS `$label$user`\nFROM `orders`\nLIMIT 300", []⟩ :=
    eq_ok_of_toOption (by decide +kernel)
  have hchosen : (chosenNames { table := "orders", columns := some ["orders.user", "user"] }).Nodup := by
    decide
  obtain ⟨t, clause, -, hselect, -, -, hnodup, hapart⟩ := labels_apart_iff hbuilt hplan hchosen
  refine ⟨hbuilt, hchosen, _, hplan, t, clause, hselect, hnodup, hapart.2 ?_⟩
  intro column _ _ name hname hpoint heq
  have hbase : name ∈ ["orders.user", "user"] := hname
  have hlast : lastPart name = "user" := by
    rcases List.mem_cons.1 hbase with rfl | hbase
    · decide +kernel
    · obtain rfl := List.mem_singleton.1 hbase
      decide +kernel
  have hhead := congrArg (fun word => word.toList.head?) (hlast.symm.trans heq)
  simp [labelMarker] at hhead

/-- Behind a point the marker passes, and the column takes the name of the label. -/
theorem label_taken_orders :
    buildSchema (.mysql "root" "secret" "shop") (userTables "orders") (userColumns "orders")
        (userReferences "orders") = .ok (userSchema "orders") ∧
      (chosenNames { table := "orders", columns := some ["user", "orders.$label$user"] }).Nodup ∧
      select (userSchema "orders")
          { table := "orders", columns := some ["user", "orders.$label$user"] } = .ok
        ⟨"SELECT `user`, `orders`.`$label$user`, (SELECT `t1`.`name` FROM `users` `t1` WHERE " ++
          "`t1`.`name` = `orders`.`user`) AS `$label$user`\nFROM `orders`\nLIMIT 300", []⟩ ∧
      ∃ t clause, (userSchema "orders").table? "orders" = some t ∧
        selectFrom (userSchema "orders") t
            { table := "orders", columns := some ["user", "orders.$label$user"] } =
          .ok (clause, []) ∧
        clause.plainNames = ["user", "$label$user"] ∧ clause.nestedNames = ["$label$user"] := by
  have hbuilt : buildSchema (.mysql "root" "secret" "shop") (userTables "orders")
      (userColumns "orders") (userReferences "orders") = .ok (userSchema "orders") :=
    eq_ok_getD_of_isSome (by decide +kernel)
  have hseen : ((userSchema "orders").table? "orders").bind (fun t =>
      (selectFrom (userSchema "orders") t
          { table := "orders", columns := some ["user", "orders.$label$user"] }).toOption.map
        fun planned => (planned.2, planned.1.plainNames, planned.1.nestedNames)) =
      some ([], ["user", "$label$user"], ["$label$user"]) := by decide +kernel
  obtain ⟨t, htable, hseen⟩ := Option.bind_eq_some_iff.1 hseen
  obtain ⟨⟨clause, params⟩, hselect, hseen⟩ := Option.map_eq_some_iff.1 hseen
  simp only [Prod.mk.injEq] at hseen
  obtain ⟨rfl, hplain, hnested⟩ := hseen
  exact ⟨hbuilt, by decide, eq_ok_of_toOption (by decide +kernel), t, clause, htable,
    eq_ok_of_toOption hselect, hplain, hnested⟩

end TableAtlas.Plan
