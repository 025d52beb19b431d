import TableAtlas.Proofs.Catalog.WellFormed
import TableAtlas.Proofs.Plan.Planning
import TableAtlas.Proofs.Sql.Scope
import TableAtlas.Proofs.Sql.Token

/-!
# Label look-ups

A planned query looks up the label of each row that is referred to in a nested statement, and there
the row of the outer table is meant by the column that refers. The nested statement names its table
`t1`, `t2`, and so on, while the outer table keeps its own name. So no two look-ups share an alias, but
a table called `t1` is hidden from its first look-up (`lookups_of_select`).
-/

namespace TableAtlas.Plan

open Sql

/-! ## Aliases -/

theorem lookupAlias_injective : Function.Injective lookupAlias := by
  intro m n h
  exact Word.repr_injective (by simpa [lookupAlias, Nat.toString_eq_repr] using h)

/-- The aliases of so many look-ups. -/
def lookupAliases (count : Nat) : List String :=
  (List.range count).map fun i => lookupAlias (i + 1)

theorem nodup_lookupAliases (count : Nat) : (lookupAliases count).Nodup := by
  refine List.nodup_range.map fun m n h => ?_
  exact Nat.succ.inj (lookupAlias_injective h)

/-! ## The nested statements of a planned query -/

/-- A column that is qualified by the name of its table. -/
def qualified (table column : String) : Fragment :=
  .name table :: Fragment.plain "." ++ [.name column]

/-- The nested statement of a look-up. -/
def lookupSelect (t : Table) (number : Nat) (reference : Reference) (label : String) : Select where
  source := some (.aliased reference.targetTable (lookupAlias number))
  entries := [.column (lookupAlias number ++ "." ++ label)]
  conditions := [⟨lookupAlias number ++ "." ++ reference.targetColumn, "=",
    some (qualified t.name reference.column)⟩]

section Nested

variable {s : Schema} {t : Table} {q : Query} {aggregate : List Entry}

theorem nested_clausesOf (haggregate : aggregateEntries q = .ok aggregate)
    (conditions : List Condition) :
    (clausesOf s t q aggregate conditions).nested =
      ((baseNames t q).filterMap (labelled? s t)).mapIdx fun i found =>
        (lookupSelect t (i + 1) found.1 found.2, labelMarker ++ found.1.column) := by
  have hcolumns : ((baseNames t q).map Entry.column).filterMap Entry.nested? = [] := by
    simp [Entry.nested?]
  have hnone : aggregate.filterMap Entry.nested? = [] := by
    rcases aggregateEntries_cases haggregate with ⟨-, rfl⟩ | ⟨_, _, _, -, -, rfl⟩
    · rfl
    · rfl
  have hlookups : (labelLookups s t (baseNames t q)).filterMap Entry.nested? =
      ((baseNames t q).filterMap (labelled? s t)).mapIdx fun i found =>
        (lookupSelect t (i + 1) found.1 found.2, labelMarker ++ found.1.column) := by
    rw [labelLookups, List.mapIdx_eq_zipIdx_map, List.mapIdx_eq_zipIdx_map, List.filterMap_map,
      ← List.filterMap_eq_map]
    rfl
  rw [Select.nested, clausesOf, List.filterMap_append, List.filterMap_append, hcolumns, hnone,
    hlookups]
  rfl

theorem labelled?_eq_some_iff {name label : String} {r : Reference} :
    labelled? s t name = some (r, label) ↔
      ∃ column target, t.columns.get? name = some column ∧ column.refersTo = some r ∧
        s.table? r.targetTable = some target ∧ target.labelColumn = some label := by
  simp only [labelled?, Option.bind_eq_bind, Option.bind_eq_some_iff, Option.pure_def,
    Option.some.injEq, Prod.mk.injEq]
  constructor
  · rintro ⟨column, hcolumn, _, hr, target, htarget, _, hlabel, rfl, rfl⟩
    exact ⟨column, target, hcolumn, hr, htarget, hlabel⟩
  · rintro ⟨column, target, hcolumn, hr, htarget, hlabel⟩
    exact ⟨column, hcolumn, r, hr, target, htarget, label, hlabel, rfl, rfl⟩

end Nested

/-! ## Which row a look-up is about -/

/-- In a look-up, the name of the outer table means the outer table just if the alias is another name
and the name is a single part; if the alias is the same name, it means the table looked into. -/
theorem scope_lookupSelect (t : Table) (number : Nat) (reference : Reference) (label : String) :
    (scopeOf? (lookupSelect t number reference label).source (some (.table t.name)) t.name =
        some .outer ↔ t.name ≠ lookupAlias number ∧ '.' ∉ t.name.toList) ∧
      (scopeOf? (lookupSelect t number reference label).source (some (.table t.name)) t.name =
        some .inner ↔ t.name = lookupAlias number) := by
  have halias : (Source.aliased reference.targetTable (lookupAlias number)).exposedName =
      lookupAlias number := rfl
  simp only [scopeOf?, lookupSelect, Option.map_some, Option.some.injEq, halias,
    ← exposedName_table_eq_iff]
  by_cases hsame : lookupAlias number = t.name
  · simp [hsame]
  · by_cases hown : (Source.table t.name).exposedName = t.name
    · simp [hsame, Ne.symm hsame, hown]
    · simp [hsame, Ne.symm hsame, hown]

/-- The names that the nested statements of a statement give to their tables. -/
def nestedAliases (clause : Select) : List String :=
  clause.nested.filterMap fun lookup => lookup.1.source.map Source.exposedName

theorem nestedAliases_clausesOf {s : Schema} {t : Table} {q : Query} {aggregate : List Entry}
    (haggregate : aggregateEntries q = .ok aggregate) (conditions : List Condition) :
    nestedAliases (clausesOf s t q aggregate conditions) =
      lookupAliases (clausesOf s t q aggregate conditions).nested.length := by
  rw [nestedAliases, lookupAliases, nested_clausesOf haggregate, List.length_mapIdx]
  generalize (baseNames t q).filterMap (labelled? s t) = found
  rw [List.mapIdx_eq_zipIdx_map, List.filterMap_map, List.range_eq_range', ← List.zipIdx_map_snd 0 found,
    List.map_map, ← List.filterMap_eq_map]
  rfl

/-- The look-ups of a planned query over a built schema. Each compares the column of its table that a
reference points at with the column that refers, qualified by the name of the outer table. The
aliases are pairwise distinct, and they all differ from the name of the table just if it is none of
`t1`, `t2`, ..., as many as there are look-ups; the look-up whose alias is the name of the table
compares a row of the table looked into with itself. -/
theorem lookups_of_select {c : Configuration} {tableRows columnRows referenceRows : List Row}
    {s : Schema} {q : Query} {st : Statement}
    (hbuilt : Catalog.buildSchema c tableRows columnRows referenceRows = .ok s)
    (hplan : select s q = .ok st) :
    ∃ t clause, s.table? q.table = some t ∧ selectFrom s t q = .ok (clause, st.params) ∧
      clause.text .multiLine = .ok st.sql ∧ clause.source = some (.table q.table) ∧
      nestedAliases clause = lookupAliases clause.nested.length ∧ (nestedAliases clause).Nodup ∧
      ((∀ asName ∈ nestedAliases clause, asName ≠ q.table) ↔
        ∀ i < clause.nested.length, q.table ≠ lookupAlias (i + 1)) ∧
      ∀ i lookup, clause.nested[i]? = some lookup →
        ∃ r column, r.column ∈ baseNames t q ∧ t.columns.get? r.column = some column ∧
          column.refersTo = some r ∧
          lookup.1.source = some (.aliased r.targetTable (lookupAlias (i + 1))) ∧
          lookup.1.conditions = [⟨lookupAlias (i + 1) ++ "." ++ r.targetColumn, "=",
            some (qualified q.table r.column)⟩] ∧
          (scopeOf? lookup.1.source clause.source q.table = some .outer ↔
            q.table ≠ lookupAlias (i + 1) ∧ '.' ∉ q.table.toList) ∧
          (scopeOf? lookup.1.source clause.source q.table = some .inner ↔
            q.table = lookupAlias (i + 1)) := by
  obtain ⟨t, clause, htable, hselect, htext⟩ := select_eq_ok_iff.1 hplan
  have hwell := Catalog.wellFormed_of_buildSchema hbuilt q.table t htable
  have hname : t.name = q.table := hwell.name
  obtain ⟨-, aggregate, filters, haggregate, -, hclause, -⟩ := selectFrom_eq_ok_iff.1 hselect
  have hsource : clause.source = some (.table q.table) := by rw [hclause, ← hname]; rfl
  have haliases : nestedAliases clause = lookupAliases clause.nested.length := by
    rw [hclause]
    exact nestedAliases_clausesOf haggregate _
  have hnested : clause.nested = ((baseNames t q).filterMap (labelled? s t)).mapIdx fun i found =>
      (lookupSelect t (i + 1) found.1 found.2, labelMarker ++ found.1.column) := by
    rw [hclause]
    exact nested_clausesOf haggregate _
  refine ⟨t, clause, htable, hselect, htext, hsource, haliases, ?_, ?_, fun i lookup hlookup => ?_⟩
  · rw [haliases]
    exact nodup_lookupAliases _
  · rw [haliases, lookupAliases]
    simp only [List.mem_map, List.mem_range, forall_exists_index, and_imp,
      forall_apply_eq_imp_iff₂, ne_comm]
  · rw [hnested, List.getElem?_mapIdx, Option.map_eq_some_iff] at hlookup
    obtain ⟨⟨r, label⟩, hfound, rfl⟩ := hlookup
    obtain ⟨name, hbase, hlabelled⟩ := List.mem_filterMap.1 (List.mem_of_getElem? hfound)
    obtain ⟨column, target, hcolumn, hr, -, -⟩ := labelled?_eq_some_iff.1 hlabelled
    -- The reference of a column of a built schema names that column.
    obtain ⟨rfl, -⟩ := hwell.refersTo name column r hcolumn hr
    have hscope := scope_lookupSelect t (i + 1) r label
    rw [hname] at hscope
    refine ⟨r, column, hbase, hcolumn, hr, rfl, ?_, ?_⟩
    · rw [← hname]
      rfl
    · rw [hsource]
      exact hscope

/-! ## A table called like an alias -/

open Catalog (textRow buildSchema)

def userTables (table : String) : List Row :=
  ["users", table].map fun name => textRow [("table_name", name)]

def userColumns (table : String) : List Row :=
  [("users", "name"), (table, "user")].map fun (table, column) =>
    textRow [("table_name", table), ("column_name", column)]

/-- The user of a row is told by name. -/
def userReferences (table : String) : List Row :=
  [textRow [("table_name", table), ("column_name", "user"), ("referenced_table_name", "users"),
    ("referenced_column_name", "name")]]

def userSchema (table : String) : Schema :=
  (buildSchema (.mysql "root" "secret" "shop") (userTables table) (userColumns table)
    (userReferences table)).toOption.getD default

theorem lookups_of_select_orders :
    buildSchema (.mysql "root" "secret" "shop") (userTables "orders") (userColumns "orders")
        (userReferences "orders") = .ok (userSchema "orders") ∧
      ∃ st, select (userSchema "orders") (.ofTable "orders") = .ok st ∧
        ∃ t clause, selectFrom (userSchema "orders") t (.ofTable "orders") = .ok (clause, st.params) ∧
          (nestedAliases clause).Nodup ∧ ∀ asName ∈ nestedAliases clause, asName ≠ "orders" := by
  have hbuilt : buildSchema (.mysql "root" "secret" "shop") (userTables "orders")
      (userColumns "orders") (userReferences "orders") = .ok (userSchema "orders") :=
    eq_ok_getD_of_isSome (by decide +kernel)
  have hplan : select (userSchema "orders") (.ofTable "orders") = .ok
      ⟨"SELECT `user`, (SELECT `t1`.`name` FROM `users` `t1` WHERE `t1`.`name` = " ++
        "`orders`.`user`) AS `$label$user`\nFROM `orders`\nLIMIT 300", []⟩ :=
    eq_ok_of_toOption (by decide +kernel)
  obtain ⟨t, clause, -, hselect, -, -, -, hnodup, hother, -⟩ := lookups_of_select hbuilt hplan
  refine ⟨hbuilt, _, hplan, t, clause, hselect, hnodup, hother.2 fun i _ heq => ?_⟩
  have hhead := congrArg (fun name => name.toList.head?) heq
  simp [lookupAlias, Query.ofTable] at hhead

/-- The look-up of the label compares the user with itself: the alias is the name of the table, and
the column that refers is taken for a column of the users. -/
theorem captured_lookup_t1 :
    buildSchema (.mysql "root" "secret" "shop") (userTables "t1") (userColumns "t1")
        (userReferences "t1") = .ok (userSchema "t1") ∧
      select (userSchema "t1") (.ofTable "t1") = .ok
        ⟨"SELECT `user`, (SELECT `t1`.`name` FROM `users` `t1` WHERE `t1`.`name` = " ++
          "`t1`.`user`) AS `$label$user`\nFROM `t1`\nLIMIT 300", []⟩ ∧
      ∃ t clause, (userSchema "t1").table? "t1" = some t ∧
        selectFrom (userSchema "t1") t (.ofTable "t1") = .ok (clause, []) ∧
        ¬(∀ asName ∈ nestedAliases clause, asName ≠ "t1") ∧
        clause.nested.map (fun lookup => scopeOf? lookup.1.source clause.source "t1") =
          [some .inner] := by
  have hbuilt : buildSchema (.mysql "root" "secret" "shop") (userTables "t1") (userColumns "t1")
      (userReferences "t1") = .ok (userSchema "t1") := eq_ok_getD_of_isSome (by decide +kernel)
  have hseen : ((userSchema "t1").table? "t1").bind (fun t =>
      (selectFrom (userSchema "t1") t (.ofTable "t1")).toOption.map fun planned =>
        (planned.2, nestedAliases planned.1, planned.1.nested.map fun lookup =>
          scopeOf? lookup.1.source planned.1.source "t1")) =
      some ([], ["t1"], [some .inner]) := by decide +kernel
  obtain ⟨t, htable, hseen⟩ := Option.bind_eq_some_iff.1 hseen
  obtain ⟨⟨clause, params⟩, hselect, hseen⟩ := Option.map_eq_some_iff.1 hseen
  simp only [Prod.mk.injEq] at hseen
  obtain ⟨rfl, haliases, hscopes⟩ := hseen
  refine ⟨hbuilt, eq_ok_of_toOption (by decide +kernel), t, clause, htable,
    eq_ok_of_toOption hselect, fun hother => ?_, hscopes⟩
  exact hother "t1" (by simp [haliases]) rfl

end TableAtlas.Plan
