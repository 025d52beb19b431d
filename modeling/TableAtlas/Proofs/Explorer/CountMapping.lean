import TableAtlas.Proofs.Catalog.References
import TableAtlas.Proofs.Explorer.Statements
import TableAtlas.Proofs.Row
import TableAtlas.Proofs.Sql.Recovery
import TableAtlas.Proofs.Sql.Scope

/-!
# Mappings of reference counts

The counts of the references to a row come back in one row, and a row has one value under each name. Each
count goes by the table and the column that refer, so two keys of one column to the same table share their
name, and the mapping has one entry for both. Their statements are the same as well, so what the entry
holds is the count of both. The mapping has an entry for each reference just if their names are different
(`counts_of_references`).
-/

namespace TableAtlas

open Program (Source)

/-! ## Names -/

/-- The column that refers, behind its table. -/
def Catalog.ForeignKey.sourceName (k : ForeignKey) : String :=
  k.table ++ "." ++ k.reference.column

namespace Plan

open Sql (Select Entry)

/-- The names of the counts, in the order of the references. -/
def countNames (references : List Reference) : List String :=
  references.map countAlias

theorem nestedNames_countEntries (references : List Reference) :
    Select.nestedNames { entries := references.map countEntry } = countNames references := by
  have hnested (r : Reference) : (countEntry r).nested?.map Prod.snd = some (countAlias r) := rfl
  rw [Select.nestedNames, Select.nested, List.map_filterMap, List.filterMap_map]
  simp only [Function.comp_def, hnested, List.filterMap_eq_map', countNames]

/-- Tables and columns that give one name are the same, unless the name of a table has a point. -/
theorem countEntry_eq_of_countAlias_eq {r r' : Reference} (h : countAlias r = countAlias r')
    (hr : '.' ∉ r.targetTable.toList) (hr' : '.' ∉ r'.targetTable.toList) :
    countEntry r = countEntry r' := by
  have hparts := congrArg Sql.nameParts h
  rw [countAlias, countAlias, Sql.nameParts_append_point hr, Sql.nameParts_append_point hr',
    List.cons_eq_cons] at hparts
  rw [countEntry, countEntry, h, hparts.1, Sql.nameParts_injective hparts.2]

end Plan

/-! ## Counts of a row -/

/-- The value is a count: the number or a numeral of it. -/
inductive Json.IsCount (n : Int64) : Json → Prop
  | number : IsCount n (.number (.ofInt64 n))
  | numeral {s : String} (h : Text.readSigned64 s = some n) : IsCount n (.string s)

theorem Number.toInt64?_ofInt64 (i : Int64) : (ofInt64 i).toInt64? = some i := by
  unfold ofInt64
  split
  · rfl
  · next h =>
    have hle : i.toUInt64.toNat ≤ Int64.maxValue.toInt.toNat := by
      rw [Int64.toNat_toUInt64_of_le (Int64.not_lt.1 h)]
      exact Int.toNat_le_toNat (Int64.toInt_le i)
    exact if_pos hle

theorem Json.IsCount.countOf? {n : Int64} {value : Json} (h : value.IsCount n) :
    TableAtlas.countOf? value = some n := by
  cases h with
  | number => exact Number.toInt64?_ofInt64 n
  | numeral h => exact h

/-- A row with a count under each of the names, and nothing else. -/
structure Row.HoldsCounts (row : Row) (names : List String) (n : String → Int64) : Prop where
  columns : ∀ name, name ∈ row.columns ↔ name ∈ names
  counts : ∀ name ∈ names, ∃ value, row.get? name = some value ∧ value.IsCount (n name)

theorem Row.HoldsCounts.exists_readCounts {row : Row} {names : List String} {n : String → Int64}
    (h : row.HoldsCounts names n) :
    ∃ counts, readCounts row = .ok counts ∧
      ∀ name, counts.get? name = if name ∈ names then some (n name) else none := by
  let pairs := row.cells.map fun cell => (cell.1, n cell.1)
  have hnames : pairs.map Prod.fst = row.columns := by
    rw [List.map_map]
    rfl
  refine ⟨.ofList pairs, ?_, fun name => ?_⟩
  · simp only [readCounts, bind_eq_ok_iff, pure_eq_ok_iff, mapM_eq_ok_iff]
    refine ⟨pairs, ?_, rfl⟩
    rw [List.forall₂_map_right_iff, List.forall₂_same]
    intro cell hcell
    obtain ⟨value, hvalue, hcount⟩ :=
      h.counts cell.1 ((h.columns cell.1).1 (List.mem_map_of_mem hcell))
    rw [Row.get?_of_mem_cells hcell, Option.some_inj] at hvalue
    rw [hvalue, hcount.countOf?]
  · have hdistinct : (pairs.map Prod.fst).Nodup := hnames ▸ row.distinct
    split
    · next hname =>
      rw [SortedMap.get?_ofList_eq_some_iff hdistinct]
      obtain ⟨cell, hcell, rfl⟩ := List.mem_map.1 ((h.columns name).2 hname)
      exact List.mem_map_of_mem (f := fun cell => (cell.1, n cell.1)) hcell
    · next hname =>
      rw [Option.eq_none_iff_forall_ne_some]
      intro count hcount
      rw [SortedMap.get?_ofList_eq_some_iff hdistinct] at hcount
      have hmem : name ∈ row.columns := hnames ▸ List.mem_map_of_mem (f := Prod.fst) hcount
      exact hname ((h.columns name).1 hmem)

/-! ## Counts of references -/

theorem outcome_countReferences {s : Schema} {table rowId : String} {st : Statement} {σ : Type}
    {source : Source σ} {state : σ} {row : Row} {more : List Row}
    (hst : Plan.referenceCount s table rowId = .ok (some st))
    (hanswer : (source.answer state st).1 = .ok (row :: more)) :
    ((countReferences s table rowId).run.run source state).value = readCounts row ∧
      ((countReferences s table rowId).run.run source state).sent = [st] := by
  rw [countReferences, hst, Inquiry.lift_ok_bind, Inquiry.outcome_bind, Inquiry.outcome_fetchRows]
  simp only [hanswer, Except.mapError, Inquiry.outcome_lift, List.append_nil, and_self]

section Built

open Catalog Plan

variable {c : Configuration} {tableRows columnRows referenceRows : List Row} {s : Schema}
  {table : String} {t : Table}

theorem nodup_countNames_iff (h : buildSchema c tableRows columnRows referenceRows = .ok s)
    (ht : s.table? table = some t) :
    (countNames t.referencedBy).Nodup ↔
      (((acceptedKeys s referenceRows).filter fun k => k.reference.targetTable = table).map
        ForeignKey.sourceName).Nodup := by
  have hperm := (perm_reverseReferences (acceptedKeys s referenceRows) table).map ForeignKey.sourceName
  rw [← (references_of_buildSchema h ht).2.1, List.map_map] at hperm
  exact hperm.nodup_iff

/-- The counts of the references to a row go by the columns that refer. A row that holds a count under
each of these names gives a mapping of just these names to their counts. It has as many entries as the
table has references just if the names are different, so if no two keys that point at the table have
columns of one name. Two counts of one name are the same, unless the name of a table has a point. -/
theorem counts_of_references (h : buildSchema c tableRows columnRows referenceRows = .ok s)
    (ht : s.table? table = some t) {rowId : String} {st : Statement}
    (hst : referenceCount s table rowId = .ok (some st)) :
    Sql.Select.text .multiLine { entries := t.referencedBy.map countEntry } = .ok st.sql ∧
    Sql.Select.nestedNames { entries := t.referencedBy.map countEntry } = countNames t.referencedBy ∧
    (∀ {σ : Type} (source : Source σ) (state : σ) (row : Row) (more : List Row) (n : String → Int64),
      (source.answer state st).1 = .ok (row :: more) →
      row.HoldsCounts (countNames t.referencedBy) n →
      ∃ counts, ((countReferences s table rowId).run.run source state).value = .ok counts ∧
        ((countReferences s table rowId).run.run source state).sent = [st] ∧
        (∀ name, counts.get? name =
          if name ∈ countNames t.referencedBy then some (n name) else none) ∧
        (counts.keys.length = t.referencedBy.length ↔ (countNames t.referencedBy).Nodup)) ∧
    ((countNames t.referencedBy).Nodup ↔
      (((acceptedKeys s referenceRows).filter fun k => k.reference.targetTable = table).map
        ForeignKey.sourceName).Nodup) ∧
    ∀ r ∈ t.referencedBy, ∀ r' ∈ t.referencedBy, countAlias r = countAlias r' →
      '.' ∉ r.targetTable.toList → '.' ∉ r'.targetTable.toList → countEntry r = countEntry r' := by
  obtain ⟨t', ht', -, htext, -⟩ := referenceCount_eq_ok_some_iff.1 hst
  obtain rfl : t = t' := Option.some.inj (ht.symm.trans ht')
  refine ⟨htext, nestedNames_countEntries t.referencedBy, ?_, nodup_countNames_iff h ht,
    fun r _ r' _ => countEntry_eq_of_countAlias_eq⟩
  intro σ source state row more n hanswer hrow
  obtain ⟨counts, hcounts, hget⟩ := hrow.exists_readCounts
  obtain ⟨hvalue, hsent⟩ := outcome_countReferences hst hanswer
  have hcontains (name : String) : counts.contains name ↔ name ∈ countNames t.referencedBy := by
    rw [SortedMap.contains, hget]
    split <;> simpa
  have hlength : (countNames t.referencedBy).length = t.referencedBy.length := List.length_map _
  refine ⟨counts, hvalue.trans hcounts, hsent, hget, ?_⟩
  rw [← hlength]
  exact SortedMap.length_keys_eq_iff hcontains

end Built

/-! ## A column that refers to a table by two keys -/

/-- A database that answers with one row, whatever it is asked. -/
def oneRowSource (row : Row) : Source Unit where
  answer state _ := (.ok [row], state)

/-- The rows of keys to columns of the table `users`. -/
def userKeyRows (keys : List (String × String × String)) : List Row :=
  keys.map fun (table, column, target) => Catalog.textRow [("table_name", table),
    ("column_name", column), ("referenced_table_name", "users"), ("referenced_column_name", target)]

def userKeySchema (keys : List (String × String × String)) : Schema :=
  (Catalog.buildSchema (.mysql "root" "secret" "shop") Catalog.orderTables Catalog.orderColumns
    (userKeyRows keys)).toOption.getD default

/-- Orders and people refer to users. -/
def separateKeys : List (String × String × String) :=
  [("orders", "user_id", "id"), ("people", "id", "id")]

/-- Orders refer to users by two keys of one column. -/
def parallelKeys : List (String × String × String) :=
  [("orders", "user_id", "code"), ("orders", "user_id", "id")]

theorem exists_users {keys : List (String × String × String)} (references : List Reference)
    (hbuilt : Catalog.buildSchema (.mysql "root" "secret" "shop") Catalog.orderTables
      Catalog.orderColumns (userKeyRows keys) = .ok (userKeySchema keys))
    (hkeys : ((Catalog.acceptedKeys (userKeySchema keys) (userKeyRows keys)).filter fun k =>
      k.reference.targetTable = "users").map (fun k => k.reference.inverse k.table) = references)
    (hsorted : references.Pairwise fun r r' => Catalog.referenceOrder r r')
    (htable : ((userKeySchema keys).table? "users").isSome) (hsome : references ≠ [])
    (htext : (Sql.Select.text .multiLine
      { entries := references.map Plan.countEntry }).toOption.isSome) :
    ∃ t st, (userKeySchema keys).table? "users" = some t ∧ t.referencedBy = references ∧
      Plan.referenceCount (userKeySchema keys) "users" "1" = .ok (some st) := by
  obtain ⟨t, ht⟩ := Option.isSome_iff_exists.1 htable
  have hlist : t.referencedBy = references := by
    rw [(Catalog.references_of_buildSchema hbuilt ht).2.1, Catalog.reverseReferences, hkeys]
    exact List.mergeSort_of_pairwise hsorted
  subst hlist
  exact ⟨t, ⟨_, _⟩, ht, rfl, Plan.referenceCount_eq_ok_some_iff.2
    ⟨t, ht, hsome, eq_ok_getD_of_isSome htext, rfl⟩⟩

theorem counts_of_references_orders :
    ∃ t st counts,
      Catalog.buildSchema (.mysql "root" "secret" "shop") Catalog.orderTables Catalog.orderColumns
          (userKeyRows separateKeys) = .ok (userKeySchema separateKeys) ∧
        (userKeySchema separateKeys).table? "users" = some t ∧
        Plan.referenceCount (userKeySchema separateKeys) "users" "1" = .ok (some st) ∧
        ((countReferences (userKeySchema separateKeys) "users" "1").run.run (oneRowSource (.ofPairs
          [("orders.user_id", .number (.ofInt64 3)), ("people.id", .string "1")])) ()).value =
            .ok counts ∧
        counts.get? "orders.user_id" = some 3 ∧ counts.get? "people.id" = some 1 ∧
        counts.keys.length = t.referencedBy.length := by
  have hbuilt : Catalog.buildSchema (.mysql "root" "secret" "shop") Catalog.orderTables
      Catalog.orderColumns (userKeyRows separateKeys) = .ok (userKeySchema separateKeys) :=
    eq_ok_getD_of_isSome (by decide +kernel)
  obtain ⟨t, st, ht, hlist, hst⟩ := exists_users
    [⟨"id", "orders", "user_id"⟩, ⟨"id", "people", "id"⟩] hbuilt (by decide +kernel) (by decide +kernel)
    (by decide +kernel) (by decide) (by decide +kernel)
  have hnames : Plan.countNames t.referencedBy = ["orders.user_id", "people.id"] := by
    rw [hlist]
    decide +kernel
  let n (name : String) : Int64 := if name = "people.id" then 1 else 3
  have hrow : Row.HoldsCounts (.ofPairs
      [("orders.user_id", .number (.ofInt64 3)), ("people.id", .string "1")])
      (Plan.countNames t.referencedBy) n := by
    rw [hnames]
    refine ⟨fun name => Iff.rfl, ?_⟩
    simp only [List.forall_mem_cons, List.not_mem_nil, false_implies, implies_true, and_true]
    exact ⟨⟨_, rfl, .number⟩, ⟨_, rfl, .numeral (by decide +kernel)⟩⟩
  obtain ⟨counts, hcounts, -, hget, hlength⟩ :=
    (counts_of_references hbuilt ht hst).2.2.1 (oneRowSource _) () _ [] n rfl hrow
  rw [hnames] at hget hlength
  exact ⟨t, _, counts, hbuilt, ht, hst, hcounts, by rw [hget]; rfl, by rw [hget]; rfl,
    hlength.2 (by decide)⟩

/-- The two counts have the name of the column, and the mapping has one entry for both. -/
theorem countNames_collide_orders :
    ∃ t st counts,
      Catalog.buildSchema (.mysql "root" "secret" "shop") Catalog.orderTables Catalog.orderColumns
          (userKeyRows parallelKeys) = .ok (userKeySchema parallelKeys) ∧
        (userKeySchema parallelKeys).table? "users" = some t ∧
        Plan.referenceCount (userKeySchema parallelKeys) "users" "1" = .ok (some st) ∧
        Plan.countNames t.referencedBy = ["orders.user_id", "orders.user_id"] ∧
        ((countReferences (userKeySchema parallelKeys) "users" "1").run.run
          (oneRowSource (.ofPairs [("orders.user_id", .number (.ofInt64 4))])) ()).value =
            .ok counts ∧
        ¬(Plan.countNames t.referencedBy).Nodup ∧ t.referencedBy.length = 2 ∧
        counts.keys = ["orders.user_id"] := by
  have hbuilt : Catalog.buildSchema (.mysql "root" "secret" "shop") Catalog.orderTables
      Catalog.orderColumns (userKeyRows parallelKeys) = .ok (userKeySchema parallelKeys) :=
    eq_ok_getD_of_isSome (by decide +kernel)
  obtain ⟨t, st, ht, hlist, hst⟩ := exists_users
    [⟨"code", "orders", "user_id"⟩, ⟨"id", "orders", "user_id"⟩] hbuilt (by decide +kernel)
    (by decide +kernel) (by decide +kernel) (by decide) (by decide +kernel)
  have hcounts : (readCounts (.ofPairs [("orders.user_id", .number (.ofInt64 4))])).toOption.map
      SortedMap.keys = some ["orders.user_id"] := by decide +kernel
  obtain ⟨counts, hcounts, hkeys⟩ := Option.map_eq_some_iff.1 hcounts
  refine ⟨t, _, counts, hbuilt, ht, hst, ?_, ?_, ?_, by rw [hlist]; rfl, hkeys⟩
  · rw [hlist]
    decide +kernel
  · exact (outcome_countReferences hst rfl).1.trans (eq_ok_of_toOption hcounts)
  · rw [hlist]
    decide +kernel

end TableAtlas
