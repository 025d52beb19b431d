import TableAtlas.Proofs.Catalog.Numbers
import TableAtlas.Proofs.Catalog.Pass
import TableAtlas.Proofs.Catalog.WellFormed

/-!
# Exact row counts

A pass takes the row counts of a catalog for estimates. The tables whose estimate is small or missing
it counts itself, with one statement that has a value for each of them under its name, and no statement
if there is no such table. What the statement gives goes to the tables that were asked for, and nothing
else in the schema changes (`recounted_of_reflect`).
-/

namespace TableAtlas

open Program (Activity Source)

/-! ## Small tables -/

namespace Catalog

section Small

variable {s : Schema} (hwell : s.WellFormed)
include hwell

theorem smallTables_eq :
    smallTables s = (s.tables.entries.filter fun entry => isSmall entry.2).map Prod.fst := by
  rw [smallTables, SortedMap.values, List.filter_map, List.map_map]
  refine List.map_congr_left ?_
  rintro ⟨table, t⟩ hentry
  exact (hwell table t (SortedMap.mem_entries_iff.1 (List.mem_filter.1 hentry).1)).name

theorem pairwise_smallTables : (smallTables s).Pairwise (· < ·) := by
  rw [smallTables_eq hwell, List.pairwise_map]
  exact s.tables.ascending.filter _

theorem mem_smallTables_iff {table : String} :
    table ∈ smallTables s ↔
      ∃ t, s.table? table = some t ∧ ∀ n, t.size.rows = some n → n < exactBelow := by
  have hsmall : ∀ t, isSmall t ↔ ∀ n, t.size.rows = some n → n < exactBelow := by
    intro t
    cases hrows : t.size.rows with
    | none => simp [isSmall, hrows, exactBelow]
    | some n => simp [isSmall, hrows]
  rw [smallTables_eq hwell, List.mem_map]
  simp only [List.mem_filter, SortedMap.mem_entries_iff, Prod.exists, hsmall, exists_and_right,
    exists_eq_right, Schema.table?]

end Small

end Catalog

/-! ## Counted tables -/

/-- The rows of a table that is estimated at `estimate`: as many as the cell under its name gives, or the
estimate if there is no cell that gives a number. -/
inductive Row.Counts (row : Row) (table : String) (estimate : Option UInt64) : Option UInt64 → Prop
  | given {value : Json} {n : UInt64} (hcell : row.get? table = some value) (h : value.Gives n) :
    Counts row table estimate (some n)
  | estimated (h : ∀ value n, row.get? table = some value → ¬value.Gives n) :
    Counts row table estimate estimate

theorem Row.counts_cellNatural? (row : Row) (table : String) (estimate : Option UInt64) :
    row.Counts table estimate ((row.get? table).bind Json.cellNatural? <|> estimate) := by
  cases hcount : (row.get? table).bind Json.cellNatural? with
  | some n =>
    obtain ⟨value, hcell, hvalue⟩ := Option.bind_eq_some_iff.1 hcount
    exact .given hcell (Json.cellNatural?_eq_some_iff.1 hvalue)
  | none =>
    refine .estimated fun value n hcell hgives => ?_
    rw [hcell, Option.bind_some, Json.cellNatural?_eq_some_iff.2 hgives] at hcount
    cases hcount

theorem Row.get?_eq_none_of_notMem {row : Row} {name : String} (h : name ∉ row.columns) :
    row.get? name = none := by
  rw [Row.get?, Option.map_eq_none_iff, List.find?_eq_none]
  intro cell hcell hname
  exact h (List.mem_map.2 ⟨cell, hcell, of_decide_eq_true hname⟩)

/-- The schema with other row counts for some of its tables. -/
def Schema.withRows (s : Schema) (tables : List String) (rows : String → Option UInt64) : Schema :=
  { s with tables := s.tables.map fun table t =>
      if table ∈ tables then { t with size := { t.size with rows := rows table } } else t }

namespace Catalog

theorem exists_applyCounts_eq {s : Schema} {tables : List String} {row : Row}
    (hcolumns : ∀ name ∈ row.columns, name ∈ tables) :
    ∃ rows, applyCounts s row = s.withRows tables rows ∧
      ∀ table t, s.table? table = some t → row.Counts table t.size.rows (rows table) := by
  refine ⟨fun table => (row.get? table).bind Json.cellNatural? <|>
    (s.table? table).bind fun t => t.size.rows, ?_, ?_⟩
  · have htables : (applyCounts s row).tables = (s.withRows tables fun table =>
        (row.get? table).bind Json.cellNatural? <|>
          (s.table? table).bind fun t => t.size.rows).tables := by
      rw [applyCounts_eq]
      refine SortedMap.ext fun table => ?_
      simp only [Schema.withRows, SortedMap.get?_map]
      refine Option.map_congr fun t ht => ?_
      have ht : s.table? table = some t := ht
      split
      · rw [ht]
        rfl
      · next hother =>
        rw [Row.get?_eq_none_of_notMem fun hmem => hother (hcolumns table hmem)]
        rfl
    exact congrArg (fun tables => { s with tables }) htables
  · intro table t ht
    simp only [ht, Option.bind_some]
    exact row.counts_cellNatural? table t.size.rows

/-- The statement has one value for each of the tables, the count of its rows under its name. -/
structure CountsRows (tables : List String) (st : Statement) : Prop where
  text : Sql.Select.text .multiLine
    { entries := tables.map fun table =>
        .subselect { source := some (.table table), entries := [.countAll] } table } = .ok st.sql
  params : st.params = []

/-- What a pass sends for the schema that its listings describe, with the reply, and the schema that it
ends with. -/
inductive Recounted (built : Schema) : List (Statement × Reply) → Schema → Prop
  | unneeded (h : smallTables built = []) : Recounted built [] built
  | counted {st : Statement} {row : Row} {more : List Row} {s : Schema}
    (hsmall : smallTables built ≠ []) (hst : CountsRows (smallTables built) st)
    (hs : (∀ name ∈ row.columns, name ∈ smallTables built) →
      ∃ rows, s = built.withRows (smallTables built) rows ∧
        ∀ table t, built.table? table = some t → row.Counts table t.size.rows (rows table)) :
    Recounted built [(st, .ok (row :: more))] s

/-- A pass that ends well once its listings are answered has counted what it had to. -/
theorem recounted_of_completion {c : Configuration} {rows : Listing → List Row}
    {later : List (Statement × Reply)} {s : Schema} (h : Completion c rows later (.ok s)) :
    ∃ built, buildSchema c (rows .tables) (rows .columns) (rows .references) = .ok built ∧
      Recounted built later s := by
  cases h with
  | uncounted hbuilt hlarge => exact ⟨s, hbuilt, .unneeded (smallTables_eq_nil_iff.2 hlarge)⟩
  | @counted built st row more hcounting =>
    obtain ⟨htext, hparams⟩ := statement_eq_ok_iff.1 hcounting.counts
    refine ⟨built, hcounting.built, ?_⟩
    exact .counted hcounting.needed ⟨htext, hparams⟩ exists_applyCounts_eq

section Reflected

variable {σ : Type} {source : Source σ} {state : σ} {c : Configuration} {s : Schema}

/-- A pass that ends well has learned the schema that its listings describe, but for the row counts of
small tables, which it has asked for together and in the order of their names. -/
theorem recounted_of_reflect (h : ((reflect c).run.run source state).value = .ok s) :
    ∃ rows built answered later,
      (reflect c).run.exchanged source state = answered ++ later ∧
      answered.Perm (Listing.answers c rows) ∧
      buildSchema c (rows .tables) (rows .columns) (rows .references) = .ok built ∧
      (smallTables built).Pairwise (· < ·) ∧
      (∀ table, table ∈ smallTables built ↔
        ∃ t, built.table? table = some t ∧ ∀ n, t.size.rows = some n → n < 10000) ∧
      Recounted built later s := by
  have hreaches := Program.reaches_run source (reflect c).run state
  rw [h] at hreaches
  rcases reaches_reflect_cases hreaches with ⟨parts, next, hasking, -⟩ | ⟨listing, e, hdone, -⟩ |
    ⟨rows, sent₁, sent₂, answered, later, -, hexchanged, -, hanswered, hlater⟩
  · cases hasking
  · cases hdone
  rcases reaches_complete_cases hlater with ⟨built, st, parts, next, -, hasking, -⟩ |
    ⟨result, hdone, -, hend⟩
  · cases hasking
  obtain rfl := Activity.done.inj hdone
  obtain ⟨built, hbuilt, hcounts⟩ := recounted_of_completion hend
  have hwell := wellFormed_of_buildSchema hbuilt
  exact ⟨rows, built, answered, later, hexchanged, hanswered, hbuilt, pairwise_smallTables hwell,
    fun table => mem_smallTables_iff hwell, hcounts⟩

end Reflected

theorem recounted_of_reflect_items :
    ((reflect (.mysql "root" "secret" "shop")).run.run Program.replay itemReplies).value =
        .ok learnedItemSchema ∧
      (learnedItemSchema.table? "items").map (fun t => t.size.rows) = some (some 7) ∧
      (learnedItemSchema.table? "orders").map (fun t => t.size.rows) = some (some 30000) ∧
      ∃ rows built answered later,
        (reflect (.mysql "root" "secret" "shop")).run.exchanged Program.replay itemReplies =
          answered ++ later ∧
        answered.Perm (Listing.answers (.mysql "root" "secret" "shop") rows) ∧
        Recounted built later learnedItemSchema := by
  have hlearned :
      ((reflect (.mysql "root" "secret" "shop")).run.run Program.replay itemReplies).value =
        .ok learnedItemSchema := eq_ok_getD_of_isSome (by decide +kernel)
  obtain ⟨rows, built, answered, later, hexchanged, hanswered, -, -, -, hcounts⟩ :=
    recounted_of_reflect hlearned
  exact ⟨hlearned, by decide +kernel, by decide +kernel, rows, built, answered, later, hexchanged,
    hanswered, hcounts⟩

end Catalog

end TableAtlas
