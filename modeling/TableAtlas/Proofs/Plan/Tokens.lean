import TableAtlas.Proofs.Plan.Planning
import TableAtlas.Proofs.Sql.Token

/-!
# The tokens of planned queries

`statementTokens` says what a planned query is written with, from the schema and the query alone, and
`statementNames` lists the names among it. Words keep these names apart (`apart_statementTokens`).
-/

namespace TableAtlas

namespace Plan

open Sql

/-! ## Tokens of the parts -/

/-- What an aggregate is taken of. -/
def targetTokens : Option String → List Token
  | some column => memberTokens column
  | none => [.word .everything]

def aggregateTokens (a : Aggregate) : List Token :=
  match AggregateFunction.ofText? a.function with
  | some function =>
    .word (.function function) :: .word .opening :: targetTokens a.target
      ++ [.word .closing, .word .naming, .name (aggregateAlias function a.target)]
  | none => []

/-- The table that is looked into goes by a name of its own, and the outer table by its own name. -/
def lookupTokens (t : Table) (number : Nat) (reference : Reference) (label : String) : List Token :=
  let asName := lookupAlias number
  .word .opening :: .word .selecting :: .name asName :: .word .point :: memberTokens label
    ++ .word .blank :: .word .source :: memberTokens reference.targetTable
    ++ .word .blank :: .name asName
    :: .word .blank :: .word .conditions
    :: .name asName :: .word .point :: memberTokens reference.targetColumn
    ++ [.word .blank, .word (.operator .equal), .word .blank, .name t.name, .word .point,
      .name reference.column, .word .closing, .word .naming,
      .name (labelMarker ++ reference.column)]

def filterTokens (f : Filter) : List Token :=
  memberTokens f.field ++ match Operator.ofText? f.operator with
    | some operator =>
      .word .blank :: .word (.operator operator)
        :: if operator.takesValue then [.word .blank, .word .placeholder] else []
    | none => []

def sortKeyTokens (k : SortKey) : List Token :=
  memberTokens k.field ++ [.word .blank, .word (.direction k.direction)]

/-- The look-ups for the names that have labels. -/
def lookupPieces (s : Schema) (t : Table) (names : List String) : List (List Token) :=
  (names.filterMap (labelled? s t)).mapIdx fun i pair => lookupTokens t (i + 1) pair.1 pair.2

/-- The entries of the select list: columns, the aggregate, and the look-ups of labels. -/
def entryTokens (s : Schema) (t : Table) (q : Query) : List (List Token) :=
  (baseNames t q).map memberTokens ++ (q.aggregate.map aggregateTokens).toList
    ++ lookupPieces s t (baseNames t q)

/-! ## Tokens of a statement -/

/-- The pieces after a keyword; nothing if there are none. -/
def clauseTokens (keyword separator : Word) (pieces : List (List Token)) : List Token :=
  if pieces.isEmpty then []
  else .word .newline :: .word keyword :: separated separator pieces

def selectTokens (pieces : List (List Token)) : List Token :=
  .word .selecting :: if pieces.isEmpty then [.word .everything] else separated .comma pieces

/-- What stands in front of the conditions. -/
def headTokens (s : Schema) (t : Table) (q : Query) : List Token :=
  selectTokens (entryTokens s t q) ++ .word .newline :: .word .source :: memberTokens t.name

/-- What stands behind the conditions. -/
def tailTokens (q : Query) : List Token :=
  clauseTokens .grouping .comma (((q.aggregate.map Aggregate.groupBy).getD []).map memberTokens)
    ++ clauseTokens .ordering .comma (q.allSortKeys.map sortKeyTokens)
    ++ [.word .newline, .word .limit, .word (.number (q.limit.getD defaultLimit))]
    ++ match q.offset with
      | some n => [.word .newline, .word .offset, .word (.number n)]
      | none => []

/-- The tokens of a query over a table. -/
def statementTokens (s : Schema) (t : Table) (q : Query) : List Token :=
  headTokens s t q ++ clauseTokens .conditions .also (q.allFilters.map filterTokens) ++ tailTokens q

/-! ## Words keep the names apart -/

theorem point_notMem_lookupAlias (number : Nat) : '.' ∉ (lookupAlias number).toList := by
  intro h
  rw [lookupAlias, String.toList_append, List.mem_append, Nat.toString_eq_repr,
    Nat.toList_repr] at h
  rcases h with h | h
  · exact absurd h (by decide)
  · exact absurd (Nat.isDigit_of_mem_toDigits (by decide) (by decide) h) (by decide)

theorem apart_aggregateTokens (a : Aggregate) : Apart (aggregateTokens a) := by
  unfold aggregateTokens
  cases AggregateFunction.ofText? a.function with
  | none => exact apart_nil
  | some function => cases a.target <;> simp [targetTokens, apart_memberTokens]

theorem apart_lookupTokens (t : Table) (number : Nat) (reference : Reference) (label : String) :
    Apart (lookupTokens t number reference label) := by
  simp [lookupTokens, apart_memberTokens]

theorem apart_filterTokens (f : Filter) : Apart (filterTokens f) := by
  unfold filterTokens
  cases Operator.ofText? f.operator with
  | none => simp [apart_memberTokens]
  | some operator => cases h : operator.takesValue <;> simp [apart_memberTokens, h]

theorem apart_sortKeyTokens (k : SortKey) : Apart (sortKeyTokens k) := by
  simp [sortKeyTokens, apart_memberTokens]

theorem apart_entryTokens {s : Schema} {t : Table} {q : Query} :
    ∀ piece ∈ entryTokens s t q, Apart piece := by
  intro piece hpiece
  simp only [entryTokens, lookupPieces, List.mem_append, List.mem_map, Option.mem_toList,
    Option.map_eq_some_iff, List.mem_mapIdx] at hpiece
  rcases hpiece with (⟨name, -, rfl⟩ | ⟨a, -, rfl⟩) | ⟨i, -, rfl⟩
  · exact apart_memberTokens name
  · exact apart_aggregateTokens a
  · exact apart_lookupTokens _ _ _ _

theorem apart_clauseTokens (keyword separator : Word) {pieces : List (List Token)}
    (h : ∀ piece ∈ pieces, Apart piece) : Apart (clauseTokens keyword separator pieces) := by
  unfold clauseTokens
  split
  · exact apart_nil
  · simpa using apart_separated h

theorem wordLed_clauseTokens (keyword separator : Word) (pieces : List (List Token)) :
    WordLed (clauseTokens keyword separator pieces) := by
  unfold clauseTokens
  split
  · exact wordLed_nil
  · exact wordLed_word_cons _ _

theorem apart_selectTokens {pieces : List (List Token)} (h : ∀ piece ∈ pieces, Apart piece) :
    Apart (selectTokens pieces) := by
  unfold selectTokens
  split
  · simp
  · simpa using apart_separated h

theorem apart_headTokens (s : Schema) (t : Table) (q : Query) : Apart (headTokens s t q) := by
  simpa [headTokens, apart_memberTokens] using apart_selectTokens apart_entryTokens

theorem apart_tailTokens (q : Query) : Apart (tailTokens q) := by
  have hnames : ∀ piece ∈ ((q.aggregate.map Aggregate.groupBy).getD []).map memberTokens,
      Apart piece := by simp [apart_memberTokens]
  have hkeys : ∀ piece ∈ q.allSortKeys.map sortKeyTokens, Apart piece := by
    simp [apart_sortKeyTokens]
  have hgroup := apart_clauseTokens .grouping .comma hnames
  have horder := apart_clauseTokens .ordering .comma hkeys
  refine ((hgroup.append horder (wordLed_clauseTokens _ _ _)).append ?_ (wordLed_word_cons _ _)).append
    ?_ ?_
  · simp
  · cases q.offset <;> simp
  · cases q.offset with
    | none => exact wordLed_nil
    | some n => exact wordLed_word_cons _ _

theorem wordLed_tailTokens (q : Query) : WordLed (tailTokens q) := by
  refine (((wordLed_clauseTokens _ _ _).append (wordLed_clauseTokens _ _ _)).append
    (wordLed_word_cons _ _)).append ?_
  cases q.offset with
  | none => exact wordLed_nil
  | some n => exact wordLed_word_cons _ _

theorem apart_statementTokens (s : Schema) (t : Table) (q : Query) :
    Apart (statementTokens s t q) := by
  have hfilters : ∀ piece ∈ q.allFilters.map filterTokens, Apart piece := by
    simp [apart_filterTokens]
  have hconditions := apart_clauseTokens .conditions .also hfilters
  exact ((apart_headTokens s t q).append hconditions (wordLed_clauseTokens _ _ _)).append
    (apart_tailTokens q) (wordLed_tailTokens q)

/-! ## The names of a statement -/

def aggregateNames (a : Aggregate) : List String :=
  match AggregateFunction.ofText? a.function with
  | some function => a.target.toList.flatMap nameParts ++ [aggregateAlias function a.target]
  | none => []

def lookupNames (t : Table) (number : Nat) (reference : Reference) (label : String) : List String :=
  lookupAlias number :: nameParts label ++ nameParts reference.targetTable
    ++ lookupAlias number :: lookupAlias number :: nameParts reference.targetColumn
    ++ [t.name, reference.column, labelMarker ++ reference.column]

/-- The names of the select list: those of the columns, the aggregate and the look-ups. -/
def entryNames (s : Schema) (t : Table) (q : Query) : List String :=
  (baseNames t q).flatMap nameParts ++ q.aggregate.toList.flatMap aggregateNames
    ++ (((baseNames t q).filterMap (labelled? s t)).mapIdx fun i pair =>
      lookupNames t (i + 1) pair.1 pair.2).flatten

/-- The names that a statement holds in quotes: parts of names that the schema or the query gives,
and names that the statement brings in for its aggregate and its look-ups. -/
def statementNames (s : Schema) (t : Table) (q : Query) : List String :=
  entryNames s t q ++ nameParts t.name
    ++ q.allFilters.flatMap (fun f => nameParts f.field)
    ++ ((q.aggregate.map Aggregate.groupBy).getD []).flatMap nameParts
    ++ q.allSortKeys.flatMap fun k => nameParts k.field

theorem quotedNames_aggregateTokens (a : Aggregate) :
    quotedNames (aggregateTokens a) = aggregateNames a := by
  unfold aggregateTokens aggregateNames
  cases AggregateFunction.ofText? a.function with
  | none => rfl
  | some function => cases a.target <;> simp [targetTokens]

theorem quotedNames_lookupTokens (t : Table) (number : Nat) (reference : Reference)
    (label : String) :
    quotedNames (lookupTokens t number reference label) = lookupNames t number reference label := by
  simp [lookupTokens, lookupNames]

theorem quotedNames_filterTokens (f : Filter) :
    quotedNames (filterTokens f) = nameParts f.field := by
  rw [filterTokens, quotedNames_append, quotedNames_memberTokens]
  cases Operator.ofText? f.operator with
  | none => simp
  | some operator => cases h : operator.takesValue <;> simp [h]

theorem quotedNames_sortKeyTokens (k : SortKey) :
    quotedNames (sortKeyTokens k) = nameParts k.field := by
  simp [sortKeyTokens]

theorem quotedNames_clauseTokens (keyword separator : Word) (pieces : List (List Token)) :
    quotedNames (clauseTokens keyword separator pieces) = pieces.flatMap quotedNames := by
  cases pieces with
  | nil => rfl
  | cons piece pieces => simp [clauseTokens]

theorem quotedNames_selectTokens (pieces : List (List Token)) :
    quotedNames (selectTokens pieces) = pieces.flatMap quotedNames := by
  cases pieces with
  | nil => rfl
  | cons piece pieces => simp [selectTokens]

theorem quotedNames_lookupPieces (s : Schema) (t : Table) (names : List String) :
    (lookupPieces s t names).flatMap quotedNames =
      ((names.filterMap (labelled? s t)).mapIdx fun i pair =>
        lookupNames t (i + 1) pair.1 pair.2).flatten := by
  rw [lookupPieces, List.mapIdx_eq_zipIdx_map, List.mapIdx_eq_zipIdx_map, List.flatMap_def,
    List.map_map]
  refine congrArg List.flatten (List.map_congr_left fun pair _ => ?_)
  exact quotedNames_lookupTokens t (pair.2 + 1) pair.1.1 pair.1.2

theorem quotedNames_entryTokens (s : Schema) (t : Table) (q : Query) :
    (entryTokens s t q).flatMap quotedNames = entryNames s t q := by
  have haggregate : (q.aggregate.map aggregateTokens).toList.flatMap quotedNames =
      q.aggregate.toList.flatMap aggregateNames := by
    cases q.aggregate with
    | none => rfl
    | some a => simp [quotedNames_aggregateTokens]
  simp [entryTokens, entryNames, List.flatMap_append, haggregate, quotedNames_lookupPieces,
    List.flatMap_map]

theorem quotedNames_tailTokens (q : Query) :
    quotedNames (tailTokens q) = ((q.aggregate.map Aggregate.groupBy).getD []).flatMap nameParts
      ++ q.allSortKeys.flatMap fun k => nameParts k.field := by
  unfold tailTokens
  cases q.offset <;>
    simp [quotedNames_clauseTokens, List.flatMap_map, quotedNames_sortKeyTokens]

theorem quotedNames_statementTokens (s : Schema) (t : Table) (q : Query) :
    quotedNames (statementTokens s t q) = statementNames s t q := by
  simp [statementTokens, headTokens, statementNames, quotedNames_clauseTokens,
    quotedNames_selectTokens, quotedNames_entryTokens, quotedNames_tailTokens,
    quotedNames_filterTokens, List.flatMap_map]

end Plan

end TableAtlas
