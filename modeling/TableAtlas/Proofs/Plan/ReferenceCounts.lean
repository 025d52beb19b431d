import TableAtlas.Plan.ReferenceCount
import TableAtlas.Proofs.Plan.Placeholders
import TableAtlas.Proofs.Plan.Refusals

/-!
# Counts of references

The statement that counts the references to a row mirrors the foreign keys that point at the table: one
sub-select for each of them, in their order, with one placeholder that binds the row. Planning it is told
in full by `plannedCount_referenceCount`: whether there is a statement, why there is none, and what its
text is read back to.
-/

namespace TableAtlas.Plan

open Sql

/-! ## Tokens -/

/-- The count of a reference: a statement in brackets, under the one name of table and column. -/
def countTokens (r : Reference) : List Token :=
  .word .opening :: .word .selecting :: .word (.function .count) :: .word .opening
    :: .word .everything :: .word .closing
    :: .word .blank :: .word .source :: memberTokens r.targetTable
    ++ .word .blank :: .word .conditions :: memberTokens r.targetColumn
    ++ [.word .blank, .word (.operator .equal), .word .blank, .word .placeholder, .word .closing,
      .word .naming, .name (r.targetTable ++ "." ++ r.targetColumn)]

/-- The counts of references, in a statement that selects from no table. -/
def countsTokens (references : List Reference) : List Token :=
  selectTokens (references.map countTokens)

theorem lexemes_countEntry (r : Reference) : (countEntry r).lexemes = spell (countTokens r) := by
  have hcount : Fragment.plain "count(*)" =
      Fragment.plain "count" ++ Fragment.plain "(" ++ Fragment.plain "*" ++ Fragment.plain ")" := rfl
  have hnaming : Fragment.plain ") AS " = Fragment.plain ")" ++ Fragment.plain " AS " := rfl
  simp [countEntry, countTokens, Entry.countAll, Entry.lexemes, Select.clauseLexemes, entryLexemes,
    renderSelectList, clauseLexemes, renderCount, Source.lexemes, Condition.lexemes, placeholder,
    ← spell_memberTokens, countAlias, Fragment.join, Token.lexemes, Word.text, Layout.separator,
    Operator.word, AggregateFunction.word, hnaming, hcount]

theorem apart_countTokens (r : Reference) : Apart (countTokens r) := by
  simp [countTokens, apart_memberTokens]

theorem apart_countsTokens (references : List Reference) : Apart (countsTokens references) :=
  apart_selectTokens (by simp [apart_countTokens])

theorem count_placeholder_countTokens (r : Reference) :
    (countTokens r).count (.word .placeholder) = 1 := by
  have htable := List.count_eq_zero.2 (placeholder_notMem_memberTokens r.targetTable)
  have hcolumn := List.count_eq_zero.2 (placeholder_notMem_memberTokens r.targetColumn)
  simp [countTokens, htable, hcolumn]

theorem count_placeholder_countsTokens (references : List Reference) :
    (countsTokens references).count (.word .placeholder) = references.length := by
  rw [countsTokens, selectTokens, List.count_cons_of_ne (by decide)]
  split
  · next hempty =>
    obtain rfl : references = [] := by simpa using hempty
    rfl
  · rw [count_placeholder_separated (by decide), List.count_flatten, List.map_map]
    simp [Function.comp_def, count_placeholder_countTokens]

/-! ## Names -/

/-- The names of a reference that its count is written with. -/
def countedNames (r : Reference) : List String :=
  [r.targetTable, r.targetColumn]

theorem names_countEntry (r : Reference) : (countEntry r).names = countedNames r := by
  simp [countEntry, countedNames, Entry.names, Select.names, Sql.entryNames, Entry.countAll,
    Source.name]

theorem text_countEntries (references : List Reference) :
    Select.text .multiLine { entries := references.map countEntry } =
      written (references.flatMap countedNames) (spell (countsTokens references)).text := by
  have hnames : Select.names { entries := references.map countEntry } =
      references.flatMap countedNames := by
    simp only [Select.names, Sql.entryNames_eq, List.flatMap_map, names_countEntry]
    simp
  have hentries : entryLexemes (references.map countEntry) =
      (references.map countTokens).map spell := by
    rw [entryLexemes_eq, List.map_map, List.map_map]
    exact List.map_congr_left fun r _ => lexemes_countEntry r
  have hlexemes : Select.lexemes .multiLine { entries := references.map countEntry } =
      spell (countsTokens references) := by
    rw [Select.lexemes, Select.clauseLexemes, hentries, renderSelectList_spell, countsTokens]
    simp [Fragment.join, clauseLexemes, renderCount]
  rw [Select.text_eq, hnames, hlexemes]

/-! ## The statement -/

/-- A statement counts references to a row: its text is read back to one list of counts, one for each
reference, and it binds the row at each of its placeholders. -/
structure CountsReferences (references : List Reference) (rowId : String) (st : Statement) : Prop where
  text : lex st.sql = some (spell (countsTokens references))
  placeholders : (spell (countsTokens references)).count question = references.length
  params : st.params = List.replicate references.length rowId

/-- What becomes of planning to count the references to a row of a table. -/
inductive PlannedCount (s : Schema) (table rowId : String) : Except Error (Option Statement) → Prop
  | unknownTable (ht : s.table? table = none) :
    PlannedCount s table rowId (.error (.unknownTable table))
  | unreferenced {t : Table} (ht : s.table? table = some t) (hnone : t.referencedBy = []) :
    PlannedCount s table rowId (.ok none)
  | noPath {t : Table} {r : Reference} {fault : NameError} (ht : s.table? table = some t)
    (hr : r ∈ t.referencedBy) (hpath : IsNoPath r.targetTable ∨ IsNoPath r.targetColumn)
    (hfault : (t.referencedBy.flatMap countedNames).findSome? nameError? = some fault) :
    PlannedCount s table rowId (.error (.compilation (.badName fault)))
  | counted {t : Table} {st : Statement} (ht : s.table? table = some t) (hsome : t.referencedBy ≠ [])
    (hpaths : ∀ r ∈ t.referencedBy, ¬IsNoPath r.targetTable ∧ ¬IsNoPath r.targetColumn)
    (hst : CountsReferences t.referencedBy rowId st) : PlannedCount s table rowId (.ok (some st))

theorem referenceCount_eq {s : Schema} {table : String} {t : Table} (ht : s.table? table = some t)
    (hsome : t.referencedBy ≠ []) (rowId : String) :
    referenceCount s table rowId =
      match (t.referencedBy.flatMap countedNames).findSome? nameError? with
      | some fault => .error (.compilation (.badName fault))
      | none => .ok (some
          ⟨(spell (countsTokens t.referencedBy)).text, t.referencedBy.map fun _ => rowId⟩) := by
  rw [referenceCount, ht]
  obtain ⟨r, references, hlist⟩ := List.exists_cons_of_ne_nil hsome
  simp only [hlist, text_countEntries, written]
  cases ((r :: references).flatMap countedNames).findSome? nameError? <;> rfl

theorem countsReferences_countsTokens (references : List Reference) (rowId : String) :
    CountsReferences references rowId
      ⟨(spell (countsTokens references)).text, references.map fun _ => rowId⟩ where
  text := lex_spell (apart_countsTokens references)
  placeholders := by rw [count_question_spell, count_placeholder_countsTokens]
  params := List.map_const'

/-- There is no statement for a table that is not there, none for one that nothing refers to, and none if
a table or a column that refers has a name that is no path. Else there is one, and it counts the
references to the row. -/
theorem plannedCount_referenceCount (s : Schema) (table rowId : String) :
    PlannedCount s table rowId (referenceCount s table rowId) := by
  cases ht : s.table? table with
  | none =>
    rw [referenceCount, ht]
    exact .unknownTable ht
  | some t =>
    by_cases hnone : t.referencedBy = []
    · simp only [referenceCount, ht, hnone]
      exact .unreferenced ht hnone
    rw [referenceCount_eq ht hnone]
    cases hfault : (t.referencedBy.flatMap countedNames).findSome? nameError? with
    | some fault =>
      obtain ⟨name, hname, hbad⟩ := List.exists_of_findSome?_eq_some hfault
      obtain ⟨r, hr, hname⟩ := List.mem_flatMap.1 hname
      have hpath : IsNoPath name := by
        by_contra hpath
        cases (nameError?_eq_none_iff_not_isNoPath.2 hpath).symm.trans hbad
      refine .noPath ht hr ?_ hfault
      simp only [countedNames, List.mem_cons, List.not_mem_nil, or_false] at hname
      rcases hname with rfl | rfl
      · exact .inl hpath
      · exact .inr hpath
    | none =>
      have hpath (r : Reference) (hr : r ∈ t.referencedBy) (name : String)
          (hname : name ∈ countedNames r) : ¬IsNoPath name := by
        have hnames := List.findSome?_eq_none_iff.1 hfault
        exact nameError?_eq_none_iff_not_isNoPath.1 (hnames name (List.mem_flatMap.2 ⟨r, hr, hname⟩))
      refine .counted ht hnone (fun r hr => ?_) (countsReferences_countsTokens _ _)
      exact ⟨hpath r hr _ (by simp [countedNames]), hpath r hr _ (by simp [countedNames])⟩

/-- Dots split a name in parts and other characters do not, and the count goes by one name. -/
example :
    (spell (countsTokens [⟨"id", "shop.orders", "who?`"⟩])).text =
      "SELECT (SELECT count(*) FROM `shop`.`orders` WHERE `who?``` = ?) AS `shop.orders.who?```" := by
  decide +kernel

end TableAtlas.Plan
