import TableAtlas.Sql.Select
import TableAtlas.Sql.Member

/-!
# Scopes

In a nested statement, a column may be qualified by the name of a table of the statement itself or of
the one around it. The statement itself comes first, so an alias in it that is equal to the name of
the outer table captures the columns meant for the outer one.
-/

namespace TableAtlas.Sql

/-- The name that qualifies the columns of a source: its alias, or the last part of its own name. -/
def Source.exposedName : Source → String
  | table name => (nameParts name).getLastD ""
  | aliased _ asName => asName

/-- The statement that a qualified column belongs to. -/
inductive Scope
  | inner
  | outer
  deriving DecidableEq, Repr

/-- Where a qualifier is found: first in the nested statement, then in the one around it. -/
def scopeOf? (inner outer : Option Source) (qualifier : String) : Option Scope :=
  if inner.map Source.exposedName = some qualifier then some .inner
  else if outer.map Source.exposedName = some qualifier then some .outer
  else none

/-- The nested statement of an entry with the name of its value. -/
def Entry.nested? : Entry → Option (Select × String)
  | subselect select asName => some (select, asName)
  | _ => none

/-- The nested statements of the select list. -/
def Select.nested (s : Select) : List (Select × String) :=
  s.entries.filterMap Entry.nested?

/-! ## Exposed names -/

theorem notMem_of_mem_splitOn {α : Type} [DecidableEq α] {a : α} {l part : List α}
    (h : part ∈ l.splitOn a) : a ∉ part := by
  induction l generalizing part with
  | nil =>
    obtain rfl : part = [] := by simpa using h
    exact List.not_mem_nil
  | cons b l ih =>
    rw [List.splitOn_cons_eq_if_modifyHead] at h
    by_cases hb : b = a
    · rw [if_pos (by simpa using hb)] at h
      rcases List.mem_cons.1 h with rfl | h
      · exact List.not_mem_nil
      · exact ih h
    · rw [if_neg (by simpa using hb)] at h
      obtain ⟨first, rest, hparts⟩ := List.exists_cons_of_ne_nil (List.splitOn_ne_nil a l)
      rw [hparts, List.modifyHead_cons] at h
      rcases List.mem_cons.1 h with rfl | h
      · have hfirst : a ∉ first := ih (hparts ▸ List.mem_cons_self)
        rw [List.mem_cons, not_or]
        exact ⟨Ne.symm hb, hfirst⟩
      · exact ih (hparts ▸ List.mem_cons_of_mem _ h)

/-- What a path names: its last part. -/
def lastPart (name : String) : String :=
  (nameParts name).getLastD ""

theorem point_notMem_lastPart (name : String) : '.' ∉ (lastPart name).toList := by
  have hne : name.toList.splitOn '.' ≠ [] := List.splitOn_ne_nil _ _
  have hlast : lastPart name = String.ofList ((name.toList.splitOn '.').getLast hne) := by
    rw [lastPart, nameParts, List.getLastD_eq_getLast?, List.getLast?_map,
      List.getLast?_eq_some_getLast hne]
    rfl
  rw [hlast, String.toList_ofList]
  exact notMem_of_mem_splitOn (List.getLast_mem hne)

theorem lastPart_of_notMem {name : String} (h : '.' ∉ name.toList) : lastPart name = name := by
  rw [lastPart, nameParts, List.splitOn_eq_singleton h]
  simp

theorem exposedName_table_eq_iff {name : String} :
    (Source.table name).exposedName = name ↔ '.' ∉ name.toList := by
  show lastPart name = name ↔ '.' ∉ name.toList
  constructor
  · intro h
    rw [← h]
    exact point_notMem_lastPart name
  · exact lastPart_of_notMem

/-! ## Names of values -/

/-- The name that the value of an entry has in a row; an expression without a name has none of its own. -/
def Entry.outputName? : Entry → Option String
  | column name => some (lastPart name)
  | expression _ asName => asName
  | subselect _ asName => some asName

/-- The names of the values in a row of the statement. -/
def Select.outputNames (s : Select) : List String :=
  s.entries.filterMap Entry.outputName?

/-- The names of the values of nested statements. -/
def Select.nestedNames (s : Select) : List String :=
  s.nested.map Prod.snd

/-- The names of all other values. -/
def Select.plainNames (s : Select) : List String :=
  (s.entries.filter fun entry => entry.nested?.isNone).filterMap Entry.outputName?

end TableAtlas.Sql
