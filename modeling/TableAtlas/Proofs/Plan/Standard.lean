import TableAtlas.Plan.ReferenceCount
import TableAtlas.Proofs.Plan.Planning
import TableAtlas.Proofs.Sql.Clauses

/-!
# Planned statements are standard

Whatever a query holds, the operators, values and expressions of what is planned for it are those of the
vocabulary, in the look-ups of labels too (`standard_of_selectFrom`). The counts of references are
standard for every list of them.
-/

namespace TableAtlas

open Sql (Select Entry Condition Fragment)

theorem Sql.Entry.countAll_standard : Entry.countAll.Standard := by
  rw [Entry.countAll, Entry.Standard]
  exact ⟨.count, Fragment.plain "*", .inl rfl, rfl⟩

namespace Plan

/-! ## Parts of a query -/

theorem conditionOf_standard (operator : Operator) (f : Filter) : (conditionOf operator f).Standard := by
  refine ⟨operator, rfl, ?_, ?_⟩ <;> cases h : operator.takesValue <;>
    simp [conditionOf, h, Sql.IsOperand]

theorem standard_of_aggregateEntry {a : Aggregate} {entry : Entry} (h : aggregateEntry a = .ok entry) :
    entry.Standard := by
  obtain ⟨function, target, -, htarget, rfl⟩ := aggregateEntry_eq_ok_iff.1 h
  rw [Entry.Standard]
  refine ⟨function, target, ?_, List.append_assoc ..⟩
  cases hcolumn : a.target with
  | none => exact .inl (by simpa [hcolumn] using htarget)
  | some column => exact .inr ⟨column, by simpa [hcolumn] using htarget⟩

theorem standard_of_aggregateEntries {q : Query} {entries : List Entry}
    (h : aggregateEntries q = .ok entries) : ∀ entry ∈ entries, entry.Standard := by
  unfold aggregateEntries at h
  split at h
  · obtain ⟨entry, hentry, hone⟩ := bind_eq_ok_iff.1 h
    rw [pure_eq_ok_iff] at hone
    subst hone
    simpa using standard_of_aggregateEntry hentry
  · cases h
    simp

theorem labelLookup_standard (t : Table) (number : Nat) (reference : Reference) (label : String) :
    (labelLookup t number reference label).Standard := by
  have houter : Sql.IsOperand
      (.name t.name :: (Fragment.plain "." ++ [.name reference.column])) := .inr ⟨_, _, rfl⟩
  rw [labelLookup, Entry.Standard, Select.standard_iff]
  refine ⟨by simp [Entry.Standard], ?_⟩
  simpa using ⟨.equal, rfl, rfl, fun value hvalue => Option.some.inj hvalue ▸ houter⟩

/-! ## Statements -/

theorem clausesOf_standard (s : Schema) (t : Table) (q : Query) {aggregate : List Entry}
    {conditions : List Condition} (haggregate : ∀ entry ∈ aggregate, entry.Standard)
    (hconditions : ∀ c ∈ conditions, c.Standard) :
    (clausesOf s t q aggregate conditions).Standard := by
  rw [Select.standard_iff]
  refine ⟨fun entry hentry => ?_, hconditions⟩
  simp only [clausesOf, List.mem_append, List.mem_map, labelLookups, List.mem_mapIdx] at hentry
  rcases hentry with (⟨name, -, rfl⟩ | hentry) | ⟨i, hi, rfl⟩
  · rw [Entry.Standard]
    trivial
  · exact haggregate entry hentry
  · exact labelLookup_standard t (i + 1) _ _

/-- Nothing that a query holds makes its statement less than standard. -/
theorem standard_of_selectFrom {s : Schema} {t : Table} {q : Query} {clause : Select}
    {params : List String} (h : selectFrom s t q = .ok (clause, params)) : clause.Standard := by
  obtain ⟨-, aggregate, filters, haggregate, hfilters, rfl, -⟩ := selectFrom_eq_ok_iff.1 h
  refine clausesOf_standard s t q (standard_of_aggregateEntries haggregate) fun c hc => ?_
  obtain ⟨f, -, operator, -, -, rfl⟩ := exists_mem_left_of_forall₂ (conditions_of_filters hfilters) hc
  exact conditionOf_standard operator f

theorem countEntries_standard (references : List Reference) :
    Select.Standard { entries := references.map countEntry } := by
  rw [Select.standard_iff]
  refine ⟨fun entry hentry => ?_, by simp⟩
  obtain ⟨r, -, rfl⟩ := List.mem_map.1 hentry
  rw [countEntry, Entry.Standard, Select.standard_iff]
  refine ⟨by simp [Entry.countAll_standard], ?_⟩
  simpa using ⟨.equal, rfl, rfl, by simp [Sql.IsOperand]⟩

end Plan

end TableAtlas
