import Mathlib.Data.List.Sort
import Mathlib.Data.Prod.Lex
import Mathlib.Data.String.Basic
import TableAtlas.Proofs.SortedMap
import TableAtlas.Schema.Basic

/-!
# Sorted lists

Sorting keeps members that are tied in the order in which they were given (`filter_mergeSort_of_tied`).
The columns of a table are given by name, so sorted by position they stand in the order of their names
wherever positions are shared. The first member of a sorted list with a property is the least one with
it (`find?_eq_some_iff_of_pairwise`), and a list that is sorted in one order is sorted in another one
that goes along with it (`pairwise_not_iff_of_pairwise`).
-/

namespace TableAtlas

/-! ## Ties -/

/-- Sorting leaves members that are tied in their order. -/
theorem filter_mergeSort_of_tied {α : Type} {le : α → α → Bool} {p : α → Bool}
    (htrans : ∀ a b c, le a b → le b c → le a c) (htotal : ∀ a b, le a b || le b a)
    (htied : ∀ a b, p a → p b → le a b) (as : List α) :
    (as.mergeSort le).filter p = as.filter p := by
  have hsorted : (as.filter p).Pairwise fun a b => le a b := by
    refine List.pairwise_of_forall_mem_list fun a ha b hb => ?_
    exact htied a b (List.mem_filter.1 ha).2 (List.mem_filter.1 hb).2
  have hsub : ((as.filter p).filter p).Sublist ((as.mergeSort le).filter p) :=
    (List.sublist_mergeSort htrans htotal hsorted List.filter_sublist).filter p
  simp only [List.filter_filter, Bool.and_self] at hsub
  exact (hsub.eq_of_length ((List.mergeSort_perm as le).filter p).length_eq.symm).symm

/-! ## First members -/

theorem find?_eq_some_iff_of_pairwise {α : Type} {r : α → α → Prop} (hasymm : ∀ a b, r a b → ¬r b a)
    {as : List α} (h : as.Pairwise r) {p : α → Bool} {a : α} :
    as.find? p = some a ↔ a ∈ as ∧ p a ∧ ∀ b ∈ as, p b → b ≠ a → r a b := by
  rw [List.find?_eq_some_iff_append]
  constructor
  · rintro ⟨hp, before, after, rfl, hbefore⟩
    refine ⟨by simp, hp, fun b hb hpb hne => ?_⟩
    rcases List.mem_append.1 hb with hb | hb
    · exact absurd hpb (by simpa using hbefore b hb)
    · exact (List.pairwise_cons.1 (List.pairwise_append.1 h).2.1).1 b
        ((List.mem_cons.1 hb).resolve_left hne)
  · rintro ⟨ha, hp, hleast⟩
    obtain ⟨before, after, rfl⟩ := List.append_of_mem ha
    refine ⟨hp, before, after, rfl, fun b hb => ?_⟩
    have hba : r b a := (List.pairwise_append.1 h).2.2 b hb a List.mem_cons_self
    rw [Bool.not_eq_true', ← Bool.not_eq_true]
    intro hpb
    have hne : b ≠ a := by
      rintro rfl
      exact hasymm b b hba hba
    exact hasymm b a hba (hleast b (List.mem_append_left _ hb) hpb hne)

/-! ## Two orders -/

/-- A list in one order is in another one just if the former goes along with the latter. -/
theorem pairwise_not_iff_of_pairwise {α : Type} {r q : α → α → Prop} (hasymm : ∀ a b, r a b → ¬r b a)
    (hirrefl : ∀ a, ¬q a a) {as : List α} (h : as.Pairwise r) :
    (as.Pairwise fun a b => ¬q b a) ↔ ∀ a ∈ as, ∀ b ∈ as, q a b → r a b := by
  constructor
  · intro hsorted
    apply List.Pairwise.forall_of_forall_of_flip (R := fun a b => q a b → r a b)
    · exact fun a _ hq => absurd hq (hirrefl a)
    · refine h.imp ?_
      intro a b hr _
      exact hr
    · refine hsorted.imp ?_
      intro a b hnot hq
      exact absurd hq hnot
  · intro hkept
    refine h.imp_of_mem ?_
    intro a b ha hb hr hq
    exact hasymm a b hr (hkept b hb a ha hq)

/-! ## Columns by position -/

/-- By position, and in one position by name. -/
def Precedes (a b : UInt32 × String) : Prop :=
  a.1 < b.1 ∨ a.1 = b.1 ∧ a.2 < b.2

instance (a b : UInt32 × String) : Decidable (Precedes a b) :=
  inferInstanceAs (Decidable (_ ∨ _ ∧ _))

theorem precedes_iff_toLex {a b : UInt32 × String} :
    Precedes a b ↔ toLex (a.1.toNat, a.2) < toLex (b.1.toNat, b.2) := by
  simp [Precedes, Prod.Lex.toLex_lt_toLex, UInt32.lt_iff_toNat_lt, UInt32.toNat_inj]

theorem Precedes.asymm {a b : UInt32 × String} (h : Precedes a b) : ¬Precedes b a := by
  rw [precedes_iff_toLex] at h ⊢
  exact lt_asymm h

theorem mem_columnsByOrdinal {t : Table} {c : Column} :
    c ∈ t.columnsByOrdinal ↔ ∃ column, t.columns.get? column = some c := by
  rw [Table.columnsByOrdinal, List.mem_mergeSort, SortedMap.mem_values_iff]

/-- By position, and in one position by the name under which the table lists the column. -/
def columnOrder (a b : String × Column) : Prop :=
  a.2.ordinal < b.2.ordinal ∨ a.2.ordinal = b.2.ordinal ∧ a.1 < b.1

theorem pairwise_columnOrder {entries : List (String × Column)}
    (h : entries.Pairwise fun a b => a.1 < b.1) :
    (entries.mergeSort fun a b => a.2.ordinal ≤ b.2.ordinal).Pairwise columnOrder := by
  have htrans : ∀ a b c : String × Column, decide (a.2.ordinal ≤ b.2.ordinal) →
      decide (b.2.ordinal ≤ c.2.ordinal) → decide (a.2.ordinal ≤ c.2.ordinal) := by
    intro a b c hab hbc
    exact decide_eq_true (UInt32.le_trans (of_decide_eq_true hab) (of_decide_eq_true hbc))
  have htotal : ∀ a b : String × Column,
      decide (a.2.ordinal ≤ b.2.ordinal) || decide (b.2.ordinal ≤ a.2.ordinal) := by
    intro a b
    rw [Bool.or_eq_true, decide_eq_true_eq, decide_eq_true_eq]
    exact UInt32.le_total _ _
  have hsorted := List.pairwise_mergeSort htrans htotal entries
  rw [List.pairwise_iff_forall_sublist] at hsorted ⊢
  intro a b hab
  by_cases htie : a.2.ordinal = b.2.ordinal
  · -- Tied columns stand as they did among the entries, which go by name.
    refine .inr ⟨htie, ?_⟩
    have hties := filter_mergeSort_of_tied (p := fun entry => entry.2.ordinal = b.2.ordinal) htrans
      htotal (by simp_all) entries
    have hsub := hab.filter fun entry => entry.2.ordinal = b.2.ordinal
    rw [hties] at hsub
    simp only [htie, decide_true, List.filter_cons_of_pos, List.filter_nil] at hsub
    exact List.pairwise_iff_forall_sublist.1 h (hsub.trans List.filter_sublist)
  · exact .inl (UInt32.lt_of_le_of_ne (of_decide_eq_true (hsorted hab)) htie)

theorem exists_entries_columnsByOrdinal (t : Table) :
    ∃ entries : List (String × Column), entries.Perm t.columns.entries ∧
      entries.Pairwise columnOrder ∧ t.columnsByOrdinal = entries.map Prod.snd := by
  refine ⟨_, List.mergeSort_perm _ _, pairwise_columnOrder t.columns.ascending, ?_⟩
  rw [Table.columnsByOrdinal, SortedMap.values, List.map_mergeSort]
  intro a _ b _
  rfl

def Column.Before (a b : Column) : Prop :=
  Precedes (a.ordinal, a.name) (b.ordinal, b.name)

theorem Column.Before.asymm {a b : Column} (h : a.Before b) : ¬b.Before a :=
  Precedes.asymm h

instance (a b : Column) : Decidable (a.Before b) :=
  inferInstanceAs (Decidable (Precedes _ _))

theorem pairwise_columnsByOrdinal {t : Table}
    (hname : ∀ column c, t.columns.get? column = some c → c.name = column) :
    t.columnsByOrdinal.Pairwise Column.Before := by
  obtain ⟨entries, hperm, hsorted, hall⟩ := exists_entries_columnsByOrdinal t
  have hentry : ∀ entry ∈ entries, entry.2.name = entry.1 := fun entry hentry =>
    hname entry.1 entry.2 (SortedMap.mem_entries_iff.1 (hperm.mem_iff.1 hentry))
  rw [hall, List.pairwise_map]
  refine hsorted.imp_of_mem fun {a b} ha hb hab => ?_
  rw [Column.Before, hentry a ha, hentry b hb]
  exact hab

theorem columnsByOrdinal_of_map {t t' : Table} {f : Column → Column}
    (hcolumns : t'.columns = t.columns.map fun _ c => f c)
    (hordinal : ∀ c, (f c).ordinal = c.ordinal) :
    t'.columnsByOrdinal = t.columnsByOrdinal.map f := by
  have hvalues : t'.columns.values = t.columns.values.map f := by
    simp [hcolumns, SortedMap.values, SortedMap.map]
  rw [Table.columnsByOrdinal, Table.columnsByOrdinal, hvalues, List.map_mergeSort]
  intro a _ b _
  rw [hordinal, hordinal]

end TableAtlas
