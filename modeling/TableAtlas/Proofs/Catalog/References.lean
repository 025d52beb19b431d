import Mathlib.Data.List.Perm.Basic
import TableAtlas.Proofs.Catalog.Assembly

/-!
# Foreign keys at both ends

A foreign key is recorded at the column that refers and at the table that is referred to. A column has
room for one reference, while a table lists all that point at it, so the two sides of a built schema
agree just if no column refers twice and every key points at a column that is there
(`referencesAgree_iff`).
-/

namespace TableAtlas

namespace Catalog

/-! ## One key from both ends -/

/-- The column that a foreign key belongs to. -/
def ForeignKey.source (k : ForeignKey) : String × String :=
  (k.table, k.reference.column)

/-- The foreign key that a table lists. -/
def listedKey (table : String) (e : Reference) : ForeignKey :=
  ⟨e.targetTable, e.inverse table⟩

theorem listedKey_inverse (k : ForeignKey) :
    listedKey k.reference.targetTable (k.reference.inverse k.table) = k := rfl

theorem listedKey_injective (table : String) : Function.Injective (listedKey table) := by
  intro e e' h
  have hinverse := congrArg (fun k => k.reference.inverse k.table) h
  exact hinverse

/-! ## The lists of tables -/

theorem perm_reverseReferences (keys : List ForeignKey) (table : String) :
    ((reverseReferences keys table).map (listedKey table)).Perm
      (keys.filter fun k => k.reference.targetTable = table) := by
  refine ((List.mergeSort_perm _ _).map _).trans (.of_eq ?_)
  rw [List.map_map]
  refine (List.map_congr_left fun k hk => ?_).trans (List.map_id _)
  have htarget : k.reference.targetTable = table := by simpa using (List.mem_filter.1 hk).2
  rw [Function.comp_apply, ← htarget, listedKey_inverse, id]

theorem mem_reverseReferences {keys : List ForeignKey} {table : String} {e : Reference} :
    e ∈ reverseReferences keys table ↔ listedKey table e ∈ keys := by
  rw [← List.mem_map_of_injective (listedKey_injective table),
    (perm_reverseReferences keys table).mem_iff, List.mem_filter]
  exact and_iff_left (by simp [listedKey, Reference.inverse])

theorem nodup_reverseReferences {keys : List ForeignKey} {table : String} :
    (reverseReferences keys table).Nodup ↔
      (keys.filter fun k => k.reference.targetTable = table).Nodup := by
  rw [← (perm_reverseReferences keys table).nodup_iff,
    List.nodup_map_iff (listedKey_injective table)]

/-! ## The references of columns -/

theorem of_lastReference_eq_some {keys : List ForeignKey} {table column : String} {r : Reference}
    (h : lastReference keys table column = some r) : ⟨table, r⟩ ∈ keys ∧ r.column = column := by
  rw [lastReference, Option.map_eq_some_iff] at h
  obtain ⟨k, hk, rfl⟩ := h
  have hsource : k.table = table ∧ k.reference.column = column := by
    simpa using List.find?_some hk
  have hmem := List.mem_reverse.1 (List.mem_of_find?_eq_some hk)
  exact ⟨hsource.1 ▸ hmem, hsource.2⟩

theorem lastReference_append_singleton (keys : List ForeignKey) (k : ForeignKey)
    (table column : String) :
    lastReference (keys ++ [k]) table column =
      if k.source = (table, column) then some k.reference else lastReference keys table column := by
  rw [lastReference, List.reverse_append, List.reverse_singleton, List.singleton_append,
    List.find?_cons]
  by_cases hk : k.source = (table, column)
  · obtain ⟨rfl, rfl⟩ := Prod.mk.inj hk
    simp [hk]
  · have hnot : (k.table = table && k.reference.column = column) = false := by
      simpa [ForeignKey.source] using hk
    simp [hk, hnot, lastReference]

theorem lastReference_of_mem {keys : List ForeignKey} {k : ForeignKey} (hk : k ∈ keys)
    (honly : ∀ k' ∈ keys, k'.source = k.source → k' = k) :
    lastReference keys k.table k.reference.column = some k.reference := by
  have hfound : (keys.reverse.find? fun k' =>
      k'.table = k.table && k'.reference.column = k.reference.column).isSome := by
    rw [List.find?_isSome]
    exact ⟨k, List.mem_reverse.2 hk, by simp⟩
  obtain ⟨k', hk'⟩ := Option.isSome_iff_exists.1 hfound
  have hsource : k'.source = k.source := by
    have := List.find?_some hk'
    simp only [Bool.and_eq_true, decide_eq_true_eq] at this
    exact Prod.ext this.1 this.2
  have heq : k' = k := honly k' (List.mem_reverse.1 (List.mem_of_find?_eq_some hk')) hsource
  rw [lastReference, hk', heq, Option.map_some]

/-! ## Counts -/

theorem perm_flatMap_filter {tables : List String} (h : tables.Nodup) {keys : List ForeignKey}
    (hkeys : ∀ k ∈ keys, k.reference.targetTable ∈ tables) :
    (tables.flatMap fun table => keys.filter fun k => k.reference.targetTable = table).Perm keys := by
  induction tables generalizing keys with
  | nil =>
    obtain rfl : keys = [] := List.eq_nil_iff_forall_not_mem.2 fun k hk => by simpa using hkeys k hk
    rfl
  | cons table tables ih =>
    obtain ⟨htable, htables⟩ := List.nodup_cons.1 h
    -- The keys that point elsewhere are left for the other tables.
    have hrest : ∀ k ∈ keys.filter (fun k => !decide (k.reference.targetTable = table)),
        k.reference.targetTable ∈ tables := by
      intro k hk
      obtain ⟨hmem, hne⟩ := List.mem_filter.1 hk
      rcases List.mem_cons.1 (hkeys k hmem) with heq | hmem
      · simp [heq] at hne
      · exact hmem
    have hsame : (tables.flatMap fun other =>
          (keys.filter fun k => !decide (k.reference.targetTable = table)).filter fun k =>
            k.reference.targetTable = other) =
        tables.flatMap fun other => keys.filter fun k => k.reference.targetTable = other := by
      refine List.flatMap_congr fun other hother => ?_
      rw [List.filter_filter]
      refine List.filter_congr fun k _ => ?_
      have hne : table ≠ other := fun heq => htable (heq ▸ hother)
      by_cases hk : k.reference.targetTable = other
      · simp [hk, hne.symm]
      · simp [hk]
    rw [List.flatMap_cons, ← hsame]
    exact ((ih htables hrest).append_left _).trans (List.filter_append_perm _ _)

end Catalog

namespace Schema

open Catalog

/-- The foreign keys that the tables list. -/
def reverseKeys (s : Schema) : List ForeignKey :=
  s.tables.entries.flatMap fun (table, t) => t.referencedBy.map (listedKey table)

/-- The foreign keys that the columns hold. -/
def forwardKeys (s : Schema) : List ForeignKey :=
  s.tables.entries.flatMap fun (table, t) =>
    t.columns.entries.filterMap fun (_, c) => c.refersTo.map (ForeignKey.mk table)

theorem mem_forwardKeys {s : Schema} {k : ForeignKey} :
    k ∈ s.forwardKeys ↔
      ∃ column c, s.column? k.table column = some c ∧ c.refersTo = some k.reference := by
  simp only [forwardKeys, List.mem_flatMap, List.mem_filterMap, Option.map_eq_some_iff,
    column?_eq_some_iff]
  constructor
  · rintro ⟨⟨table, t⟩, ht, ⟨column, c⟩, hc, r, hr, rfl⟩
    exact ⟨column, c, ⟨t, SortedMap.mem_entries_iff.1 ht, SortedMap.mem_entries_iff.1 hc⟩, hr⟩
  · rintro ⟨column, c, ⟨t, ht, hc⟩, hr⟩
    exact ⟨(k.table, t), SortedMap.mem_entries_iff.2 ht, (column, c),
      SortedMap.mem_entries_iff.2 hc, k.reference, hr, rfl⟩

theorem nodup_forwardKeys {s : Schema}
    (h : ∀ table column c r, s.column? table column = some c → c.refersTo = some r →
      r.column = column) : s.forwardKeys.Nodup := by
  rw [forwardKeys, List.nodup_flatMap]
  constructor
  · rintro ⟨table, t⟩ ht
    rw [List.Nodup, List.pairwise_filterMap]
    refine t.columns.ascending.imp_of_mem fun {a b} ha hb hlt k hk k' hk' heq => ?_
    obtain ⟨r, hr, rfl⟩ := Option.map_eq_some_iff.1 hk
    obtain ⟨r', hr', rfl⟩ := Option.map_eq_some_iff.1 hk'
    have hcolumn {entry : String × Column} (hentry : entry ∈ t.columns.entries) :
        s.column? table entry.1 = some entry.2 :=
      column?_eq_some_iff.2
        ⟨t, SortedMap.mem_entries_iff.1 ht, SortedMap.mem_entries_iff.1 hentry⟩
    have ha := h table a.1 a.2 r (hcolumn ha) hr
    have hb := h table b.1 b.2 r' (hcolumn hb) hr'
    obtain rfl : r = r' := congrArg ForeignKey.reference heq
    exact String.lt_irrefl _ (ha ▸ hb ▸ hlt)
  · refine s.tables.ascending.imp fun {a b} hlt k hk hk' => ?_
    obtain ⟨_, -, hk⟩ := List.mem_filterMap.1 hk
    obtain ⟨_, -, hk'⟩ := List.mem_filterMap.1 hk'
    obtain ⟨r, -, rfl⟩ := Option.map_eq_some_iff.1 hk
    obtain ⟨r', -, heq⟩ := Option.map_eq_some_iff.1 hk'
    have htable : b.1 = a.1 := congrArg ForeignKey.table heq
    exact String.lt_irrefl _ (htable ▸ hlt)

end Schema

namespace Catalog

/-! ## Agreement -/

/-- Each key that a table lists points at a column of the table and is held by the column that
refers, and no table lists a key twice. -/
structure ReferencesAgree (s : Schema) : Prop where
  pointsAtColumn : ∀ table t e, s.table? table = some t → e ∈ t.referencedBy →
    t.columns.contains e.column
  isHeld : ∀ table t e, s.table? table = some t → e ∈ t.referencedBy →
    ∃ c, s.column? e.targetTable e.targetColumn = some c ∧
      c.refersTo = some ⟨e.targetColumn, table, e.column⟩
  nodup : ∀ table t, s.table? table = some t → t.referencedBy.Nodup

section Built

variable {c : Configuration} {tableRows columnRows referenceRows : List Row} {s : Schema}

theorem mem_referencedBy (h : buildSchema c tableRows columnRows referenceRows = .ok s)
    {table : String} {t : Table} (ht : s.table? table = some t) {e : Reference} :
    e ∈ t.referencedBy ↔ listedKey table e ∈ acceptedKeys s referenceRows := by
  rw [(references_of_buildSchema h ht).2.1, mem_reverseReferences]

theorem exists_referencedBy (h : buildSchema c tableRows columnRows referenceRows = .ok s)
    {k : ForeignKey} (hk : k ∈ acceptedKeys s referenceRows) :
    ∃ t, s.table? k.reference.targetTable = some t ∧
      k.reference.inverse k.table ∈ t.referencedBy := by
  obtain ⟨t, ht⟩ := Option.isSome_iff_exists.1 (of_mem_acceptedKeys hk).1
  refine ⟨t, ht, ?_⟩
  rw [mem_referencedBy h ht, listedKey_inverse]
  exact hk

theorem perm_reverseKeys (h : buildSchema c tableRows columnRows referenceRows = .ok s) :
    s.reverseKeys.Perm (acceptedKeys s referenceRows) := by
  have htables : ∀ k ∈ acceptedKeys s referenceRows, k.reference.targetTable ∈ s.tables.keys := by
    intro k hk
    obtain ⟨t, ht⟩ := Option.isSome_iff_exists.1 (of_mem_acceptedKeys hk).1
    exact List.mem_map.2 ⟨_, SortedMap.mem_entries_iff.2 ht, rfl⟩
  refine .trans ?_ (perm_flatMap_filter s.tables.nodup_keys htables)
  rw [SortedMap.keys, List.flatMap_map]
  refine List.Perm.flatMap_left _ ?_
  rintro ⟨table, t⟩ hentry
  have hlist := (references_of_buildSchema h (SortedMap.mem_entries_iff.1 hentry)).2.1
  simp only [hlist]
  exact perm_reverseReferences _ _

theorem perm_forwardKeys (h : buildSchema c tableRows columnRows referenceRows = .ok s)
    (hsources : ((acceptedKeys s referenceRows).map ForeignKey.source).Nodup) :
    s.forwardKeys.Perm (acceptedKeys s referenceRows) := by
  have hnodup : s.forwardKeys.Nodup := by
    refine Schema.nodup_forwardKeys fun table column col r hcol hr => ?_
    rw [(column_of_buildSchema h hcol).2] at hr
    exact (of_lastReference_eq_some hr).2
  refine (List.perm_ext_iff_of_nodup hnodup hsources.of_map).2 fun k => ?_
  rw [Schema.mem_forwardKeys]
  constructor
  · rintro ⟨column, col, hcol, hr⟩
    rw [(column_of_buildSchema h hcol).2] at hr
    exact (of_lastReference_eq_some hr).1
  · intro hk
    obtain ⟨col, hcol⟩ := Option.isSome_iff_exists.1 (of_mem_acceptedKeys hk).2
    refine ⟨_, col, hcol, ?_⟩
    have honly : ∀ k' ∈ acceptedKeys s referenceRows, k'.source = k.source → k' = k :=
      fun k' hk' => List.inj_on_of_nodup_map hsources hk' hk
    rw [(column_of_buildSchema h hcol).2, lastReference_of_mem hk honly]

theorem ReferencesAgree.nodup_acceptedKeys (hagree : ReferencesAgree s)
    (h : buildSchema c tableRows columnRows referenceRows = .ok s) :
    (acceptedKeys s referenceRows).Nodup := by
  rw [List.nodup_iff_count_le_one]
  intro k
  by_cases hk : k ∈ acceptedKeys s referenceRows
  · obtain ⟨t, ht, -⟩ := exists_referencedBy h hk
    have hlist := hagree.nodup _ t ht
    rw [(references_of_buildSchema h ht).2.1, nodup_reverseReferences,
      List.nodup_iff_count_le_one] at hlist
    have hcount := hlist k
    rwa [List.count_filter (by simp)] at hcount
  · rw [List.count_eq_zero.2 hk]
    exact Nat.zero_le 1

theorem ReferencesAgree.lastReference (hagree : ReferencesAgree s)
    (h : buildSchema c tableRows columnRows referenceRows = .ok s) {k : ForeignKey}
    (hk : k ∈ acceptedKeys s referenceRows) :
    Catalog.lastReference (acceptedKeys s referenceRows) k.table k.reference.column =
      some k.reference := by
  obtain ⟨t, ht, hlisted⟩ := exists_referencedBy h hk
  obtain ⟨col, hcol, hr⟩ := hagree.isHeld _ t _ ht hlisted
  exact (column_of_buildSchema h hcol).2.symm.trans hr

theorem ReferencesAgree.nodup_sources (hagree : ReferencesAgree s)
    (h : buildSchema c tableRows columnRows referenceRows = .ok s) :
    ((acceptedKeys s referenceRows).map ForeignKey.source).Nodup := by
  refine (hagree.nodup_acceptedKeys h).map_on fun k hk k' hk' hsource => ?_
  obtain ⟨htable, hcolumn⟩ := Prod.mk.inj hsource
  have hreference := hagree.lastReference h hk
  rw [htable, hcolumn, hagree.lastReference h hk', Option.some_inj] at hreference
  obtain ⟨table, r⟩ := k
  obtain ⟨table', r'⟩ := k'
  exact congrArg₂ ForeignKey.mk htable hreference.symm

theorem ReferencesAgree.isSome_target (hagree : ReferencesAgree s)
    (h : buildSchema c tableRows columnRows referenceRows = .ok s) {k : ForeignKey}
    (hk : k ∈ acceptedKeys s referenceRows) :
    (s.column? k.reference.targetTable k.reference.targetColumn).isSome := by
  obtain ⟨t, ht, hlisted⟩ := exists_referencedBy h hk
  rw [Schema.column?, ht]
  exact hagree.pointsAtColumn _ t _ ht hlisted

theorem referencesAgree_of_nodup (h : buildSchema c tableRows columnRows referenceRows = .ok s)
    (hsources : ((acceptedKeys s referenceRows).map ForeignKey.source).Nodup)
    (htargets : ∀ k ∈ acceptedKeys s referenceRows,
      (s.column? k.reference.targetTable k.reference.targetColumn).isSome) :
    ReferencesAgree s where
  pointsAtColumn table t e ht he := by
    have htarget := htargets _ ((mem_referencedBy h ht).1 he)
    rw [Schema.column?, listedKey, Reference.inverse, ht] at htarget
    exact htarget
  isHeld table t e ht he := by
    have hk := (mem_referencedBy h ht).1 he
    obtain ⟨col, hcol⟩ := Option.isSome_iff_exists.1 (of_mem_acceptedKeys hk).2
    refine ⟨col, hcol, ?_⟩
    exact (column_of_buildSchema h hcol).2.trans
      (lastReference_of_mem hk fun k' hk' => List.inj_on_of_nodup_map hsources hk' hk)
  nodup table t ht := by
    rw [(references_of_buildSchema h ht).2.1, nodup_reverseReferences]
    exact hsources.of_map.filter _

/-- The two sides of a built schema agree just if no column has two accepted keys and each accepted
key points at a column that is there. If they agree, there are as many keys on one side as on the
other. -/
theorem referencesAgree_iff (h : buildSchema c tableRows columnRows referenceRows = .ok s) :
    (ReferencesAgree s ↔ ((acceptedKeys s referenceRows).map ForeignKey.source).Nodup ∧
      ∀ k ∈ acceptedKeys s referenceRows,
        (s.column? k.reference.targetTable k.reference.targetColumn).isSome) ∧
    (ReferencesAgree s → s.reverseKeys.length = s.forwardKeys.length) := by
  refine ⟨⟨fun hagree => ?_, fun hkeys => ?_⟩, fun hagree => ?_⟩
  · exact ⟨hagree.nodup_sources h, fun k hk => hagree.isSome_target h hk⟩
  · exact referencesAgree_of_nodup h hkeys.1 hkeys.2
  · have hforward := perm_forwardKeys h (hagree.nodup_sources h)
    exact ((perm_reverseKeys h).trans hforward.symm).length_eq

end Built

/-! ## A column that refers twice -/

/-- A row whose cells are all text. -/
def textRow (cells : List (String × String)) : Row :=
  Row.ofPairs (cells.map fun cell => (cell.1, .string cell.2))

def orderTables : List Row :=
  ["orders", "people", "users"].map fun table => textRow [("table_name", table)]

def orderColumns : List Row :=
  [("orders", "user_id", "MUL"), ("people", "id", "PRI"), ("users", "id", "PRI")].map
    fun (table, column, kind) => textRow [("table_name", table), ("column_name", column),
      ("ordinal_position", "1"), ("column_type", "int"), ("column_key", kind),
      ("is_nullable", "NO"), ("extra", "")]

/-- The user of an order refers to each of the tables. -/
def orderReferences (targets : List String) : List Row :=
  targets.map fun target => textRow [("table_name", "orders"), ("column_name", "user_id"),
    ("referenced_table_name", target), ("referenced_column_name", "id")]

def orderSchema (targets : List String) : Schema :=
  (buildSchema (.mysql "root" "secret" "shop") orderTables orderColumns
    (orderReferences targets)).toOption.getD default

theorem referencesAgree_orders :
    buildSchema (.mysql "root" "secret" "shop") orderTables orderColumns
        (orderReferences ["users"]) = .ok (orderSchema ["users"]) ∧
      ReferencesAgree (orderSchema ["users"]) ∧
      (orderSchema ["users"]).reverseKeys.length = (orderSchema ["users"]).forwardKeys.length := by
  have h : buildSchema (.mysql "root" "secret" "shop") orderTables orderColumns
      (orderReferences ["users"]) = .ok (orderSchema ["users"]) := eq_ok_of_toOption (by decide +kernel)
  have hagree : ReferencesAgree (orderSchema ["users"]) := by
    refine (referencesAgree_iff h).1.2 ⟨?_, ?_⟩
    · decide +kernel
    · decide +kernel
  exact ⟨h, hagree, (referencesAgree_iff h).2 hagree⟩

/-- The table `users` lists the key of a column that refers to `people`. -/
theorem not_referencesAgree_orders :
    ∃ s, buildSchema (.mysql "root" "secret" "shop") orderTables orderColumns
        (orderReferences ["users", "people"]) = .ok s ∧ ¬ReferencesAgree s := by
  refine ⟨orderSchema ["users", "people"], eq_ok_of_toOption (by decide +kernel), fun hagree => ?_⟩
  have hlist : ((orderSchema ["users", "people"]).table? "users").map Table.referencedBy =
      some [⟨"id", "orders", "user_id"⟩] := by decide +kernel
  have hheld : ((orderSchema ["users", "people"]).column? "orders" "user_id").map
      Column.refersTo = some (some ⟨"user_id", "people", "id"⟩) := by decide +kernel
  obtain ⟨t, ht, hlist⟩ := Option.map_eq_some_iff.1 hlist
  obtain ⟨c, hc, hr⟩ := hagree.isHeld "users" t ⟨"id", "orders", "user_id"⟩ ht (by simp [hlist])
  rw [hc, Option.map_some, hr] at hheld
  exact absurd hheld (by decide)

end Catalog

end TableAtlas
