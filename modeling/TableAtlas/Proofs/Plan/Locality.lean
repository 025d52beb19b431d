import TableAtlas.Proofs.Plan.ReferenceCounts

/-!
# What planning looks up

A schema may hold any number of tables, and planning looks at few of them. A query over a table depends on
the name and the columns of the table and on the labels of the tables that these columns refer to. The
counts of the rows that refer to a row of the table depend on the list of its references alone. Whatever
else the schema holds, the plan is the same, and so is the reason if there is none (`plans_local`).
-/

namespace TableAtlas

/-- The label column of a table; none if the schema lacks the table or the table has no label. -/
def Schema.labelColumn? (s : Schema) (table : String) : Option String :=
  (s.table? table).bind Table.labelColumn

/-- What planning reads of the table that a query is over. -/
def Table.named (t : Table) : String × SortedMap Column :=
  (t.name, t.columns)

/-- Schemas agree on a table if both have it with the same columns, or both lack it, and each table that
one of the columns refers to has the same label in both. -/
structure Schema.AgreeOn (s s' : Schema) (table : String) : Prop where
  named : (s.table? table).map Table.named = (s'.table? table).map Table.named
  labels : ∀ t column c r, s.table? table = some t → t.columns.get? column = some c →
    c.refersTo = some r → s.labelColumn? r.targetTable = s'.labelColumn? r.targetTable

namespace Plan

/-! ## Queries -/

theorem labelled?_eq (s : Schema) (t : Table) (name : String) :
    labelled? s t name = (t.columns.get? name).bind fun c => c.refersTo.bind fun r =>
      (s.labelColumn? r.targetTable).map fun label => (r, label) := by
  simp only [labelled?, Schema.labelColumn?, Option.bind_eq_bind, Option.pure_def,
    Option.map_eq_bind, Option.bind_assoc]
  rfl

section Queries

variable {s s' : Schema} {t t' : Table}

theorem labelled?_congr (hcolumns : t.columns = t'.columns)
    (hlabels : ∀ column c r, t.columns.get? column = some c → c.refersTo = some r →
      s.labelColumn? r.targetTable = s'.labelColumn? r.targetTable) (name : String) :
    labelled? s t name = labelled? s' t' name := by
  rw [labelled?_eq, labelled?_eq, ← hcolumns]
  refine Option.bind_congr fun c hc => Option.bind_congr fun r hr => ?_
  rw [hlabels name c r hc hr]

theorem selectFrom_congr (hnamed : t.named = t'.named)
    (hlabels : ∀ column c r, t.columns.get? column = some c → c.refersTo = some r →
      s.labelColumn? r.targetTable = s'.labelColumn? r.targetTable) (q : Query) :
    selectFrom s t q = selectFrom s' t' q := by
  obtain ⟨hname, hcolumns⟩ := Prod.mk.inj hnamed
  have hbase : baseNames t q = baseNames t' q := by
    simp only [baseNames, Table.columnsByOrdinal, hcolumns]
  have hlookups (names : List String) : labelLookups s t names = labelLookups s' t' names := by
    have hlabelled : labelled? s t = labelled? s' t' := funext (labelled?_congr hcolumns hlabels)
    simp only [labelLookups, labelLookup, hlabelled, hname]
  simp only [selectFrom, hbase, hlookups, hname]

theorem select_congr {q : Query} (h : s.AgreeOn s' q.table) : select s q = select s' q := by
  have hnamed := h.named
  cases ht : s.table? q.table with
  | none =>
    rw [ht, Option.map_none, eq_comm, Option.map_eq_none_iff] at hnamed
    rw [select, select, ht, hnamed]
  | some t =>
    rw [ht, Option.map_some, eq_comm, Option.map_eq_some_iff] at hnamed
    obtain ⟨t', ht', hnamed⟩ := hnamed
    have hlabels := fun column c r => h.labels t column c r ht
    simp only [select, ht, ht', selectFrom_congr hnamed.symm hlabels]

end Queries

/-! ## Counts of references -/

theorem referenceCount_congr {s s' : Schema} {table : String}
    (h : (s.table? table).map Table.referencedBy = (s'.table? table).map Table.referencedBy)
    (rowId : String) : referenceCount s table rowId = referenceCount s' table rowId := by
  cases ht : s.table? table with
  | none =>
    rw [ht, Option.map_none, eq_comm, Option.map_eq_none_iff] at h
    rw [referenceCount, referenceCount, ht, h]
  | some t =>
    rw [ht, Option.map_some, eq_comm, Option.map_eq_some_iff] at h
    obtain ⟨t', ht', hreferences⟩ := h
    simp only [referenceCount, ht, ht', hreferences]

/-! ## Plans -/

/-- Plans are local. Schemas that agree on a table give one result for every query over it, be it a
statement or an error, and schemas in which a table lists the same references, or that both lack it, give
one result for the counts of the references to each of its rows. -/
theorem plans_local (s s' : Schema) :
    (∀ q : Query, s.AgreeOn s' q.table → select s q = select s' q) ∧
    ∀ table : String,
      (s.table? table).map Table.referencedBy = (s'.table? table).map Table.referencedBy →
      ∀ rowId : String, referenceCount s table rowId = referenceCount s' table rowId :=
  ⟨fun _ h => select_congr h, fun _ h rowId => referenceCount_congr h rowId⟩

/-- The schema of orders with one table more, counted rows, and orders that are referred to. -/
def grownUserSchema : Schema :=
  { userSchema "orders" with
    name := "archive"
    tables := ((userSchema "orders").tables.insert "items"
      ⟨"items", ∅, none, { rows := some 7 }, some "title", []⟩).modify "orders" fun t =>
        { t with size := { rows := some 3 }, referencedBy := [⟨"user", "items", "order"⟩] } }

theorem plans_local_grown :
    userSchema "orders" ≠ grownUserSchema ∧
    (∀ q : Query, q.table = "orders" → select (userSchema "orders") q = select grownUserSchema q) ∧
    ∀ rowId, referenceCount (userSchema "orders") "users" rowId =
      referenceCount grownUserSchema "users" rowId := by
  have hlabels : ∀ t ∈ (userSchema "orders").table? "orders", ∀ entry ∈ t.columns.entries,
      ∀ r ∈ entry.2.refersTo, (userSchema "orders").labelColumn? r.targetTable =
        grownUserSchema.labelColumn? r.targetTable := by
    decide +kernel
  have hagree : (userSchema "orders").AgreeOn grownUserSchema "orders" :=
    ⟨by decide +kernel, fun t column c r ht hc hr =>
      hlabels t ht (column, c) (SortedMap.mem_entries_iff.2 hc) r hr⟩
  refine ⟨fun heq => absurd (congrArg Schema.name heq) (by decide +kernel), fun q hq => ?_, fun rowId => ?_⟩
  · exact (plans_local (userSchema "orders") grownUserSchema).1 q (by rwa [hq])
  · exact (plans_local (userSchema "orders") grownUserSchema).2 "users" (by decide +kernel) rowId

end Plan

end TableAtlas
