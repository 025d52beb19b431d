import TableAtlas.Proofs.Explorer.CatalogNames
import TableAtlas.Proofs.Plan.Paths

/-!
# Configured labels in statements

A configured label wins over the columns of its table and reaches the look-ups of every table that
refers to it, where it is read as a path. A blank one is dropped on the way, and no other check is
made. So the selection of all columns of a table fails just if a label that it looks up is configured
with an empty part, as in `name.`, and the first such look-up is the one reported
(`select_ofTable_iff_configured`).
-/

namespace TableAtlas

open Sql (nameError? nameParts NameError)

/-- A name of a single part. -/
def IsPlainName (name : String) : Prop :=
  name ≠ "" ∧ '.' ∉ name.toList

instance : DecidablePred IsPlainName :=
  fun name => inferInstanceAs (Decidable (name ≠ "" ∧ '.' ∉ name.toList))

theorem IsPlainName.empty_notMem_nameParts {name : String} (h : IsPlainName name) :
    "" ∉ nameParts name := by
  rw [Sql.nameParts_of_notMem h.2, List.mem_singleton]
  exact h.1.symm

theorem IsPlainName.nameError?_eq_none {name : String} (h : IsPlainName name) :
    nameError? name = none :=
  Sql.nameError?_eq_none_iff.2 h.empty_notMem_nameParts

namespace Plan

/-! ## Faulty labels -/

/-- The fault of the first label that cannot be written behind the alias of its look-up. -/
def labelFault? (founds : List (Reference × String)) : Option NameError :=
  founds.zipIdx.findSome? fun found => nameError? (lookupAlias (found.2 + 1) ++ "." ++ found.1.2)

theorem labelFault?_eq_none_iff {founds : List (Reference × String)} :
    labelFault? founds = none ↔ ∀ found ∈ founds, "" ∉ nameParts found.2 := by
  have hmem : ∀ found, found ∈ founds ↔ ∃ i, (found, i) ∈ founds.zipIdx := by
    intro found
    constructor
    · intro hfound
      rw [← List.zipIdx_map_fst 0 founds] at hfound
      obtain ⟨⟨_, i⟩, hi, rfl⟩ := List.mem_map.1 hfound
      exact ⟨i, hi⟩
    · rintro ⟨i, hi⟩
      exact List.fst_mem_of_mem_zipIdx hi
  rw [labelFault?, List.findSome?_eq_none_iff]
  simp only [Sql.nameError?_eq_none_iff, empty_mem_nameParts_behind_alias]
  constructor
  · intro h found hfound
    obtain ⟨i, hi⟩ := (hmem found).1 hfound
    exact h (found, i) hi
  · intro h found hfound
    exact h found.1 ((hmem found.1).2 ⟨found.2, hfound⟩)

theorem of_labelFault?_eq_some {founds : List (Reference × String)} {fault : NameError}
    (h : labelFault? founds = some fault) :
    ∃ earlier r label later, founds = earlier ++ (r, label) :: later ∧
      (∀ found ∈ earlier, "" ∉ nameParts found.2) ∧ "" ∈ nameParts label ∧
      fault = .malformed (lookupAlias (earlier.length + 1) ++ "." ++ label) := by
  obtain ⟨before, ⟨⟨r, label⟩, i⟩, after, hsplit, hfault, hbefore⟩ := List.findSome?_eq_some_iff.1 h
  obtain ⟨hempty, rfl⟩ := nameError?_behind_alias.1 hfault
  have hfounds : founds = before.map Prod.fst ++ (r, label) :: after.map Prod.fst := by
    rw [← List.zipIdx_map_fst 0 founds, hsplit, List.map_append, List.map_cons]
  -- The number of a look-up counts those before it.
  have hnumber : i = before.length := by
    have hget := congrArg (fun numbered => numbered[before.length]?) hsplit
    simp only [List.getElem?_zipIdx, List.getElem?_append_right (Nat.le_refl _), Nat.sub_self,
      List.getElem?_cons_zero, Option.map_eq_some_iff, Prod.mk.injEq] at hget
    obtain ⟨_, -, -, hi⟩ := hget
    omega
  refine ⟨_, r, label, _, hfounds, ?_, hempty, ?_⟩
  · intro found hfound
    obtain ⟨numbered, hmem, rfl⟩ := List.mem_map.1 hfound
    have hnone := Sql.nameError?_eq_none_iff.1 (hbefore numbered hmem)
    exact fun hempty => hnone (empty_mem_nameParts_behind_alias.2 hempty)
  · rw [List.length_map, hnumber]

/-! ## The checked names of a selection -/

section Checked

variable {s : Schema} {t : Table} {table : String}

/-- The labels that the selection of all columns of a table looks up, in the order of the text. -/
def foundLabels (s : Schema) (t : Table) : List (Reference × String) :=
  (t.columnsByOrdinal.map Column.name).filterMap (labelled? s t)

/-- The names in the selection of all columns of a table that are checked. -/
def checkedNames (s : Schema) (t : Table) : List String :=
  t.columnsByOrdinal.map Column.name
    ++ (foundLabels s t).zipIdx.flatMap
      (fun found => checkedLookup (found.2 + 1) found.1.1 found.1.2)
    ++ [t.name]

theorem names_clausesOf_ofTable (s : Schema) (t : Table) (table : String) :
    (clausesOf s t (.ofTable table) [] []).names = checkedNames s t := by
  rw [names_clausesOf (q := .ofTable table) rfl]
  simp [baseNames, Query.ofTable, Query.allSortKeys, checkedNames, foundLabels]

/-- The selection of all columns of a table fails for the first name that cannot be written, and for
no other reason. -/
theorem select_ofTable_eq (ht : s.table? table = some t) :
    select s (.ofTable table) =
      match (checkedNames s t).findSome? nameError? with
      | some fault => .error (.compilation (.badName fault))
      | none => .ok ⟨((clausesOf s t (.ofTable table) [] []).lexemes .multiLine).text, []⟩ := by
  rw [select_ofTable ht, Sql.Select.text_eq, names_clausesOf_ofTable, Sql.written]
  cases (checkedNames s t).findSome? nameError? with
  | some fault => rfl
  | none => rfl

theorem mem_foundLabels (hwell : t.WellFormedIn s table) {r : Reference} {label : String} :
    (r, label) ∈ foundLabels s t ↔
      ∃ column c target, t.columns.get? column = some c ∧ c.refersTo = some r ∧
        s.table? r.targetTable = some target ∧ target.labelColumn = some label := by
  simp only [foundLabels, List.mem_filterMap, List.mem_map, mem_columnsByOrdinal,
    labelled?_eq_some_iff]
  constructor
  · rintro ⟨name, -, c, target, hc, hr, htarget, hlabel⟩
    exact ⟨name, c, target, hc, hr, htarget, hlabel⟩
  · rintro ⟨column, c, target, hc, hr, htarget, hlabel⟩
    exact ⟨column, ⟨c, ⟨column, hc⟩, hwell.columnName column c hc⟩, c, target, hc, hr, htarget, hlabel⟩

theorem findSome?_checkedNames (hown : nameError? t.name = none)
    (hcolumns : ∀ c ∈ t.columnsByOrdinal, nameError? c.name = none)
    (htargets : ∀ found ∈ foundLabels s t,
      nameError? found.1.targetTable = none ∧ "" ∉ nameParts found.1.targetColumn) :
    (checkedNames s t).findSome? nameError? = labelFault? (foundLabels s t) := by
  have hnames : (t.columnsByOrdinal.map Column.name).findSome? nameError? = none := by
    rw [List.findSome?_eq_none_iff]
    intro name hname
    obtain ⟨c, hc, rfl⟩ := List.mem_map.1 hname
    exact hcolumns c hc
  have hlookup : ∀ found ∈ (foundLabels s t).zipIdx,
      (checkedLookup (found.2 + 1) found.1.1 found.1.2).findSome? nameError? =
        nameError? (lookupAlias (found.2 + 1) ++ "." ++ found.1.2) := by
    intro found hfound
    obtain ⟨htable, htarget⟩ := htargets found.1 (List.fst_mem_of_mem_zipIdx hfound)
    have htarget' : nameError? (lookupAlias (found.2 + 1) ++ "." ++ found.1.1.targetColumn) = none :=
      Sql.nameError?_eq_none_iff.2 fun h => htarget (empty_mem_nameParts_behind_alias.1 h)
    simp only [checkedLookup, List.findSome?_cons, List.findSome?_nil, htable, htarget']
    cases nameError? (lookupAlias (found.2 + 1) ++ "." ++ found.1.2) <;> rfl
  rw [checkedNames, List.findSome?_append, List.findSome?_append, hnames,
    findSome?_flatMap_of_forall hlookup]
  simp [hown, labelFault?]

end Checked

end Plan

/-! ## Configured labels -/

/-- Over a catalog whose names are single parts, the selection of all columns of a table is planned just
if no table that a column refers to has a configured label with an empty part. Otherwise the first
look-up of such a label, counted from one, is at fault. -/
theorem select_ofTable_iff_configured {c : Configuration}
    {tableRows columnRows referenceRows : List Row} {s : Schema}
    (hbuilt : Catalog.buildSchema c tableRows columnRows referenceRows = .ok s)
    (hplain : ∀ rows ∈ [tableRows, columnRows, referenceRows], Catalog.NamesAre IsPlainName rows)
    {table : String} {t : Table} (ht : s.table? table = some t) :
    ((∃ st, Plan.select s (.ofTable table) = .ok st) ↔
      ∀ column col r label, t.columns.get? column = some col → col.refersTo = some r →
        c.labelColumn? r.targetTable = some label → "" ∉ nameParts label) ∧
    ∀ e, Plan.select s (.ofTable table) = .error e →
      ∃ earlier r label later, Plan.foundLabels s t = earlier ++ (r, label) :: later ∧
        (∀ found ∈ earlier, "" ∉ nameParts found.2) ∧
        c.labelColumn? r.targetTable = some label ∧ "" ∈ nameParts label ∧
        e = .compilation (.badName
          (.malformed (Plan.lookupAlias (earlier.length + 1) ++ "." ++ label))) := by
  have hwell := Catalog.wellFormed_of_buildSchema hbuilt
  have hnames : ∀ {table t}, s.table? table = some t →
      t.NamesAre IsPlainName (c.labelColumn? table) :=
    Catalog.namesAre_of_buildSchema hbuilt hplain
  -- A label with an empty part is a configured one.
  have hconfigured : ∀ found ∈ Plan.foundLabels s t, "" ∈ nameParts found.2 →
      c.labelColumn? found.1.targetTable = some found.2 := by
    rintro ⟨r, label⟩ hfound hempty
    obtain ⟨_, _, target, -, -, htarget, hlabel⟩ := (Plan.mem_foundLabels (hwell table t ht)).1 hfound
    rcases (hnames htarget).label label hlabel with hlabel | hplainLabel
    · exact hlabel
    · exact absurd hempty hplainLabel.empty_notMem_nameParts
  have hcolumns : ∀ col ∈ t.columnsByOrdinal, nameError? col.name = none := by
    intro col hcol
    obtain ⟨column, hcolumn⟩ := mem_columnsByOrdinal.1 hcol
    exact ((hnames ht).column column col hcolumn).nameError?_eq_none
  have htargets : ∀ found ∈ Plan.foundLabels s t,
      nameError? found.1.targetTable = none ∧ "" ∉ nameParts found.1.targetColumn := by
    rintro ⟨r, label⟩ hfound
    obtain ⟨column, col, target, hcol, hr, htarget, -⟩ :=
      (Plan.mem_foundLabels (hwell table t ht)).1 hfound
    refine ⟨?_, ((hnames ht).target column col r hcol hr).empty_notMem_nameParts⟩
    rw [← (hwell _ target htarget).name]
    exact (hnames htarget).name.nameError?_eq_none
  have hfault := Plan.findSome?_checkedNames (hnames ht).name.nameError?_eq_none hcolumns htargets
  have hselect := Plan.select_ofTable_eq ht
  rw [hfault] at hselect
  have hsucceeds : (∃ st, Plan.select s (.ofTable table) = .ok st) ↔
      Plan.labelFault? (Plan.foundLabels s t) = none := by
    rw [hselect]
    cases Plan.labelFault? (Plan.foundLabels s t) <;> simp
  refine ⟨?_, fun e he => ?_⟩
  · rw [hsucceeds, Plan.labelFault?_eq_none_iff]
    constructor
    · intro h column col r label hcol hr hlabel
      obtain ⟨target, htarget⟩ := Option.isSome_iff_exists.1
        ((hwell table t ht).refersTo column col r hcol hr).2
      have hown := Catalog.labelColumn_of_configured hbuilt htarget hlabel
      exact h (r, label)
        ((Plan.mem_foundLabels (hwell table t ht)).2 ⟨column, col, target, hcol, hr, htarget, hown⟩)
    · rintro h ⟨r, label⟩ hfound hempty
      obtain ⟨column, col, _, hcol, hr, -, -⟩ := (Plan.mem_foundLabels (hwell table t ht)).1 hfound
      exact h column col r label hcol hr (hconfigured _ hfound hempty) hempty
  · rw [he] at hselect
    cases hfirst : Plan.labelFault? (Plan.foundLabels s t) with
    | none =>
      rw [hfirst] at hselect
      cases hselect
    | some fault =>
      rw [hfirst] at hselect
      obtain ⟨earlier, r, label, later, hfounds, hearlier, hempty, rfl⟩ :=
        Plan.of_labelFault?_eq_some hfirst
      have hmem : (r, label) ∈ Plan.foundLabels s t := by simp [hfounds]
      exact ⟨earlier, r, label, later, hfounds, hearlier, hconfigured _ hmem hempty, hempty,
        Except.error.inj hselect⟩

open Plan (userTables userColumns userReferences)

/-- The users are labelled by configuration. -/
def labelledUsers (label : String) : Configuration :=
  (Configuration.mysql "root" "secret" "shop").withLabelColumn "users" label

def labelledUsersSchema (label : String) : Schema :=
  (Catalog.buildSchema (labelledUsers label) (userTables "orders") (userColumns "orders")
    (userReferences "orders")).toOption.getD default

theorem eq_of_labelledUsers {label table configured : String}
    (h : (labelledUsers label).labelColumn? table = some configured) : configured = label := by
  have hget := (Option.filter_eq_some_iff.1 h).1
  rw [labelledUsers, Configuration.withLabelColumn, SortedMap.get?_insert] at hget
  by_cases htable : table = "users"
  · simpa [htable, eq_comm] using hget
  · simp [Ne.symm htable, Configuration.mysql] at hget

theorem select_ofTable_nick :
    Catalog.buildSchema (labelledUsers "nick") (userTables "orders") (userColumns "orders")
        (userReferences "orders") = .ok (labelledUsersSchema "nick") ∧
      (∀ rows ∈ [userTables "orders", userColumns "orders", userReferences "orders"],
        Catalog.NamesAre IsPlainName rows) ∧
      ∃ t, (labelledUsersSchema "nick").table? "orders" = some t ∧
        ∃ st, Plan.select (labelledUsersSchema "nick") (.ofTable "orders") = .ok st := by
  have hbuilt : Catalog.buildSchema (labelledUsers "nick") (userTables "orders")
      (userColumns "orders") (userReferences "orders") = .ok (labelledUsersSchema "nick") :=
    eq_ok_getD_of_isSome (by decide +kernel)
  have hplain : ∀ rows ∈ [userTables "orders", userColumns "orders", userReferences "orders"],
      Catalog.NamesAre IsPlainName rows := by decide +kernel
  have hlisted : ((labelledUsersSchema "nick").table? "orders").isSome := by decide +kernel
  obtain ⟨t, ht⟩ := Option.isSome_iff_exists.1 hlisted
  refine ⟨hbuilt, hplain, t, ht, (select_ofTable_iff_configured hbuilt hplain ht).1.2 ?_⟩
  intro column col r label _ _ hlabel
  rw [eq_of_labelledUsers hlabel]
  exact IsPlainName.empty_notMem_nameParts (by decide)

/-- A label that ends with a point is looked up as `t1.name.`, which is no path. -/
theorem not_select_ofTable_trailing_point :
    Catalog.buildSchema (labelledUsers "name.") (userTables "orders") (userColumns "orders")
        (userReferences "orders") = .ok (labelledUsersSchema "name.") ∧
      (∀ rows ∈ [userTables "orders", userColumns "orders", userReferences "orders"],
        Catalog.NamesAre IsPlainName rows) ∧
      Plan.select (labelledUsersSchema "name.") (.ofTable "orders") =
        .error (.compilation (.badName (.malformed "t1.name."))) := by
  have hbuilt : Catalog.buildSchema (labelledUsers "name.") (userTables "orders")
      (userColumns "orders") (userReferences "orders") = .ok (labelledUsersSchema "name.") :=
    eq_ok_getD_of_isSome (by decide +kernel)
  have hseen : ((labelledUsersSchema "name.").table? "orders").map (fun t =>
      (Plan.checkedNames (labelledUsersSchema "name.") t).findSome? nameError?) =
        some (some (.malformed "t1.name.")) := by decide +kernel
  obtain ⟨t, ht, hfault⟩ := Option.map_eq_some_iff.1 hseen
  refine ⟨hbuilt, by decide +kernel, ?_⟩
  rw [Plan.select_ofTable_eq ht, hfault]

end TableAtlas
