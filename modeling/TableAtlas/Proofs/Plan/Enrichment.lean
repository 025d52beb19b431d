import TableAtlas.Proofs.Plan.Paths
import TableAtlas.Proofs.Sql.Clauses

/-!
# Added labels

A planned query says the same as it would if no column of its table referred to another one, and behind
its select list stand look-ups of labels besides (`select_unreferring`). There is a look-up for each
column that the statement is about and that refers to a table with a label, in the order of the columns,
and the aliases are numbered without a gap (`numbered_of_select`).
-/

namespace TableAtlas

open Sql (Entry Condition Fragment Select)

/-! ## Tables without references -/

/-- The table with no reference at any of its columns. -/
def Table.unreferring (t : Table) : Table :=
  { t with columns := t.columns.map fun _ c => { c with refersTo := none } }

/-- The schema with no reference at any column of the table. -/
def Schema.unreferring (s : Schema) (table : String) : Schema :=
  { s with tables := s.tables.modify table Table.unreferring }

theorem Schema.table?_unreferring (s : Schema) (table : String) :
    (s.unreferring table).table? table = (s.table? table).map Table.unreferring := by
  simp [unreferring, table?, SortedMap.get?_modify]

theorem Table.columnsByOrdinal_unreferring (t : Table) :
    t.unreferring.columnsByOrdinal =
      t.columnsByOrdinal.map fun c => { c with refersTo := none } :=
  columnsByOrdinal_of_map rfl fun _ => rfl

/-! ## The text of a longer select list -/

namespace Sql

open Fragment (plain join text)

theorem renderSelectList_append {fs gs : List Fragment} (h : fs = [] → gs = []) :
    renderSelectList (fs ++ gs) = renderSelectList fs ++ ledBy ", " gs := by
  cases fs with
  | nil => simp [h rfl]
  | cons f fs =>
    have hall := join_eq_ledBy ", " f (fs ++ gs)
    have hfirst := join_eq_ledBy ", " f fs
    simp only [renderSelectList, List.cons_append, List.isEmpty_cons, Bool.false_eq_true, if_false,
      hall, hfirst]
    simp [ledBy]

theorem exists_text_lexemes (select : Select) (layout : Layout) :
    ∃ inner, text (select.lexemes layout) = "SELECT " ++ inner := by
  rw [Select.lexemes_eq, renderSelectList, List.append_assoc, Fragment.text_append, Fragment.text_plain]
  exact ⟨_, rfl⟩

theorem text_subselect (select : Select) (name : String) :
    text (Entry.subselect select name).lexemes =
      "(" ++ text (select.lexemes .singleLine) ++ ") AS " ++ escapeName name := by
  have hlexemes : (Entry.subselect select name).lexemes =
      plain "(" ++ select.lexemes .singleLine ++ plain ") AS " ++ [.name name] := rfl
  rw [hlexemes]
  simp only [Fragment.text_append, Fragment.text_plain, escapeName]

/-- Entries that follow others change the text in one place, right before the table. -/
theorem text_append_entries {clause : Select} {source : Source}
    (hsource : clause.source = some source) {entries : List Entry}
    (h : clause.entries = [] → entries = []) :
    ∃ rest,
      text (clause.lexemes .multiLine) =
        text (renderSelectList (entryLexemes clause.entries)) ++ "\nFROM " ++ rest ∧
      text (({ clause with entries := clause.entries ++ entries } : Select).lexemes .multiLine) =
        text (renderSelectList (entryLexemes clause.entries))
          ++ String.join (entries.map fun entry => ", " ++ entry.lexemes.text)
          ++ "\nFROM " ++ rest := by
  obtain ⟨rest, hrest⟩ : ∃ rest,
      text (ledBy Layout.multiLine.separator (clause.trailing.map Clause.lexemes)) =
        "\nFROM " ++ rest := by
    have hfrom : "\nFROM " = Layout.multiLine.separator ++ "FROM " := rfl
    simp only [Select.trailing, hsource, Option.map_some, Option.toList_some, List.cons_append,
      List.map_cons, ledBy_cons, Clause.lexemes, Clause.word, Word.text, Fragment.text_append,
      Fragment.text_plain, hfrom, String.append_assoc]
    exact ⟨_, rfl⟩
  have hempty : entryLexemes clause.entries = [] → entries.map Entry.lexemes = [] := by
    simpa [entryLexemes_eq] using h
  have htrailing : ({ clause with entries := clause.entries ++ entries } : Select).trailing =
      clause.trailing := rfl
  refine ⟨rest, ?_, ?_⟩
  · rw [Select.lexemes_eq, Fragment.text_append, hrest, String.append_assoc]
  · rw [Select.lexemes_eq, htrailing, Fragment.text_append, hrest, entryLexemes_eq, List.map_append,
      ← entryLexemes_eq, renderSelectList_append hempty, Fragment.text_append, text_ledBy, List.map_map]
    simp only [Function.comp_def, String.append_assoc]

end Sql

namespace Plan

open Sql (renderSelectList entryLexemes escapeName)

section Unreferring

variable (s s' : Schema) (t : Table) (q : Query)

theorem baseNames_unreferring : baseNames t.unreferring q = baseNames t q := by
  have hall : t.unreferring.columnsByOrdinal.map Column.name = t.columnsByOrdinal.map Column.name := by
    rw [Table.columnsByOrdinal_unreferring, List.map_map]
    rfl
  simp only [baseNames, hall]

theorem labelLookups_unreferring (names : List String) :
    labelLookups s t.unreferring names = [] := by
  have hnone : ∀ name ∈ names, labelled? s t.unreferring name = none := by
    intro name _
    cases hcolumn : t.columns.get? name with
    | none => simp [labelled?, Table.unreferring, hcolumn]
    | some c => simp [labelled?, Table.unreferring, hcolumn]
  rw [labelLookups, List.filterMap_eq_nil_iff.2 hnone, List.mapIdx_nil]

theorem exists_subselects (names : List String) :
    ∃ lookups : List (Select × String),
      labelLookups s t names = lookups.map fun lookup => .subselect lookup.1 lookup.2 := by
  refine ⟨((names.filterMap (labelled? s t)).mapIdx fun i found =>
    (lookupSelect t (i + 1) found.1 found.2, labelMarker ++ found.1.column)), ?_⟩
  rw [labelLookups, List.mapIdx_eq_zipIdx_map, List.mapIdx_eq_zipIdx_map, List.map_map]
  rfl

theorem clausesOf_unreferring (aggregate : List Entry) (conditions : List Condition) :
    clausesOf s t q aggregate conditions =
      { clausesOf s' t.unreferring q aggregate conditions with
        entries := (clausesOf s' t.unreferring q aggregate conditions).entries
          ++ labelLookups s t (baseNames t q) } := by
  simp only [clausesOf, baseNames_unreferring, labelLookups_unreferring, List.append_nil]
  rfl

end Unreferring

theorem mem_names_of_unreferring {s : Schema} (s' : Schema) {t : Table} {q : Query}
    {aggregate : List Entry} {conditions : List Condition}
    (haggregate : aggregateEntries q = .ok aggregate) {name : String}
    (h : name ∈ (clausesOf s' t.unreferring q aggregate conditions).names) :
    name ∈ (clausesOf s t q aggregate conditions).names := by
  have hnone : (baseNames t q).filterMap (labelled? s' t.unreferring) = [] := by
    have hlookups := labelLookups_unreferring s' t (baseNames t q)
    rwa [labelLookups, List.mapIdx_eq_nil_iff] at hlookups
  rw [names_clausesOf haggregate, baseNames_unreferring, hnone] at h
  simp only [names_clausesOf haggregate, List.mem_append, List.zipIdx_nil, List.flatMap_nil,
    List.not_mem_nil, or_false] at h ⊢
  rcases h with (((h | h) | h) | h) | h
  · exact .inl (.inl (.inl (.inl (.inl h))))
  · exact .inl (.inl (.inl (.inr h)))
  · exact .inl (.inl (.inr h))
  · exact .inl (.inr h)
  · exact .inr h

/-- A planned query has the parameters that it has without references, and its text is the text without
references with look-ups put in at the end of the select list, right before the table. -/
theorem select_unreferring {s : Schema} {q : Query} {st : Statement} (h : select s q = .ok st) :
    ∃ st' t clause rest, ∃ lookups : List (Select × String),
      select (s.unreferring q.table) q = .ok st' ∧ st'.params = st.params ∧
      s.table? q.table = some t ∧
      selectFrom (s.unreferring q.table) t.unreferring q = .ok (clause, st.params) ∧
      selectFrom s t q = .ok ({ clause with
        entries := clause.entries ++ lookups.map fun lookup => .subselect lookup.1 lookup.2 },
        st.params) ∧
      st'.sql = (renderSelectList (entryLexemes clause.entries)).text ++ "\nFROM " ++ rest ∧
      st.sql = (renderSelectList (entryLexemes clause.entries)).text
        ++ String.join (lookups.map fun lookup =>
          ", (" ++ (lookup.1.lexemes .singleLine).text ++ ") AS " ++ escapeName lookup.2)
        ++ "\nFROM " ++ rest ∧
      ∀ lookup ∈ lookups, ∃ inner, (lookup.1.lexemes .singleLine).text = "SELECT " ++ inner := by
  obtain ⟨t, clause, htable, hselect, htext⟩ := select_eq_ok_iff.1 h
  obtain ⟨hnames, aggregate, filters, haggregate, hfilters, rfl, hparams⟩ :=
    selectFrom_eq_ok_iff.1 hselect
  rw [Sql.Select.text_eq, Sql.written_eq_ok_iff] at htext
  let s' := s.unreferring q.table
  let base := clausesOf s' t.unreferring q aggregate (filters.map Prod.fst)
  obtain ⟨lookups, hlookups⟩ := exists_subselects s t (baseNames t q)
  have hclause := clausesOf_unreferring s s' t q aggregate (filters.map Prod.fst)
  -- A statement without other entries has a star in their stead, and no columns to look up labels for.
  have hempty : base.entries = [] → labelLookups s t (baseNames t q) = [] := by
    intro hnone
    have hcolumns := (List.append_eq_nil_iff.1 (List.append_eq_nil_iff.1 hnone).1).1
    have hbase : baseNames t q = [] := by
      simpa only [baseNames_unreferring, List.map_eq_nil_iff] using hcolumns
    rw [hbase]
    rfl
  obtain ⟨rest, hbase, henriched⟩ := @Sql.text_append_entries base _ rfl _ hempty
  have hselect' : selectFrom s' t.unreferring q = .ok (base, st.params) :=
    selectFrom_eq_ok_iff.2 ⟨hnames, aggregate, filters, haggregate, hfilters, rfl, hparams⟩
  have hplan : select s' q = .ok ⟨(base.lexemes .multiLine).text, st.params⟩ := by
    refine select_eq_ok_iff.2 ⟨t.unreferring, base, ?_, hselect', ?_⟩
    · rw [Schema.table?_unreferring, htable, Option.map_some]
    · rw [Sql.Select.text_eq, Sql.written_eq_ok_iff]
      exact ⟨fun name hname => htext.1 name (mem_names_of_unreferring s' haggregate hname), rfl⟩
  refine ⟨_, t, base, rest, lookups, hplan, rfl, htable, hselect', ?_, hbase, ?_,
    fun lookup _ => Sql.exists_text_lexemes lookup.1 .singleLine⟩
  · rw [← hlookups, ← hclause]
    exact hselect
  · have hopen : ", (" = ", " ++ "(" := rfl
    rw [← htext.2, hclause, henriched, hlookups, List.map_map]
    simp only [Function.comp_def, Sql.text_subselect, hopen, String.append_assoc]

/-- Orders of one user, with the label of the user. -/
def labelledOrders : Query :=
  { Query.ofTable "orders" with filters := some [⟨"user", "=", some "Ann"⟩] }

theorem select_unreferring_orders :
    ∃ st, select (userSchema "orders") labelledOrders = .ok st ∧
      ∃ st', select ((userSchema "orders").unreferring "orders") labelledOrders = .ok st' ∧
        st'.params = ["Ann"] := by
  have hplan : select (userSchema "orders") labelledOrders = .ok
      ⟨"SELECT `user`, (SELECT `t1`.`name` FROM `users` `t1` WHERE `t1`.`name` = " ++
        "`orders`.`user`) AS `$label$user`\nFROM `orders`\nWHERE `user` = ?\nLIMIT 300", ["Ann"]⟩ :=
    eq_ok_of_toOption (by decide +kernel)
  obtain ⟨st', _, _, _, _, hplan', hparams, -⟩ := select_unreferring hplan
  exact ⟨_, hplan, st', hplan', hparams⟩

/-! ## Numbered look-ups -/

/-- The names of the columns that a statement over a table is about, in their order. -/
inductive IsBase (t : Table) (q : Query) : List String → Prop
  | grouped {a : Aggregate} (ha : q.aggregate = some a) : IsBase t q a.groupBy
  | chosen {name : String} {rest : List String} (ha : q.aggregate = none)
    (hcolumns : q.columns = some (name :: rest)) : IsBase t q (name :: rest)
  | byDefault {entries : List (String × Column)} (ha : q.aggregate = none)
    (hcolumns : q.columns.getD [] = []) (hperm : entries.Perm t.columns.entries)
    (hsorted : entries.Pairwise columnOrder) : IsBase t q (entries.map fun entry => entry.2.name)

theorem isBase_baseNames (t : Table) (q : Query) : IsBase t q (baseNames t q) := by
  rcases baseNames_cases t q with ⟨a, ha, h⟩ | ⟨name, rest, ha, hcolumns, h⟩ | ⟨ha, hcolumns, h⟩
  · rw [h]
    exact .grouped ha
  · rw [h]
    exact .chosen ha hcolumns
  · obtain ⟨entries, hperm, hsorted, hall⟩ := exists_entries_columnsByOrdinal t
    rw [h, hall, List.map_map]
    exact .byDefault ha hcolumns hperm hsorted

/-- The look-ups for a list of names, numbered on from a number. A name without a label uses none up. -/
inductive NumberedLookups (s : Schema) (t : Table) : Nat → List String → List Entry → Prop
  | nil {number : Nat} : NumberedLookups s t number [] []
  | found {number : Nat} {name : String} {names : List String} {r : Reference} {label : String}
    {lookups : List Entry} (hlabel : HasLabel s t name r label)
    (hrest : NumberedLookups s t (number + 1) names lookups) :
    NumberedLookups s t number (name :: names)
      (.subselect (lookupSelect t number r label) (labelMarker ++ r.column) :: lookups)
  | skipped {number : Nat} {name : String} {names : List String} {lookups : List Entry}
    (hnone : ∀ r label, ¬HasLabel s t name r label)
    (hrest : NumberedLookups s t number names lookups) :
    NumberedLookups s t number (name :: names) lookups

theorem NumberedLookups.of_getElem? {s : Schema} {t : Table} {number : Nat} {names : List String}
    {lookups : List Entry} (h : NumberedLookups s t number names lookups) {k : Nat} {entry : Entry}
    (hk : lookups[k]? = some entry) :
    ∃ name r label, name ∈ names ∧ HasLabel s t name r label ∧
      entry = .subselect (lookupSelect t (k + number) r label) (labelMarker ++ r.column) := by
  induction h generalizing k with
  | nil => simp at hk
  | @found number name names r label lookups hlabel _ ih =>
    cases k with
    | zero =>
      obtain rfl := Option.some.inj hk
      exact ⟨name, r, label, List.mem_cons_self, hlabel, by rw [Nat.zero_add]⟩
    | succ k =>
      obtain ⟨name', r', label', hname', hlabel', rfl⟩ := ih hk
      exact ⟨name', r', label', List.mem_cons_of_mem _ hname', hlabel',
        by rw [Nat.add_right_comm, Nat.add_assoc]⟩
  | skipped _ _ ih =>
    obtain ⟨name', r', label', hname', hlabel', rfl⟩ := ih hk
    exact ⟨name', r', label', List.mem_cons_of_mem _ hname', hlabel', rfl⟩

theorem numberedLookups_mapIdx (s : Schema) (t : Table) (names : List String) (number : Nat) :
    NumberedLookups s t number names
      ((names.filterMap (labelled? s t)).mapIdx fun i found =>
        labelLookup t (i + number) found.1 found.2) := by
  induction names generalizing number with
  | nil => exact .nil
  | cons name names ih =>
    cases hfound : labelled? s t name with
    | none =>
      rw [List.filterMap_cons_none hfound]
      refine .skipped (fun r label hlabel => ?_) (ih number)
      rw [HasLabel, ← labelled?_eq_some_iff, hfound] at hlabel
      cases hlabel
    | some found =>
      obtain ⟨r, label⟩ := found
      -- The names behind this one are numbered on from the next number.
      have hshift (i : Nat) : i + 1 + number = i + (number + 1) := by omega
      rw [List.filterMap_cons_some hfound, List.mapIdx_cons]
      simp only [hshift, Nat.zero_add]
      exact .found (labelled?_eq_some_iff.1 hfound) (ih (number + 1))

/-- A planned query looks up the label of each column that it is about and that refers to a table with a
label, in their order behind all other entries, and no other label. The look-up at a place has the
number of the place, counted from one. -/
theorem numbered_of_select {s : Schema} {q : Query} {st : Statement} (h : select s q = .ok st) :
    ∃ t clause base aggregate lookups, s.table? q.table = some t ∧
      selectFrom s t q = .ok (clause, st.params) ∧ clause.text .multiLine = .ok st.sql ∧
      clause.entries = base.map .column ++ aggregate ++ lookups ∧ IsBase t q base ∧
      (q.aggregate = none ∧ aggregate = [] ∨
        ∃ a text asName, q.aggregate = some a ∧ aggregate = [.expression text asName]) ∧
      NumberedLookups s t 1 base lookups ∧
      ∀ k entry, lookups[k]? = some entry → ∃ name r label, name ∈ base ∧ HasLabel s t name r label ∧
        entry = Entry.subselect (lookupSelect t (k + 1) r label) (labelMarker ++ r.column) := by
  obtain ⟨t, clause, htable, hselect, htext⟩ := select_eq_ok_iff.1 h
  obtain ⟨-, aggregate, filters, haggregate, -, rfl, -⟩ := selectFrom_eq_ok_iff.1 hselect
  have hnumbered : NumberedLookups s t 1 (baseNames t q) (labelLookups s t (baseNames t q)) :=
    numberedLookups_mapIdx s t (baseNames t q) 1
  refine ⟨t, _, baseNames t q, aggregate, labelLookups s t (baseNames t q), htable, hselect, htext, rfl,
    isBase_baseNames t q, ?_, hnumbered, fun k entry hk => hnumbered.of_getElem? hk⟩
  rcases aggregateEntries_cases haggregate with hnone | ⟨a, _, text, ha, -, rfl⟩
  · exact .inl hnone
  · exact .inr ⟨a, text, _, ha, rfl⟩

theorem numbered_of_select_repeated :
    ∃ st, select (userSchema "orders")
        { Query.ofTable "orders" with columns := some ["user", "number", "user"] } = .ok st ∧
      ∃ t lookups, (userSchema "orders").table? "orders" = some t ∧
        NumberedLookups (userSchema "orders") t 1 ["user", "number", "user"] lookups := by
  have hplan : select (userSchema "orders")
      { Query.ofTable "orders" with columns := some ["user", "number", "user"] } = .ok
      ⟨"SELECT `user`, `number`, `user`, " ++
        "(SELECT `t1`.`name` FROM `users` `t1` WHERE `t1`.`name` = `orders`.`user`) AS `$label$user`, " ++
        "(SELECT `t2`.`name` FROM `users` `t2` WHERE `t2`.`name` = `orders`.`user`) AS `$label$user`" ++
        "\nFROM `orders`\nLIMIT 300", []⟩ := eq_ok_of_toOption (by decide +kernel)
  obtain ⟨t, _, base, _, lookups, htable, -, -, -, hbase, -, hnumbered, -⟩ := numbered_of_select hplan
  obtain rfl : base = ["user", "number", "user"] := by
    cases hbase with
    | grouped ha => cases ha
    | chosen _ hcolumns => exact (Option.some.inj hcolumns).symm
    | byDefault _ hcolumns => cases hcolumns
  exact ⟨_, hplan, t, lookups, htable, hnumbered⟩

end Plan

end TableAtlas
