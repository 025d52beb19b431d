import TableAtlas.Proofs.Sql.Paths

/-!
# Statements without a text

A statement has a text unless a name that it writes as a path is none, however deep the name is nested.
The first such name in the order of the text is then reported: the select list comes first, with its
nested statements where they stand, and then the table, the conditions, the groups and the sort keys.
Nothing else in a statement has a say in this: with its aliases, operators, values and expressions taken
away it fails for the same name (`Select.text_fails_iff`).
-/

namespace TableAtlas.Sql

/-! ## The paths of a statement -/

/-- The names that a statement writes as paths, in itself or in a statement nested in it. -/
inductive Select.HasPath : Select → String → Prop
  | column {s : Select} {name : String} (h : .column name ∈ s.entries) : s.HasPath name
  | nested {s inner : Select} {asName name : String} (h : .subselect inner asName ∈ s.entries)
    (hinner : inner.HasPath name) : s.HasPath name
  | source {s : Select} {source : Source} (h : s.source = some source) : s.HasPath source.name
  | condition {s : Select} {c : Condition} (h : c ∈ s.conditions) : s.HasPath c.field
  | group {s : Select} {name : String} (h : name ∈ s.groupBy) : s.HasPath name
  | sortKey {s : Select} {k : SortKey} (h : k ∈ s.orderBy) : s.HasPath k.field

theorem Select.mem_names_iff {s : Select} {name : String} :
    name ∈ s.names ↔ name ∈ entryNames s.entries ∨
      (∃ source, s.source = some source ∧ source.name = name) ∨
      (∃ c ∈ s.conditions, c.field = name) ∨ name ∈ s.groupBy ∨ ∃ k ∈ s.orderBy, k.field = name := by
  obtain ⟨source, entries, conditions, groupBy, orderBy, limit, offset⟩ := s
  simp [Select.names]

theorem Select.HasPath.mem_names {s : Select} {name : String} (h : s.HasPath name) :
    name ∈ s.names := by
  induction h with
  | column h =>
    rw [Select.mem_names_iff, entryNames_eq]
    exact .inl (List.mem_flatMap.2 ⟨_, h, by simp [Entry.names]⟩)
  | nested h hinner ih =>
    rw [Select.mem_names_iff, entryNames_eq]
    exact .inl (List.mem_flatMap.2 ⟨_, h, by rwa [Entry.names]⟩)
  | source h => exact Select.mem_names_iff.2 (.inr (.inl ⟨_, h, rfl⟩))
  | condition h => exact Select.mem_names_iff.2 (.inr (.inr (.inl ⟨_, h, rfl⟩)))
  | group h => exact Select.mem_names_iff.2 (.inr (.inr (.inr (.inl h))))
  | sortKey h => exact Select.mem_names_iff.2 (.inr (.inr (.inr (.inr ⟨_, h, rfl⟩))))

mutual

theorem Entry.hasPath_of_mem_names {s : Select} {name : String} :
    (entry : Entry) → entry ∈ s.entries → name ∈ entry.names → s.HasPath name
  | .column _, hentry, h => by
    rw [Entry.names, List.mem_singleton] at h
    exact .column (h ▸ hentry)
  | .expression _ _, _, h => by simp [Entry.names] at h
  | .subselect inner _, hentry, h => by
    rw [Entry.names] at h
    exact .nested hentry (inner.hasPath_of_mem_names h)

theorem hasPath_of_mem_entryNames {s : Select} {name : String} :
    (entries : List Entry) → (∀ entry ∈ entries, entry ∈ s.entries) → name ∈ entryNames entries →
      s.HasPath name
  | [], _, h => by simp [entryNames] at h
  | entry :: rest, hentries, h => by
    obtain ⟨hentry, hrest⟩ := List.forall_mem_cons.1 hentries
    rw [entryNames, List.mem_append] at h
    rcases h with h | h
    · exact entry.hasPath_of_mem_names hentry h
    · exact hasPath_of_mem_entryNames rest hrest h

theorem Select.hasPath_of_mem_names {name : String} :
    (s : Select) → name ∈ s.names → s.HasPath name
  | { source, entries, conditions, groupBy, orderBy, limit, offset }, h => by
    rcases Select.mem_names_iff.1 h with
      hentries | ⟨_, hsource, rfl⟩ | ⟨_, hc, rfl⟩ | hgroup | ⟨_, hk, rfl⟩
    · exact hasPath_of_mem_entryNames entries (fun _ hentry => hentry) hentries
    · exact .source hsource
    · exact .condition hc
    · exact .group hgroup
    · exact .sortKey hk

end

/-- The names that are checked are the paths of the statement and of all statements nested in it. -/
theorem Select.mem_names_iff_hasPath {s : Select} {name : String} : name ∈ s.names ↔ s.HasPath name :=
  ⟨s.hasPath_of_mem_names, HasPath.mem_names⟩

/-! ## Bare statements -/

mutual

def Entry.bare : Entry → Entry
  | .column name => .column name
  | .expression _ _ => .expression [] none
  | .subselect select _ => .subselect select.bare ""

def bareEntries : List Entry → List Entry
  | [] => []
  | entry :: rest => entry.bare :: bareEntries rest

/-- What is left of a statement without aliases, operators, values, expressions and limits: its paths. -/
def Select.bare : Select → Select
  | { source, entries, conditions, groupBy, orderBy, .. } =>
    { source := source.map fun source => .table source.name
      entries := bareEntries entries
      conditions := conditions.map fun c => ⟨c.field, "", none⟩
      groupBy
      orderBy := orderBy.map fun k => ⟨k.field, .ascending⟩ }

end

mutual

theorem Entry.names_bare : (entry : Entry) → entry.bare.names = entry.names
  | .column _ => by rw [Entry.bare]
  | .expression _ _ => by rw [Entry.bare, Entry.names, Entry.names]
  | .subselect select _ => by rw [Entry.bare, Entry.names, Entry.names, select.names_bare]

theorem entryNames_bareEntries : (entries : List Entry) →
    entryNames (bareEntries entries) = entryNames entries
  | [] => by rw [bareEntries]
  | entry :: rest => by
    rw [bareEntries, entryNames, entryNames, entry.names_bare, entryNames_bareEntries rest]

theorem Select.names_bare : (s : Select) → s.bare.names = s.names
  | { source, entries, conditions, groupBy, orderBy, limit, offset } => by
    have hentries := entryNames_bareEntries entries
    have hsource : (source.map fun source => Source.table source.name).map Source.name =
        source.map Source.name := by
      cases source <;> rfl
    simp [Select.bare, Select.names, hentries, hsource, Function.comp_def]

end

/-! ## The name that is reported -/

/-- The name is the first of the names that is no path. -/
def IsFirstNoPath (names : List String) (name : String) : Prop :=
  ∃ earlier later, names = earlier ++ name :: later ∧ (∀ n ∈ earlier, ¬IsNoPath n) ∧ IsNoPath name

theorem findSome?_nameError?_eq_some_iff {names : List String} {fault : NameError} :
    names.findSome? nameError? = some fault ↔
      ∃ name, IsFirstNoPath names name ∧ fault.message = complaint name := by
  simp only [List.findSome?_eq_some_iff, nameError?_eq_some_iff, nameError?_eq_none_iff_not_isNoPath,
    IsFirstNoPath]
  constructor
  · rintro ⟨earlier, name, later, hnames, ⟨hname, hfault⟩, hearlier⟩
    exact ⟨name, ⟨earlier, later, hnames, hearlier, hname⟩, hfault⟩
  · rintro ⟨name, ⟨earlier, later, hnames, hearlier, hname⟩, hfault⟩
    exact ⟨earlier, name, later, hnames, ⟨hname, hfault⟩, hearlier⟩

theorem liftName_text_eq_error_iff {layout : Layout} {s : Select} {e : Error} :
    liftName (s.text layout) = .error e ↔
      ∃ name, IsFirstNoPath s.names name ∧
        ∃ fault : NameError, e = .compilation (.badName fault) ∧ fault.message = complaint name := by
  simp only [liftName_eq_error_iff, Select.text_eq, written_eq_error_iff,
    findSome?_nameError?_eq_some_iff]
  constructor
  · rintro ⟨fault, ⟨name, hname, hmessage⟩, he⟩
    exact ⟨name, hname, fault, he, hmessage⟩
  · rintro ⟨name, hname, fault, he, hmessage⟩
    exact ⟨fault, ⟨name, hname, hmessage⟩, he⟩

/-- A statement has a text just if all paths in it can be written. Otherwise it fails with an error of
compilation for the first that cannot, and without its aliases, operators, values and expressions it
fails with the same one, in every layout. -/
theorem Select.text_fails_iff (layout : Layout) (s : Select) :
    ((∃ sql, liftName (s.text layout) = .ok sql) ↔ ∀ name, s.HasPath name → ¬IsNoPath name) ∧
    (∀ e, liftName (s.text layout) = .error e ↔
      ∃ name, IsFirstNoPath s.names name ∧
        ∃ fault : NameError, e = .compilation (.badName fault) ∧ fault.message = complaint name) ∧
    ∀ bareLayout e,
      liftName (s.bare.text bareLayout) = .error e ↔ liftName (s.text layout) = .error e := by
  refine ⟨?_, fun e => liftName_text_eq_error_iff, fun bareLayout e => ?_⟩
  · simp only [liftName_eq_ok_iff, Select.text_eq, written_eq_ok_iff, exists_and_left, exists_eq',
      and_true, nameError?_eq_none_iff_not_isNoPath, s.mem_names_iff_hasPath]
  · rw [liftName_text_eq_error_iff, liftName_text_eq_error_iff, s.names_bare]

/-- A nested statement stands in front of the table, and an alias may have an empty part. -/
example :
    let users : Select := { source := some (.table "users."), entries := [.column "name"] }
    let orders : Select := { source := some (.table ""), entries := [.subselect users "a..b"] }
    (orders.text .multiLine).mapError NameError.message = .error "malformed identifier 'users.'" := by
  rfl

end TableAtlas.Sql
