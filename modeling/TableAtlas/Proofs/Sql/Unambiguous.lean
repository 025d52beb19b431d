import TableAtlas.Proofs.Plan.Standard
import TableAtlas.Proofs.Plan.Text
import TableAtlas.Proofs.Sql.Recovery

/-!
# Unambiguous statements

Two standard statements with one text are the same statement (`Select.eq_of_text_eq`). Reading the text
gives the lexemes of either, and these tell the statement: first the clauses, each by its keyword, then
the entries of the select list, each by the lexeme it begins with, and with the entries the statements
that are nested in it.
-/

namespace TableAtlas.Sql

open Fragment (plain join)

/-! ## Clauses -/

theorem recoverable_keyword {w : Word} (hw : w ∈ clauseWords) :
    Recoverable (· ∈ clauseWords) (fun w : Word => plain w.text) (fun _ => True) w := by
  have hfree : ∀ a ∈ clauseWords, ∀ b ∈ clauseWords, a.text.toList <+: b.text.toList → a = b := by
    decide
  exact recoverable_of_prefixFree hw fun a b ha hb => hfree a ha b hb

section Clauses

variable {layout : Layout}

theorem recoverable_conditions {cs : List Condition} (hne : cs ≠ [])
    (hcs : ∀ c ∈ cs, c.Standard) :
    Recoverable (fun cs => cs ≠ [] ∧ ∀ c ∈ cs, c.Standard)
      (fun cs => join " AND " (cs.map Condition.lexemes)) (ClauseEnd layout) cs :=
  recoverable_items (by simp) hne hcs fun c hc => recoverable_condition (hcs c hc)

theorem recoverable_grouping {names : List String} (hne : names ≠ []) :
    Recoverable (· ≠ []) (fun names => join ", " (names.map memberText)) (ClauseEnd layout)
      names := by
  intro names' r r' hne' hr hr' h
  have hnames : ∀ name ∈ names,
      Recoverable (fun _ => True) memberText (ItemEnd layout ", ") name := by
    intro name _
    exact (recoverable_memberText name).mono fun r hr => hr.ne_point (by simp)
  exact recoverable_items (by simp) hne (fun _ _ => trivial) hnames ⟨hne', fun _ _ => trivial⟩
    hr hr' h

theorem recoverable_ordering {keys : List SortKey} (hne : keys ≠ []) :
    Recoverable (· ≠ []) (fun keys => join ", " (keys.map SortKey.lexemes)) (ClauseEnd layout)
      keys := by
  intro keys' r r' hne' hr hr' h
  have hkeys : ∀ key ∈ keys,
      Recoverable (fun _ => True) SortKey.lexemes (ItemEnd layout ", ") key := by
    intro key _
    exact (recoverable_sortKey key).mono fun _ _ => trivial
  exact recoverable_items (by simp) hne (fun _ _ => trivial) hkeys ⟨hne', fun _ _ => trivial⟩
    hr hr' h

/-- The keyword tells the kind of a clause, and the clause ends with its body. -/
theorem recoverable_clause {c : Clause} (hc : c.Standard) :
    Recoverable Clause.Standard Clause.lexemes (ClauseEnd layout) c := by
  intro c' r r' hc' hr hr' h
  simp only [Clause.lexemes, List.append_assoc] at h
  obtain ⟨hword, hbody⟩ := recoverable_keyword c.word_mem c'.word_mem trivial trivial h
  cases c with
  | source s =>
    cases c' with
    | source s' => exact (recoverable_source s trivial hr hr' hbody).imp_left (congrArg _)
    | _ => cases hword
  | conditions cs =>
    cases c' with
    | conditions cs' => exact (recoverable_conditions hc.1 hc.2 hc' hr hr' hbody).imp_left (congrArg _)
    | _ => cases hword
  | grouping names =>
    cases c' with
    | grouping names' => exact (recoverable_grouping hc hc' hr hr' hbody).imp_left (congrArg _)
    | _ => cases hword
  | ordering keys =>
    cases c' with
    | ordering keys' => exact (recoverable_ordering hc hc' hr hr' hbody).imp_left (congrArg _)
    | _ => cases hword
  | limit n =>
    cases c' with
    | limit n' => exact (recoverable_number n trivial hr hr' hbody).imp_left (congrArg _)
    | _ => cases hword
  | offset n =>
    cases c' with
    | offset n' => exact (recoverable_number n trivial hr hr' hbody).imp_left (congrArg _)
    | _ => cases hword

theorem recoverable_trailing {cs : List Clause} (hcs : ∀ c ∈ cs, c.Standard) :
    Recoverable (fun cs => ∀ c ∈ cs, c.Standard)
      (fun cs => ledBy layout.separator (cs.map Clause.lexemes)) StatementEnd cs :=
  recoverable_ledBy (fun c _ => ClauseEnd.clause c) (fun _ hr => hr.clauseEnd)
    (fun _ hr => hr.not_prefix layout) hcs fun c hc => recoverable_clause (hcs c hc)

end Clauses

/-! ## Entries of the select list -/

/-- The lexemes that an entry of this kind may begin with. -/
def Entry.Opens : Entry → Lexeme → Prop
  | .column _, first => ∃ part, first = .name part
  | .expression _ _, first => ∃ c, first = .char c ∧ c ≠ '(' ∧ c ≠ '*'
  | .subselect _ _, first => first = .char '('

/-- An alias, if there is one. -/
def aliasLexemes : Option String → Fragment
  | some asName => plain " AS " ++ [.name asName]
  | none => []

theorem lexemes_expression (text : Fragment) (asName : Option String) :
    (Entry.expression text asName).lexemes = text ++ aliasLexemes asName := by
  cases asName <;> simp [Entry.lexemes, aliasLexemes]

theorem lexemes_subselect (select : Select) (asName : String) :
    (Entry.subselect select asName).lexemes =
      plain "(" ++ (select.lexemes .singleLine ++ (plain ")" ++ aliasLexemes (some asName))) := by
  have hclosed : plain ") AS " = plain ")" ++ plain " AS " := rfl
  simp [Entry.lexemes, Select.lexemes, aliasLexemes, hclosed]

theorem Entry.Standard.exists_lexemes_eq {entry : Entry} (h : entry.Standard) :
    ∃ first rest, entry.lexemes = first :: rest ∧ entry.Opens first := by
  cases entry with
  | column name =>
    obtain ⟨part, rest, hname⟩ := exists_memberText_eq name
    exact ⟨.name part, rest, by rw [Entry.lexemes, hname], part, rfl⟩
  | expression text asName =>
    rw [Entry.Standard] at h
    obtain ⟨c, rest, rfl, hc⟩ := h.exists_eq
    exact ⟨.char c, rest ++ aliasLexemes asName, by rw [lexemes_expression]; rfl, c, rfl, hc⟩
  | subselect select asName =>
    exact ⟨.char '(', _, by rw [lexemes_subselect]; rfl, rfl⟩

theorem Entry.Standard.exists_opens {entry entry' : Entry} {r r' : Fragment} (h : entry.Standard)
    (h' : entry'.Standard) (heq : entry.lexemes ++ r = entry'.lexemes ++ r') :
    ∃ first, entry.Opens first ∧ entry'.Opens first := by
  obtain ⟨first, rest, hentry, hopens⟩ := h.exists_lexemes_eq
  obtain ⟨first', rest', hentry', hopens'⟩ := h'.exists_lexemes_eq
  rw [hentry, hentry'] at heq
  obtain ⟨rfl, -⟩ := List.cons.inj heq
  exact ⟨first, hopens, hopens'⟩

section Entries

variable {layout : Layout}

theorem ItemEnd.not_naming {r : Fragment} (h : ItemEnd layout ", " r) : ¬plain " AS " <+: r := by
  cases h with
  | next r => simp [plain]
  | last h => exact h.not_prefix (by simp)

theorem recoverable_alias (asName : Option String) :
    Recoverable (fun _ => True) aliasLexemes (ItemEnd layout ", ") asName := by
  intro asName' r r' _ hr hr' h
  cases asName with
  | none =>
    cases asName' with
    | none => exact ⟨rfl, h⟩
    | some name' =>
      exact absurd ⟨[.name name'] ++ r', by simpa [aliasLexemes] using h.symm⟩ hr.not_naming
  | some name =>
    cases asName' with
    | none => exact absurd ⟨[.name name] ++ r, by simpa [aliasLexemes] using h⟩ hr'.not_naming
    | some name' =>
      simp only [aliasLexemes, List.append_assoc] at h
      obtain ⟨hname, hrest⟩ := List.cons.inj (List.append_cancel_left h)
      exact ⟨congrArg some (Lexeme.name.inj hname), hrest⟩

theorem recoverable_column (name : String) :
    Recoverable Entry.Standard Entry.lexemes (ItemEnd layout ", ") (.column name) := by
  intro entry r r' hentry hr hr' h
  have hcolumn : (Entry.column name).Standard := by rw [Entry.Standard]; trivial
  obtain ⟨_, ⟨part, rfl⟩, hopens⟩ := hcolumn.exists_opens hentry h
  cases entry with
  | column name' =>
    rw [Entry.lexemes, Entry.lexemes] at h
    exact (recoverable_memberText name trivial (hr.ne_point (by simp)) (hr'.ne_point (by simp))
      h).imp_left (congrArg _)
  | expression text asName =>
    obtain ⟨c, hc, -⟩ := hopens
    cases hc
  | subselect select asName => cases hopens

theorem recoverable_expression {text : Fragment} (htext : IsAggregate text)
    (asName : Option String) :
    Recoverable Entry.Standard Entry.lexemes (ItemEnd layout ", ") (.expression text asName) := by
  intro entry r r' hentry hr hr' h
  have hexpression : (Entry.expression text asName).Standard := by rwa [Entry.Standard]
  obtain ⟨_, ⟨c, rfl, hc, -⟩, hopens⟩ := hexpression.exists_opens hentry h
  cases entry with
  | column name =>
    obtain ⟨part, hpart⟩ := hopens
    cases hpart
  | expression text' asName' =>
    rw [Entry.Standard] at hentry
    rw [lexemes_expression, lexemes_expression, List.append_assoc, List.append_assoc] at h
    obtain ⟨rfl, hbehind⟩ := htext.eq_of_append_eq hentry h
    obtain ⟨rfl, hrest⟩ := recoverable_alias asName trivial hr hr' hbehind
    exact ⟨rfl, hrest⟩
  | subselect select asName' => exact absurd (Lexeme.char.inj hopens) hc

theorem recoverable_subselect {select : Select} (hselect : select.Standard)
    (hrecover : Recoverable Select.Standard (Select.lexemes .singleLine) StatementEnd select)
    (asName : String) :
    Recoverable Entry.Standard Entry.lexemes (ItemEnd layout ", ") (.subselect select asName) := by
  intro entry r r' hentry hr hr' h
  have hsubselect : (Entry.subselect select asName).Standard := by rwa [Entry.Standard]
  obtain ⟨_, rfl, hopens⟩ := hsubselect.exists_opens hentry h
  cases entry with
  | column name =>
    obtain ⟨part, hpart⟩ := hopens
    cases hpart
  | expression text asName' =>
    obtain ⟨c, hchar, hc, -⟩ := hopens
    exact absurd (Lexeme.char.inj hchar).symm hc
  | subselect select' asName' =>
    rw [Entry.Standard] at hentry
    have hclosed : ∀ r : Fragment, StatementEnd (plain ")" ++ r) := fun r => .bracket r
    simp only [lexemes_subselect, List.append_assoc] at h
    obtain ⟨rfl, hbehind⟩ := hrecover hentry (hclosed _) (hclosed _) (List.append_cancel_left h)
    obtain ⟨hname, hrest⟩ :=
      recoverable_alias (some asName) trivial hr hr' (List.append_cancel_left hbehind)
    exact ⟨by rw [Option.some.inj hname], hrest⟩

theorem recoverable_selectList {entries : List Entry} (hs : ∀ entry ∈ entries, entry.Standard)
    (hentries : ∀ entry ∈ entries,
      Recoverable Entry.Standard Entry.lexemes (ItemEnd layout ", ") entry) :
    Recoverable (fun entries => ∀ entry ∈ entries, entry.Standard)
      (fun entries => renderSelectList (entryLexemes entries)) (ClauseEnd layout) entries := by
  have hstar : ∀ entry : Entry, entry.Standard → ∀ rest rest',
      plain "*" ++ rest ≠ entry.lexemes ++ rest' := by
    intro entry hentry rest rest' h
    obtain ⟨first, behind, hfirst, hopens⟩ := hentry.exists_lexemes_eq
    rw [hfirst] at h
    obtain rfl : Lexeme.char '*' = first := (List.cons.inj h).1
    cases entry <;> simp [Entry.Opens] at hopens
  intro others r r' hothers hr hr' h
  simp only [renderSelectList, entryLexemes_eq, List.append_assoc, List.isEmpty_map] at h
  have h := List.append_cancel_left h
  cases entries with
  | nil =>
    cases others with
    | nil => exact ⟨rfl, List.append_cancel_left h⟩
    | cons entry' others =>
      simp only [List.map_cons, join_eq_ledBy, List.isEmpty_cons, Bool.false_eq_true, if_false,
        List.append_assoc] at h
      exact absurd h (hstar entry' (hothers entry' List.mem_cons_self) _ _)
  | cons entry entries =>
    cases others with
    | nil =>
      simp only [List.map_cons, join_eq_ledBy, List.isEmpty_cons, Bool.false_eq_true, if_false,
        List.append_assoc] at h
      exact absurd h.symm (hstar entry (hs entry List.mem_cons_self) _ _)
    | cons entry' others =>
      exact recoverable_items (by simp) (by simp) hs hentries ⟨by simp, hothers⟩ hr hr' h

end Entries

/-! ## Statements -/

/-- A statement is recovered if the entries of its select list are. -/
theorem recoverable_select {layout : Layout} {s : Select} (hs : s.Standard)
    (hentries : ∀ entry ∈ s.entries,
      Recoverable Entry.Standard Entry.lexemes (ItemEnd layout ", ") entry) :
    Recoverable Select.Standard (Select.lexemes layout) StatementEnd s := by
  intro s' r r' hs' hr hr' h
  have hend : ∀ {s : Select} {r : Fragment}, s.Standard → StatementEnd r →
      ClauseEnd layout (ledBy layout.separator (s.trailing.map Clause.lexemes) ++ r) :=
    fun hs hr => follow_ledBy (fun c _ => ClauseEnd.clause c) (fun _ hr => hr.clauseEnd) hs.trailing hr
  rw [Select.lexemes_eq, Select.lexemes_eq, List.append_assoc, List.append_assoc] at h
  obtain ⟨hsame, hbehind⟩ := recoverable_selectList (Select.standard_iff.1 hs).1 hentries
    (Select.standard_iff.1 hs').1 (hend hs hr) (hend hs' hr') h
  obtain ⟨htrailing, hrest⟩ := recoverable_trailing hs.trailing hs'.trailing hr hr' hbehind
  exact ⟨Select.ext_trailing hsame htrailing, hrest⟩

-- The recursion is that of the statements: a nested one stands on a single line, whatever the layout
-- of the outer one.
mutual

theorem Entry.Standard.recoverable (layout : Layout) : {entry : Entry} → entry.Standard →
    Recoverable Entry.Standard Entry.lexemes (ItemEnd layout ", ") entry
  | .column name, _ => recoverable_column name
  | .expression text asName, h => by
    rw [Entry.Standard] at h
    exact recoverable_expression h asName
  | .subselect select asName, h => by
    rw [Entry.Standard] at h
    exact recoverable_subselect h (Select.Standard.recoverable .singleLine h) asName

theorem recoverable_of_entriesStandard (layout : Layout) : {entries : List Entry} →
    entriesStandard entries → ∀ entry ∈ entries,
      Recoverable Entry.Standard Entry.lexemes (ItemEnd layout ", ") entry
  | [], _ => by simp
  | entry :: rest, h => by
    rw [entriesStandard] at h
    intro other hother
    rcases List.mem_cons.1 hother with hfirst | hrest
    · rw [hfirst]
      exact Entry.Standard.recoverable layout h.1
    · exact recoverable_of_entriesStandard layout h.2 other hrest

theorem Select.Standard.recoverable (layout : Layout) : {s : Select} → s.Standard →
    Recoverable Select.Standard (Select.lexemes layout) StatementEnd s
  | { source, entries, conditions, groupBy, orderBy, limit, offset }, h => by
    have hentries : entriesStandard entries := by
      rw [Select.Standard] at h
      exact h.1
    exact recoverable_select h (recoverable_of_entriesStandard layout hentries)

end

/-- No two standard statements have the same text. -/
theorem Select.eq_of_text_eq {layout : Layout} {s s' : Select} {sql : String} (hs : s.Standard)
    (hs' : s'.Standard) (h : s.text layout = .ok sql) (h' : s'.text layout = .ok sql) : s = s' := by
  have hlexemes : s.lexemes layout = s'.lexemes layout :=
    Option.some.inj ((lex_of_text hs h).symm.trans (lex_of_text hs' h'))
  have hbehind : s.lexemes layout ++ [] = s'.lexemes layout ++ [] := by rw [hlexemes]
  exact (hs.recoverable layout hs' .nothing .nothing hbehind).1

/-! ### A planned statement and one written down -/

open Plan (oddSchema oddTable)

/-- Counts by a column that refers; the names hold what separates them elsewhere. -/
def oddCountQuery : Query where
  table := "a`b?"
  filters := some [⟨"a AND b", "IS NOT NULL", none⟩, ⟨"x?", " LIKE ", some "`?"⟩]
  aggregate := some { function := "Count", groupBy := ["``"] }
  orderBy := some [⟨"``", .descending⟩]
  limit := some 5

/-- What is planned for the query, clause by clause. -/
def oddCounts : Select where
  source := some (.table "a`b?")
  entries := [
    .column "``",
    .expression (plain "count(" ++ (plain "*" ++ plain ")")) (some "count"),
    .subselect
      { source := some (.aliased "u.v" "t1")
        entries := [.column "t1.n?"]
        conditions := [⟨"t1.i`d", "=", some (.name "a`b?" :: (plain "." ++ [.name "``"]))⟩] }
      "$label$``"]
  conditions := [⟨"a AND b", "is not null", none⟩, ⟨"x?", "like", some placeholder⟩]
  groupBy := ["``"]
  orderBy := [⟨"``", .descending⟩]
  limit := some 5

theorem oddCounts_standard : oddCounts.Standard := by
  have hlabel : IsOperand (.name "a`b?" :: (plain "." ++ [.name "``"])) := .inr ⟨_, _, rfl⟩
  have hid : Condition.Standard ⟨"t1.i`d", "=", _⟩ :=
    ⟨.equal, rfl, rfl, fun value hvalue => Option.some.inj hvalue ▸ hlabel⟩
  have hnote : Condition.Standard ⟨"a AND b", "is not null", none⟩ := ⟨.isNotNull, rfl, rfl, by simp⟩
  have hpattern : Condition.Standard ⟨"x?", "like", some placeholder⟩ :=
    ⟨.like, rfl, rfl, by simp [IsOperand]⟩
  have hcount : IsAggregate (plain "count(" ++ (plain "*" ++ plain ")")) :=
    ⟨.count, plain "*", .inl rfl, rfl⟩
  rw [Select.standard_iff]
  simp only [oddCounts, List.forall_mem_cons, Entry.Standard, Select.standard_iff]
  simpa [hid, hnote, hpattern] using hcount

def oddCountsText : String :=
  "SELECT ``````, count(*) AS `count`, (SELECT `t1`.`n?` FROM `u`.`v` `t1` WHERE `t1`.`i``d` = " ++
    "`a``b?`.``````) AS `$label$`````\nFROM `a``b?`\nWHERE `a AND b` is not null AND `x?` like ?\n" ++
    "GROUP BY ``````\nORDER BY `````` DESC\nLIMIT 5"

theorem eq_of_text_eq_planned :
    ∃ clause params, Plan.selectFrom oddSchema oddTable oddCountQuery = .ok (clause, params) ∧
      oddCounts.Standard ∧ clause.Standard ∧ oddCounts.text .multiLine = .ok oddCountsText ∧
      clause.text .multiLine = .ok oddCountsText ∧ oddCounts = clause := by
  have hplan : Plan.select oddSchema oddCountQuery = .ok ⟨oddCountsText, ["%`?%"]⟩ :=
    eq_ok_of_toOption (by decide +kernel)
  have htable : oddSchema.table? oddCountQuery.table = some oddTable := by decide +kernel
  obtain ⟨t, clause, ht, hselect, hplanned⟩ := Plan.select_eq_ok_iff.1 hplan
  obtain rfl : oddTable = t := Option.some.inj (htable.symm.trans ht)
  have hstandard : clause.Standard := Plan.standard_of_selectFrom hselect
  have hwritten : oddCounts.text .multiLine = .ok oddCountsText := eq_ok_of_toOption (by decide +kernel)
  exact ⟨clause, _, hselect, oddCounts_standard, hstandard, hwritten, hplanned,
    Select.eq_of_text_eq oddCounts_standard hstandard hwritten hplanned⟩

end TableAtlas.Sql
