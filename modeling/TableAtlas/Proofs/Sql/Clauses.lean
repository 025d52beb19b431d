import TableAtlas.Proofs.Sql.Token

/-!
# Statements as lists of clauses

Behind its select list a statement is a list of clauses, each led by a keyword of its own
(`Select.lexemes_eq`). A statement is standard if its operators, values and expressions are made of the
vocabulary; its text is then read back to what was written (`lex_of_text`), however deep statements are
nested in it and whatever its names hold.
-/

namespace TableAtlas.Sql

open Fragment (plain join Legible legible_plain_append legible_char_cons legible_name_cons)

/-! ## Clauses -/

/-- A clause behind the select list. -/
inductive Clause
  | source (s : Source)
  | conditions (cs : List Condition)
  | grouping (names : List String)
  | ordering (keys : List SortKey)
  | limit (n : UInt64)
  | offset (n : UInt64)

/-- The table that rows are taken from, without the keyword. -/
def Source.body : Source → Fragment
  | table name => memberText name
  | aliased name asName => memberText name ++ (plain " " ++ [.name asName])

namespace Clause

/-- The keyword that leads the clause. -/
def word : Clause → Word
  | source _ => .source
  | conditions _ => .conditions
  | grouping _ => .grouping
  | ordering _ => .ordering
  | limit _ => .limit
  | offset _ => .offset

/-- The text behind the keyword. -/
def body : Clause → Fragment
  | source s => s.body
  | conditions cs => join " AND " (cs.map Condition.lexemes)
  | grouping names => join ", " (names.map memberText)
  | ordering keys => join ", " (keys.map SortKey.lexemes)
  | limit n => plain (toString n.toNat)
  | offset n => plain (toString n.toNat)

def lexemes (c : Clause) : Fragment :=
  plain c.word.text ++ c.body

def source? : Clause → Option Source
  | source s => some s
  | _ => none

def conditions? : Clause → Option (List Condition)
  | conditions cs => some cs
  | _ => none

def grouping? : Clause → Option (List String)
  | grouping names => some names
  | _ => none

def ordering? : Clause → Option (List SortKey)
  | ordering keys => some keys
  | _ => none

def limit? : Clause → Option UInt64
  | limit n => some n
  | _ => none

def offset? : Clause → Option UInt64
  | offset n => some n
  | _ => none

end Clause

/-- The clause over a list; there is none for the empty list. -/
def clauseOver {α : Type} (clause : List α → Clause) (items : List α) : List Clause :=
  if items.isEmpty then [] else [clause items]

/-- The clauses of a statement behind its select list. -/
def Select.trailing (s : Select) : List Clause :=
  (s.source.map .source).toList ++ clauseOver .conditions s.conditions
    ++ clauseOver .grouping s.groupBy ++ clauseOver .ordering s.orderBy
    ++ (s.limit.map .limit).toList ++ (s.offset.map .offset).toList

/-- The text of clauses, each behind a separator. -/
def ledBy (separator : String) (fs : List Fragment) : Fragment :=
  fs.flatMap fun f => plain separator ++ f

@[simp] theorem ledBy_nil (separator : String) : ledBy separator [] = [] := rfl

@[simp] theorem ledBy_cons (separator : String) (f : Fragment) (fs : List Fragment) :
    ledBy separator (f :: fs) = plain separator ++ (f ++ ledBy separator fs) := by
  simp [ledBy]

theorem text_ledBy (separator : String) (fs : List Fragment) :
    Fragment.text (ledBy separator fs) = String.join (fs.map fun f => separator ++ f.text) := by
  induction fs with
  | nil => rfl
  | cons f fs ih =>
    simp only [ledBy_cons, Fragment.text_append, Fragment.text_plain, ih, List.map_cons,
      String.join_cons, String.append_assoc]

theorem join_eq_ledBy (separator : String) (f : Fragment) (fs : List Fragment) :
    join separator (f :: fs) = f ++ ledBy separator fs :=
  Fragment.join_cons separator f fs

theorem map_lexemes_clauseOver {α : Type} (clause : List α → Clause) {keyword separator : String}
    {text : α → Fragment} (items : List α)
    (h : (clause items).lexemes = plain keyword ++ join separator (items.map text)) :
    (clauseOver clause items).map Clause.lexemes = clauseLexemes keyword separator text items := by
  cases items with
  | nil => rfl
  | cons a items => simp [clauseOver, clauseLexemes, h]

theorem Source.lexemes_eq (s : Source) : s.lexemes = (Clause.source s).lexemes := by
  cases s with
  | table name => rfl
  | aliased name asName =>
    simp [lexemes, Clause.lexemes, Clause.word, Clause.body, body, Word.text]

theorem Select.lexemes_eq (layout : Layout) (s : Select) :
    s.lexemes layout = renderSelectList (entryLexemes s.entries)
      ++ ledBy layout.separator (s.trailing.map Clause.lexemes) := by
  obtain ⟨source, entries, conditions, groupBy, orderBy, limit, offset⟩ := s
  have hsource : (source.map Source.lexemes).toList =
      (source.map Clause.source).toList.map Clause.lexemes := by
    cases source with
    | none => rfl
    | some source => simp [Source.lexemes_eq]
  have hconditions := map_lexemes_clauseOver .conditions conditions rfl
  have hgrouping := map_lexemes_clauseOver .grouping groupBy rfl
  have hordering := map_lexemes_clauseOver .ordering orderBy rfl
  have hlimit : renderCount "LIMIT " limit = (limit.map Clause.limit).toList.map Clause.lexemes := by
    cases limit <;> rfl
  have hoffset : renderCount "OFFSET " offset =
      (offset.map Clause.offset).toList.map Clause.lexemes := by
    cases offset <;> rfl
  rw [lexemes, clauseLexemes, join_eq_ledBy]
  simp only [trailing, List.map_append, hsource, hconditions, hgrouping, hordering, hlimit, hoffset]
  rfl

section Parts

variable {α β : Type}

theorem findSome?_toList_map (p : Clause → Option β) (clause : α → Clause) (o : Option α) :
    (o.map clause).toList.findSome? p = o.bind fun a => p (clause a) := by
  cases o with
  | none => rfl
  | some a => cases h : p (clause a) <;> simp [h]

theorem findSome?_clauseOver (p : Clause → Option β) (clause : List α → Clause) (items : List α) :
    (clauseOver clause items).findSome? p =
      if items.isEmpty then none else p (clause items) := by
  cases items with
  | nil => rfl
  | cons a items => cases h : p (clause (a :: items)) <;> simp [clauseOver, h]

end Parts

theorem Select.trailing_parts (s : Select) :
    s.trailing.findSome? Clause.source? = s.source ∧
    (s.trailing.findSome? Clause.conditions?).getD [] = s.conditions ∧
    (s.trailing.findSome? Clause.grouping?).getD [] = s.groupBy ∧
    (s.trailing.findSome? Clause.ordering?).getD [] = s.orderBy ∧
    s.trailing.findSome? Clause.limit? = s.limit ∧
    s.trailing.findSome? Clause.offset? = s.offset := by
  obtain ⟨source, entries, conditions, groupBy, orderBy, limit, offset⟩ := s
  simp only [trailing, List.findSome?_append, findSome?_toList_map, findSome?_clauseOver,
    Clause.source?, Clause.conditions?, Clause.grouping?, Clause.ordering?, Clause.limit?,
    Clause.offset?, Option.bind_fun_some, Option.bind_fun_none, ite_self, Option.or_none,
    Option.none_or]
  refine ⟨trivial, ?_, ?_, ?_, trivial, trivial⟩
  · cases conditions <;> rfl
  · cases groupBy <;> rfl
  · cases orderBy <;> rfl

theorem Select.ext_trailing {s s' : Select} (hentries : s.entries = s'.entries)
    (htrailing : s.trailing = s'.trailing) : s = s' := by
  obtain ⟨hsource, hconditions, hgroupBy, horderBy, hlimit, hoffset⟩ := s.trailing_parts
  obtain ⟨hsource', hconditions', hgroupBy', horderBy', hlimit', hoffset'⟩ := s'.trailing_parts
  rw [htrailing] at hsource hconditions hgroupBy horderBy hlimit hoffset
  cases s
  cases s'
  rw [Select.mk.injEq]
  exact ⟨hsource.symm.trans hsource', hentries, hconditions.symm.trans hconditions',
    hgroupBy.symm.trans hgroupBy', horderBy.symm.trans horderBy', hlimit.symm.trans hlimit',
    hoffset.symm.trans hoffset'⟩

/-! ## The vocabulary of statements -/

/-- A value to compare with: a parameter, or a column that is qualified by its table. -/
def IsOperand (f : Fragment) : Prop :=
  f = placeholder ∨ ∃ table column, f = .name table :: (plain "." ++ [.name column])

/-- An aggregate function of all rows or of a column. -/
def IsAggregate (f : Fragment) : Prop :=
  ∃ (function : AggregateFunction) (target : Fragment),
    (target = plain "*" ∨ ∃ name, member name = .ok target) ∧
      f = plain (function.word ++ "(") ++ (target ++ plain ")")

/-- The operator is a word of the vocabulary and has a value just if it takes one. -/
def Condition.Standard (c : Condition) : Prop :=
  ∃ operator : Operator, c.operator = operator.word ∧ c.value.isSome = operator.takesValue ∧
    ∀ value ∈ c.value, IsOperand value

mutual

def Entry.Standard : Entry → Prop
  | .column _ => True
  | .expression text _ => IsAggregate text
  | .subselect select _ => select.Standard

def entriesStandard : List Entry → Prop
  | [] => True
  | entry :: rest => entry.Standard ∧ entriesStandard rest

/-- Operators, values and expressions are those of the vocabulary, in nested statements too. -/
def Select.Standard : Select → Prop
  | { entries, conditions, .. } => entriesStandard entries ∧ ∀ c ∈ conditions, c.Standard

end

theorem entriesStandard_iff {entries : List Entry} :
    entriesStandard entries ↔ ∀ entry ∈ entries, entry.Standard := by
  induction entries with
  | nil => simp [entriesStandard]
  | cons entry entries ih => simp [entriesStandard, ih]

theorem Select.standard_iff {s : Select} :
    s.Standard ↔ (∀ entry ∈ s.entries, entry.Standard) ∧ ∀ c ∈ s.conditions, c.Standard := by
  obtain ⟨source, entries, conditions, groupBy, orderBy, limit, offset⟩ := s
  rw [Select.Standard, entriesStandard_iff]

/-! ## Legible statements -/

namespace Fragment

theorem legible_append_char_cons {f g : Fragment} {c : Char} (hc : c ≠ backtick) :
    Legible (f ++ .char c :: g) ↔ Legible f ∧ Legible g := by
  induction f with
  | nil => simp [legible_char_cons, hc, legible_nil]
  | cons l f ih =>
    cases l with
    | char d => rw [List.cons_append, legible_char_cons, legible_char_cons, ih, and_assoc]
    | name s =>
      rw [List.cons_append, legible_name_cons, legible_name_cons, ih, and_assoc]
      cases f <;> simp [Lexeme.isName]

/-- Text that may stand between any two fragments. -/
def Separates (s : String) : Prop :=
  s.toList ≠ [] ∧ backtick ∉ s.toList

instance (s : String) : Decidable (Separates s) := inferInstanceAs (Decidable (_ ∧ _))

theorem legible_append_plain_append {f g : Fragment} {s : String} (hs : Separates s) :
    Legible (f ++ (plain s ++ g)) ↔ Legible f ∧ Legible g := by
  obtain ⟨hne, hback⟩ := hs
  have hrest := legible_plain_append hback (f := g)
  obtain ⟨c, cs, hcs⟩ := List.exists_cons_of_ne_nil hne
  have hc : c ≠ backtick := fun heq => hback (by simp [hcs, heq])
  rw [plain, hcs, List.map_cons, List.cons_append, legible_append_char_cons hc]
  rw [plain, hcs, List.map_cons, List.cons_append, legible_char_cons] at hrest
  rw [← hrest, and_iff_right hc]

theorem legible_plain {s : String} (h : backtick ∉ s.toList) : Legible (plain s) := by
  have hplain := (legible_plain_append h (f := [])).2 legible_nil
  rwa [List.append_nil] at hplain

theorem legible_name (s : String) : Legible [.name s] :=
  legible_name_cons.2 ⟨by simp, legible_nil⟩

theorem legible_append_ledBy {separator : String} (hseparator : Separates separator) {f : Fragment}
    {fs : List Fragment} (hf : Legible f) (hfs : ∀ g ∈ fs, Legible g) :
    Legible (f ++ ledBy separator fs) := by
  induction fs generalizing f with
  | nil => simpa using hf
  | cons g fs ih =>
    rw [ledBy_cons, legible_append_plain_append hseparator]
    exact ⟨hf, ih (hfs g List.mem_cons_self) fun h hh => hfs h (List.mem_cons_of_mem g hh)⟩

theorem legible_join {separator : String} (hseparator : Separates separator) {fs : List Fragment}
    (hfs : ∀ f ∈ fs, Legible f) : Legible (join separator fs) := by
  cases fs with
  | nil => exact legible_nil
  | cons f fs =>
    rw [join_eq_ledBy]
    exact legible_append_ledBy hseparator (hfs f List.mem_cons_self) fun g hg =>
      hfs g (List.mem_cons_of_mem f hg)

end Fragment

open Fragment

theorem legible_memberText (name : String) : Legible (memberText name) := by
  refine legible_join (by decide) fun f hf => ?_
  obtain ⟨part, -, rfl⟩ := List.mem_map.1 hf
  exact legible_name part

theorem IsOperand.legible {f : Fragment} (h : IsOperand f) : Legible f := by
  rcases h with rfl | ⟨table, column, rfl⟩
  · exact legible_plain (by decide)
  · have hpoint : Legible ([.name table] ++ (plain "." ++ [.name column])) :=
      (legible_append_plain_append (by decide)).2 ⟨legible_name table, legible_name column⟩
    exact hpoint

theorem IsAggregate.legible {f : Fragment} (h : IsAggregate f) : Legible f := by
  obtain ⟨function, target, htarget, rfl⟩ := h
  have hword : backtick ∉ (function.word ++ "(").toList := by cases function <;> decide
  have hclosed : Legible (target ++ plain ")") := by
    have hlegible : Legible target := by
      rcases htarget with rfl | ⟨name, hname⟩
      · exact legible_plain (by decide)
      · rw [member_eq, written_eq_ok_iff] at hname
        exact hname.2 ▸ legible_memberText name
    have := (legible_append_plain_append (g := []) (s := ")") (by decide)).2 ⟨hlegible, legible_nil⟩
    rwa [List.append_nil] at this
  exact (legible_plain_append hword).2 hclosed

theorem Source.legible_body (s : Source) : Legible s.body := by
  cases s with
  | table name => exact legible_memberText name
  | aliased name asName =>
    exact (legible_append_plain_append (by decide)).2
      ⟨legible_memberText name, legible_name asName⟩

theorem Condition.Standard.legible {c : Condition} (h : c.Standard) : Legible c.lexemes := by
  obtain ⟨operator, hoperator, -, hvalue⟩ := h
  have hword : Separates operator.word := by cases operator <;> decide
  rw [lexemes, hoperator, List.append_assoc, List.append_assoc,
    legible_append_plain_append (by decide), legible_plain_append hword.2]
  refine ⟨legible_memberText c.field, ?_⟩
  cases hc : c.value with
  | none => exact legible_nil
  | some value => exact (legible_plain_append (by decide)).2 (hvalue value (hc ▸ rfl)).legible

theorem SortKey.legible_lexemes (k : SortKey) : Legible k.lexemes := by
  have hkeyword : backtick ∉ k.direction.keyword.toList := by cases k.direction <;> decide
  rw [lexemes, List.append_assoc, legible_append_plain_append (by decide)]
  exact ⟨legible_memberText k.field, legible_plain hkeyword⟩

/-- The list of the clause is not empty, and its conditions are standard. -/
def Clause.Standard : Clause → Prop
  | conditions cs => cs ≠ [] ∧ ∀ c ∈ cs, c.Standard
  | grouping names => names ≠ []
  | ordering keys => keys ≠ []
  | _ => True

theorem Clause.Standard.legible {c : Clause} (h : c.Standard) : Legible c.lexemes := by
  refine (legible_plain_append c.word.backtick_notMem_text).2 ?_
  cases c with
  | source s => exact s.legible_body
  | conditions cs =>
    refine legible_join (by decide) fun f hf => ?_
    obtain ⟨condition, hmem, rfl⟩ := List.mem_map.1 hf
    exact (h.2 condition hmem).legible
  | grouping names =>
    refine legible_join (by decide) fun f hf => ?_
    obtain ⟨name, -, rfl⟩ := List.mem_map.1 hf
    exact legible_memberText name
  | ordering keys =>
    refine legible_join (by decide) fun f hf => ?_
    obtain ⟨key, -, rfl⟩ := List.mem_map.1 hf
    exact key.legible_lexemes
  | limit n => exact legible_plain (Word.number n).backtick_notMem_text
  | offset n => exact legible_plain (Word.number n).backtick_notMem_text

theorem mem_clauseOver {α : Type} {clause : List α → Clause} {items : List α} {c : Clause}
    (h : c ∈ clauseOver clause items) : items ≠ [] ∧ c = clause items := by
  cases items with
  | nil => cases h
  | cons a items => exact ⟨by simp, by simpa [clauseOver] using h⟩

theorem Select.Standard.trailing {s : Select} (h : s.Standard) : ∀ c ∈ s.trailing, c.Standard := by
  intro c hc
  simp only [Select.trailing, List.mem_append, Option.mem_toList, Option.map_eq_some_iff] at hc
  obtain ((((⟨_, -, rfl⟩ | hc) | hc) | hc) | ⟨_, -, rfl⟩) | ⟨_, -, rfl⟩ := hc
  · trivial
  · obtain ⟨hne, rfl⟩ := mem_clauseOver hc
    exact ⟨hne, (Select.standard_iff.1 h).2⟩
  · obtain ⟨hne, rfl⟩ := mem_clauseOver hc
    exact hne
  · obtain ⟨hne, rfl⟩ := mem_clauseOver hc
    exact hne
  · trivial
  · trivial

theorem legible_renderSelectList {fs : List Fragment} (h : ∀ f ∈ fs, Legible f) :
    Legible (renderSelectList fs) := by
  unfold renderSelectList
  refine (legible_plain_append (by decide)).2 ?_
  split
  · exact legible_plain (by decide)
  · exact legible_join (by decide) h

theorem Layout.separates (layout : Layout) : Separates layout.separator := by
  cases layout <;> decide

mutual

theorem Entry.Standard.legible : {entry : Entry} → entry.Standard → Legible entry.lexemes
  | .column name, _ => by
    rw [Entry.lexemes]
    exact legible_memberText name
  | .expression text none, h => by
    rw [Entry.Standard] at h
    rw [Entry.lexemes]
    exact h.legible
  | .expression text (some asName), h => by
    rw [Entry.Standard] at h
    rw [Entry.lexemes, List.append_assoc, legible_append_plain_append (by decide)]
    exact ⟨h.legible, legible_name asName⟩
  | .subselect select asName, h => by
    rw [Entry.Standard] at h
    have hselect := Select.Standard.legible .singleLine h
    rw [Select.lexemes] at hselect
    rw [Entry.lexemes, List.append_assoc, List.append_assoc, legible_plain_append (by decide),
      legible_append_plain_append (by decide)]
    exact ⟨hselect, legible_name asName⟩

theorem legible_of_entriesStandard : {entries : List Entry} → entriesStandard entries →
    ∀ f ∈ entryLexemes entries, Legible f
  | [], _ => by simp [entryLexemes]
  | entry :: rest, h => by
    rw [entriesStandard] at h
    intro f hf
    rw [entryLexemes, List.mem_cons] at hf
    rcases hf with rfl | hf
    · exact Entry.Standard.legible h.1
    · exact legible_of_entriesStandard h.2 f hf

theorem Select.Standard.legible (layout : Layout) : {s : Select} → s.Standard →
    Legible (s.lexemes layout)
  | { source, entries, conditions, groupBy, orderBy, limit, offset }, h => by
    have hentries : entriesStandard entries := by
      rw [Select.Standard] at h
      exact h.1
    rw [Select.lexemes_eq]
    refine legible_append_ledBy layout.separates
      (legible_renderSelectList (legible_of_entriesStandard hentries)) fun f hf => ?_
    obtain ⟨c, hc, rfl⟩ := List.mem_map.1 hf
    exact (h.trailing c hc).legible

end

/-- The text of a standard statement is read back to what was written. -/
theorem lex_of_text {layout : Layout} {s : Select} {sql : String} (hs : s.Standard)
    (h : s.text layout = .ok sql) : lex sql = some (s.lexemes layout) := by
  rw [Select.text_eq, written_eq_ok_iff] at h
  rw [← h.2]
  exact lex_text (hs.legible layout)

end TableAtlas.Sql
