import TableAtlas.Sql.Render
import Mathlib.Data.List.Basic

/-!
# What a statement's text is made of

Rendering does two things: it checks the names that are split at their points, and it writes clauses.
Here the two are apart. `Select.names` lists the checked names in the order of the text,
`Select.lexemes` is the text of a statement whose names are all in order, and `Select.render_eq` says
that rendering fails for the first faulty name of the list and otherwise gives that text.
-/

namespace TableAtlas.Sql

open Fragment (plain join)

/-! ## Joined fragments -/

namespace Fragment

theorem plain_append (s t : String) : plain (s ++ t) = plain s ++ plain t := by
  simp [plain]

theorem text_append (f g : Fragment) : text (f ++ g) = text f ++ text g := by
  simp [text]

theorem join_cons (separator : String) (f : Fragment) (fs : List Fragment) :
    join separator (f :: fs) = f ++ fs.flatMap fun g => plain separator ++ g := by
  induction fs generalizing f with
  | nil => simp [join]
  | cons g fs ih =>
    have h := ih g
    simp only [join] at h ⊢
    rw [List.intercalate_cons_cons, h]
    simp

theorem join_append_cons (separator : String) (earlier : List Fragment) (f : Fragment)
    (later : List Fragment) :
    join separator (earlier ++ f :: later) =
      (earlier.flatMap fun g => g ++ plain separator) ++ f
        ++ later.flatMap fun g => plain separator ++ g := by
  induction earlier with
  | nil => simp [join_cons]
  | cons g earlier ih =>
    have h : join separator (g :: (earlier ++ f :: later)) =
        g ++ plain separator ++ join separator (earlier ++ f :: later) := by
      cases earlier <;> simp [join]
    rw [List.cons_append, h, ih]
    simp

end Fragment

/-! ## Checked names -/

theorem nameParts_ne_nil (name : String) : nameParts name ≠ [] := by
  simp [nameParts, List.splitOn_ne_nil]

/-- Why a name cannot be written, if it cannot. -/
def nameError? (name : String) : Option NameError :=
  if name = "" then some .empty
  else if "" ∈ nameParts name then some (.malformed name)
  else none

/-- A result that depends on names being in order. -/
def written {α : Type} (names : List String) (a : α) : Except NameError α :=
  match names.findSome? nameError? with
  | some e => .error e
  | none => .ok a

section written
variable {α β : Type}

theorem written_bind (ns ms : List String) (a : α) (f : α → β) :
    (written ns a >>= fun x => written ms (f x)) = written (ns ++ ms) (f a) := by
  simp only [written, List.findSome?_append]
  cases ns.findSome? nameError? <;> rfl

theorem written_map (ns : List String) (a : α) (f : α → β) :
    (written ns a >>= fun x => pure (f x)) = written ns (f a) := by
  simp only [written]
  cases ns.findSome? nameError? <;> rfl

theorem written_eq_ok_iff {ns : List String} {a b : α} :
    written ns a = .ok b ↔ (∀ n ∈ ns, nameError? n = none) ∧ a = b := by
  rw [← List.findSome?_eq_none_iff, written]
  cases ns.findSome? nameError? <;> simp

theorem written_eq_error_iff {ns : List String} {a : α} {e : NameError} :
    written ns a = .error e ↔ ns.findSome? nameError? = some e := by
  rw [written]
  cases ns.findSome? nameError? <;> simp

theorem mapM_written {render : α → Except NameError β} {names : α → List String} {text : α → β}
    (h : ∀ a, render a = written (names a) (text a)) (items : List α) :
    items.mapM render = written (items.flatMap names) (items.map text) := by
  induction items with
  | nil => rfl
  | cons a items ih =>
    rw [List.mapM_cons, ih, h]
    simp only [written_map]
    rw [written_bind, List.flatMap_cons, List.map_cons]

end written

/-- The text of a qualified name. -/
def memberText (name : String) : Fragment :=
  memberLexemes (nameParts name)

theorem member_eq (name : String) : member name = written [name] (memberText name) := by
  simp only [member, written, List.findSome?_cons, List.findSome?_nil, nameError?]
  split
  · rfl
  · split <;> rfl

/-! ## Clauses -/

def Source.name : Source → String
  | table name => name
  | aliased name _ => name

def Source.lexemes : Source → Fragment
  | table name => plain "FROM " ++ memberText name
  | aliased name asName => plain "FROM " ++ memberText name ++ plain " " ++ [.name asName]

theorem Source.render_eq (s : Source) : s.render = written [s.name] s.lexemes := by
  cases s with
  | table name => simp only [render, member_eq, written_map]; rfl
  | aliased name asName => simp only [render, member_eq, written_map]; rfl

def Condition.lexemes (c : Condition) : Fragment :=
  memberText c.field ++ plain " " ++ plain c.operator
    ++ match c.value with
      | some value => plain " " ++ value
      | none => []

theorem Condition.render_eq (c : Condition) : c.render = written [c.field] c.lexemes := by
  obtain ⟨field, operator, value⟩ := c
  cases value with
  | none => simp only [render, lexemes, member_eq, written_map, List.append_nil]
  | some value => simp only [render, lexemes, member_eq, written_map, List.append_assoc]

def SortKey.lexemes (k : SortKey) : Fragment :=
  memberText k.field ++ plain " " ++ plain k.direction.keyword

theorem SortKey.render_eq (k : SortKey) : k.render = written [k.field] k.lexemes := by
  simp only [render, lexemes, member_eq, written_map]

/-- A clause over a list; there is no clause for the empty list. -/
def clauseLexemes {α : Type} (keyword separator : String) (text : α → Fragment) (items : List α) :
    List Fragment :=
  if items.isEmpty then [] else [plain keyword ++ join separator (items.map text)]

theorem renderClause_eq {α : Type} {render : α → Except NameError Fragment}
    {names : α → List String} {text : α → Fragment} (h : ∀ a, render a = written (names a) (text a))
    (keyword separator : String) (items : List α) :
    renderClause keyword separator render items =
      written (items.flatMap names) (clauseLexemes keyword separator text items) := by
  cases items with
  | nil => rfl
  | cons a items =>
    simp only [renderClause, clauseLexemes, List.isEmpty_cons, Bool.false_eq_true, if_false,
      mapM_written h, written_map]

theorem renderSource_eq (source : Option Source) :
    renderSource source =
      written (source.map Source.name).toList (source.map Source.lexemes).toList := by
  cases source with
  | none => rfl
  | some source => simp only [renderSource, Source.render_eq, written_map]; rfl

/-! ## Statements -/

mutual

/-- The names of an entry that are checked, inner ones included. -/
def Entry.names : Entry → List String
  | .column name => [name]
  | .expression _ _ => []
  | .subselect select _ => select.names

def entryNames : List Entry → List String
  | [] => []
  | entry :: rest => entry.names ++ entryNames rest

/-- The checked names of a statement in the order of its text. -/
def Select.names : Select → List String
  | { source, entries, conditions, groupBy, orderBy, .. } =>
    entryNames entries ++ (source.map Source.name).toList ++ conditions.map Condition.field
      ++ groupBy ++ orderBy.map SortKey.field

end

mutual

def Entry.lexemes : Entry → Fragment
  | .column name => memberText name
  | .expression text (some asName) => text ++ plain " AS " ++ [.name asName]
  | .expression text none => text
  | .subselect select asName =>
    plain "(" ++ join Layout.singleLine.separator select.clauseLexemes ++ plain ") AS "
      ++ [.name asName]

def entryLexemes : List Entry → List Fragment
  | [] => []
  | entry :: rest => entry.lexemes :: entryLexemes rest

/-- The clauses of a statement whose names are in order. -/
def Select.clauseLexemes : Select → List Fragment
  | { source, entries, conditions, groupBy, orderBy, limit, offset } =>
    renderSelectList (entryLexemes entries) :: ((source.map Source.lexemes).toList
      ++ Sql.clauseLexemes "WHERE " " AND " Condition.lexemes conditions
      ++ Sql.clauseLexemes "GROUP BY " ", " memberText groupBy
      ++ Sql.clauseLexemes "ORDER BY " ", " SortKey.lexemes orderBy
      ++ renderCount "LIMIT " limit ++ renderCount "OFFSET " offset)

end

/-- The text of a statement whose names are in order. -/
def Select.lexemes (layout : Layout) (s : Select) : Fragment :=
  join layout.separator s.clauseLexemes

theorem entryNames_eq (entries : List Entry) : entryNames entries = entries.flatMap Entry.names := by
  induction entries with
  | nil => rfl
  | cons entry entries ih => rw [entryNames, ih, List.flatMap_cons]

theorem entryLexemes_eq (entries : List Entry) : entryLexemes entries = entries.map Entry.lexemes := by
  induction entries with
  | nil => rfl
  | cons entry entries ih => simp [entryLexemes, ih]

theorem renderTail_eq (source : Option Source) (conditions : List Condition) (groupBy : List String)
    (orderBy : List SortKey) (limit offset : Option UInt64) :
    renderTail source conditions groupBy orderBy limit offset =
      written ((source.map Source.name).toList ++ conditions.map Condition.field ++ groupBy
          ++ orderBy.map SortKey.field)
        ((source.map Source.lexemes).toList
          ++ clauseLexemes "WHERE " " AND " Condition.lexemes conditions
          ++ clauseLexemes "GROUP BY " ", " memberText groupBy
          ++ clauseLexemes "ORDER BY " ", " SortKey.lexemes orderBy
          ++ renderCount "LIMIT " limit ++ renderCount "OFFSET " offset) := by
  simp only [renderTail, renderSource_eq, renderClause_eq Condition.render_eq,
    renderClause_eq member_eq, renderClause_eq SortKey.render_eq]
  simp only [written_map, written_bind, ← List.map_eq_flatMap, List.map_id', List.append_assoc]

mutual

theorem Entry.render_eq (entry : Entry) : entry.render = written entry.names entry.lexemes := by
  match entry with
  | .column name => simp only [Entry.render, Entry.names, Entry.lexemes, member_eq]
  | .expression text (some asName) => simp only [Entry.render, Entry.names, Entry.lexemes]; rfl
  | .expression text none => simp only [Entry.render, Entry.names, Entry.lexemes]; rfl
  | .subselect select asName =>
    simp only [Entry.render, Entry.names, Entry.lexemes, select.clauses_eq, written_map]

theorem renderEntries_eq (entries : List Entry) :
    renderEntries entries = written (entryNames entries) (entryLexemes entries) := by
  match entries with
  | [] => rfl
  | entry :: rest =>
    simp only [renderEntries, entryNames, entryLexemes, entry.render_eq, renderEntries_eq rest,
      written_map, written_bind]

theorem Select.clauses_eq (s : Select) : s.clauses = written s.names s.clauseLexemes := by
  match s with
  | { source, entries, conditions, groupBy, orderBy, limit, offset } =>
    simp only [Select.clauses, Select.names, Select.clauseLexemes, renderEntries_eq entries,
      renderTail_eq, written_map, written_bind, List.append_assoc]

end

/-- Rendering fails for the first name that cannot be written, and for no other reason. -/
theorem Select.render_eq (layout : Layout) (s : Select) :
    s.render layout = written s.names (s.lexemes layout) := by
  simp only [render, clauses_eq, written_map, lexemes]

theorem Select.text_eq (layout : Layout) (s : Select) :
    s.text layout = written s.names (s.lexemes layout).text := by
  simp only [text, render_eq, written_map]

end TableAtlas.Sql
