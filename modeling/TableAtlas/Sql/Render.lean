import TableAtlas.Sql.Member
import TableAtlas.Sql.Select

/-!
# Rendering statements

The text of a statement, clause by clause. A statement fails to render when a name in it is no
qualified name, and then the first such name in the order of the text is reported. A statement inside
another one stands on one line.
-/

namespace TableAtlas.Sql

open Fragment (plain join)

/-- Whether each clause has a line of its own. -/
inductive Layout
  | multiLine
  | singleLine
  deriving DecidableEq, Repr

def Layout.separator : Layout → String
  | multiLine => "\n"
  | singleLine => " "

def Direction.keyword : Direction → String
  | ascending => "ASC"
  | descending => "DESC"

def Source.render : Source → Except NameError Fragment
  | table name => return plain "FROM " ++ (← member name)
  | aliased name asName => return plain "FROM " ++ (← member name) ++ plain " " ++ [.name asName]

def Condition.render (c : Condition) : Except NameError Fragment := do
  let field ← member c.field
  match c.value with
  | some value => return field ++ plain " " ++ plain c.operator ++ plain " " ++ value
  | none => return field ++ plain " " ++ plain c.operator

def SortKey.render (k : SortKey) : Except NameError Fragment :=
  return (← member k.field) ++ plain " " ++ plain k.direction.keyword

/-- A clause over a list; there is no clause for the empty list. -/
def renderClause {α : Type} (keyword separator : String) (render : α → Except NameError Fragment)
    (items : List α) : Except NameError (List Fragment) :=
  if items.isEmpty then .ok []
  else return [plain keyword ++ join separator (← items.mapM render)]

def renderSource : Option Source → Except NameError (List Fragment)
  | some source => return [← source.render]
  | none => .ok []

def renderCount (keyword : String) : Option UInt64 → List Fragment
  | some n => [plain keyword ++ plain (toString n.toNat)]
  | none => []

/-- The clauses that follow the select list. -/
def renderTail (source : Option Source) (conditions : List Condition) (groupBy : List String)
    (orderBy : List SortKey) (limit offset : Option UInt64) : Except NameError (List Fragment) := do
  let source ← renderSource source
  let conditions ← renderClause "WHERE " " AND " Condition.render conditions
  let groupBy ← renderClause "GROUP BY " ", " member groupBy
  let orderBy ← renderClause "ORDER BY " ", " SortKey.render orderBy
  return source ++ conditions ++ groupBy ++ orderBy ++ renderCount "LIMIT " limit
    ++ renderCount "OFFSET " offset

def renderSelectList (entries : List Fragment) : Fragment :=
  plain "SELECT " ++ if entries.isEmpty then plain "*" else join ", " entries

mutual

def Entry.render : Entry → Except NameError Fragment
  | .column name => member name
  | .expression text (some asName) => return text ++ plain " AS " ++ [.name asName]
  | .expression text none => .ok text
  | .subselect select asName => do
    let clauses ← select.clauses
    return plain "(" ++ join Layout.singleLine.separator clauses ++ plain ") AS " ++ [.name asName]

def renderEntries : List Entry → Except NameError (List Fragment)
  | [] => .ok []
  | entry :: rest => do
    let text ← entry.render
    return text :: (← renderEntries rest)

/-- The clauses of a statement in their order. -/
def Select.clauses : Select → Except NameError (List Fragment)
  | { source, entries, conditions, groupBy, orderBy, limit, offset } => do
    let entries ← renderEntries entries
    let tail ← renderTail source conditions groupBy orderBy limit offset
    return renderSelectList entries :: tail

end

def Select.render (layout : Layout) (s : Select) : Except NameError Fragment :=
  return join layout.separator (← s.clauses)

/-- The text of a statement. -/
def Select.text (layout : Layout) (s : Select) : Except NameError String :=
  return (← s.render layout).text

end TableAtlas.Sql
