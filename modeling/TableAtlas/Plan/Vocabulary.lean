import TableAtlas.Error
import TableAtlas.Query.Basic
import TableAtlas.Sql.Render
import TableAtlas.Text.LowerCase

/-!
# The vocabulary of queries

The operators and aggregate functions that a query may use. A query writes them in any case, with
blanks around them; a statement holds the word of this vocabulary and nothing that the query wrote.
-/

namespace TableAtlas

inductive Operator
  | isNull
  | isNotNull
  | equal
  | unequal
  /-- The other way to write `unequal`. -/
  | lessOrGreater
  | less
  | atMost
  | greater
  | atLeast
  | like
  | notLike
  deriving DecidableEq, Repr

namespace Operator

def all : List Operator :=
  [isNull, isNotNull, equal, unequal, lessOrGreater, less, atMost, greater, atLeast, like, notLike]

def word : Operator → String
  | isNull => "is null"
  | isNotNull => "is not null"
  | equal => "="
  | unequal => "!="
  | lessOrGreater => "<>"
  | less => "<"
  | atMost => "<="
  | greater => ">"
  | atLeast => ">="
  | like => "like"
  | notLike => "not like"

/-- The operator compares its field with a value. -/
def takesValue : Operator → Bool
  | isNull | isNotNull => false
  | _ => true

end Operator

inductive AggregateFunction
  | count
  | sum
  | avg
  | min
  | max
  deriving DecidableEq, Repr

namespace AggregateFunction

def all : List AggregateFunction := [count, sum, avg, min, max]

def word : AggregateFunction → String
  | count => "count"
  | sum => "sum"
  | avg => "avg"
  | min => "min"
  | max => "max"

end AggregateFunction

/-- A word of a query without its blanks and in lower case. -/
def normalWord (s : String) : String :=
  Text.lowerCase (Text.trim s)

def Operator.ofText? (s : String) : Option Operator :=
  all.find? fun operator => operator.word = normalWord s

def AggregateFunction.ofText? (s : String) : Option AggregateFunction :=
  all.find? fun function => function.word = normalWord s

end TableAtlas
