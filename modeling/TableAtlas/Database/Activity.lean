import TableAtlas.Database.Program

/-!
# Programs under way

A program as others see it that run at the same time. It sends its statements, and some time later the
replies come in. Of statements that are asked together any may be the next to be sent, and any that was
sent the next to be answered; the first failure ends them all, whatever becomes of the others.
-/

namespace TableAtlas.Program

variable {α β : Type}

/-- How far one of the statements that are asked together has come. -/
inductive Part
  | unsent (statement : Statement)
  | waiting (statement : Statement)
  | answered (statement : Statement) (rows : List Row)

namespace Part

def statement : Part → Statement
  | unsent statement | waiting statement | answered statement _ => statement

def isAnswered : Part → Bool
  | answered _ _ => true
  | unsent _ | waiting _ => false

/-- The rows that have come. -/
def rows : Part → List Row
  | answered _ rows => rows
  | unsent _ | waiting _ => []

end Part

/-- A program that has ended, or that has asked what is not all answered. -/
inductive Activity (α : Type)
  | done (a : α)
  | asking (parts : List Part) (next : Replies → Program α)

/-- A program before anything is sent. -/
def start : Program α → Activity α
  | done a => .done a
  | ask [] next => (next (.ok [])).start
  | ask statements next => .asking (statements.map .unsent) next

/-- What passes between a program and the database. -/
inductive Signal
  | sent (statement : Statement)
  | received (statement : Statement) (reply : Reply)

namespace Signal

@[simp] def sent? : Signal → Option Statement
  | sent statement => some statement
  | received _ _ => none

@[simp] def received? : Signal → Option (Statement × Reply)
  | sent _ => none
  | received statement reply => some (statement, reply)

end Signal

namespace Activity

/-- Goes on with the program if all parts are answered. -/
def resume (parts : List Part) (next : Replies → Program α) : Activity α :=
  if parts.all Part.isAnswered then (next (.ok (parts.map Part.rows))).start else asking parts next

inductive Moves : Activity α → Signal → Activity α → Prop
  | send {parts : List Part} {next : Replies → Program α} (before after : List Part)
    (statement : Statement) (h : parts = before ++ .unsent statement :: after) :
    Moves (asking parts next) (.sent statement) (asking (before ++ .waiting statement :: after) next)
  | receive {parts : List Part} {next : Replies → Program α} (before after : List Part)
    (statement : Statement) (rows : List Row) (h : parts = before ++ .waiting statement :: after) :
    Moves (asking parts next) (.received statement (.ok rows))
      (resume (before ++ .answered statement rows :: after) next)
  | fail {parts : List Part} {next : Replies → Program α} (statement : Statement) (e : DatabaseError)
    (h : .waiting statement ∈ parts) :
    Moves (asking parts next) (.received statement (.error e)) (next (.error e)).start

def bind : Activity α → (α → Program β) → Activity β
  | done a, f => (f a).start
  | asking parts next, f => asking parts fun replies => (next replies).bind f

/-- A program has come to an activity by sending these statements and receiving these replies. -/
inductive Reaches (p : Program α) :
    List Statement → List (Statement × Reply) → Activity α → Prop
  | start : Reaches p [] [] p.start
  | move {sent : List Statement} {received : List (Statement × Reply)} {a b : Activity α}
    {signal : Signal} (h : Reaches p sent received a) (hmove : a.Moves signal b) :
    Reaches p (sent ++ signal.sent?.toList) (received ++ signal.received?.toList) b

end Activity

end TableAtlas.Program
