import TableAtlas.Database.Basic

/-!
# Programs that ask a database

A program ends with a value, or sends statements and goes on with what comes of them. Statements that
are asked together are under way at the same time. A program says nothing of the database, so the same
program runs over a real one, over a script and over any answers a proof imagines.
-/

namespace TableAtlas

/-- What comes of statements that are asked together: the rows of each, or the failure that was the first
to arrive. -/
abbrev Replies := Except DatabaseError (List (List Row))

inductive Program (α : Type)
  | done (a : α)
  | ask (statements : List Statement) (next : Replies → Program α)

namespace Program

variable {α β γ : Type}

/-- Goes on with a second program once the first has ended. -/
def bind : Program α → (α → Program β) → Program β
  | done a, f => f a
  | ask statements next, f => ask statements fun replies => (next replies).bind f

def map (f : α → β) (p : Program α) : Program β :=
  p.bind fun a => done (f a)

/-- Sends a statement and ends with the reply. -/
def fetch (statement : Statement) : Program Reply :=
  ask [statement] fun replies => done (replies.map fun rows => rows.headD [])

/-- Sends statements at once and ends with what comes of them. -/
def fetchAll (statements : List Statement) : Program Replies :=
  ask statements done

instance : Monad Program where
  pure := done
  bind := bind

@[simp] theorem bind_done (p : Program α) : p.bind done = p := by
  induction p with
  | done a => rfl
  | ask statements next ih => simp [bind, ih]

theorem bind_assoc (p : Program α) (f : α → Program β) (g : β → Program γ) :
    (p.bind f).bind g = p.bind fun a => (f a).bind g := by
  induction p with
  | done a => rfl
  | ask statements next ih => simp [bind, ih]

end Program

end TableAtlas
