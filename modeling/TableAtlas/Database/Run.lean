import TableAtlas.Database.Activity

/-!
# Runs

A run of a program over a database that settles everything the program leaves open: what is answered to
a statement, how that changes the database, and in which order statements that are asked together are
sent and answered.
-/

namespace TableAtlas.Program

variable {α β : Type}

/-- A database: what it answers, and how that changes it. -/
structure Source (σ : Type) where
  answer : σ → Statement → Reply × σ
  /-- The places of statements that are asked together, in the order in which they go on: the first time
  that a place comes its statement is sent, the second time it is answered. Places that do not come often
  enough go on in turn at the end, so that nothing is left open. -/
  order : σ → List Statement → List Nat := fun _ _ => []

/-- The outcome of a program: its value, the statements sent, and the database afterwards. -/
structure Outcome (σ α : Type) where
  value : α
  sent : List Statement
  state : σ

/-- What comes of statements that are asked together: also which of them were sent, and the replies in the
order in which they came. -/
structure Asked (σ : Type) where
  replies : Replies
  sent : List Statement
  received : List (Statement × Reply)
  state : σ

namespace Asked

variable {σ : Type}

/-- What comes of it all if a statement is sent first. -/
def afterSent (rest : Asked σ) (statement : Statement) : Asked σ :=
  { rest with sent := statement :: rest.sent }

/-- What comes of it all if a reply comes first. -/
def afterReceived (rest : Asked σ) (statement : Statement) (reply : Reply) : Asked σ :=
  { rest with received := (statement, reply) :: rest.received }

end Asked

namespace Source

variable {σ : Type}

/-- The parts go on in the order of the places. -/
def goOn (source : Source σ) : List Nat → List Part → σ → Asked σ
  | [], parts, s => ⟨.ok (parts.map Part.rows), [], [], s⟩
  | place :: places, parts, s =>
    match parts[place]? with
    | some (.unsent statement) =>
      (source.goOn places (parts.set place (.waiting statement)) s).afterSent statement
    | some (.waiting statement) =>
      match source.answer s statement with
      | (.ok rows, s) =>
        (source.goOn places (parts.set place (.answered statement rows)) s).afterReceived statement
          (.ok rows)
      | (.error e, s) => ⟨.error e, [], [(statement, .error e)], s⟩
    | some (.answered _ _) | none => source.goOn places parts s

/-- Each place twice. -/
def inTurn (n : Nat) : List Nat :=
  (List.range n).flatMap fun place => [place, place]

def ask (source : Source σ) (statements : List Statement) (s : σ) : Asked σ :=
  source.goOn (source.order s statements ++ inTurn statements.length) (statements.map .unsent) s

end Source

def run {σ : Type} (source : Source σ) : Program α → σ → Outcome σ α
  | done a, s => ⟨a, [], s⟩
  | ask statements next, s =>
    let asked := source.ask statements s
    let rest := (next asked.replies).run source asked.state
    { rest with sent := asked.sent ++ rest.sent }

theorem run_bind {σ : Type} (source : Source σ) (p : Program α) (f : α → Program β) (s : σ) :
    (p.bind f).run source s =
      let first := p.run source s
      let second := (f first.value).run source first.state
      ⟨second.value, first.sent ++ second.sent, second.state⟩ := by
  induction p generalizing s with
  | done a => rfl
  | ask statements next ih => simp [bind, run, ih]

end TableAtlas.Program
