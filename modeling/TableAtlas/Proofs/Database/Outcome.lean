import TableAtlas.Inquiry

/-!
# Outcomes of inquiries

How the outcome of an inquiry is put together from those of its parts, over a database whose replies
may change from one statement to the next, and which statements an inquiry can send whatever the
replies are.
-/

namespace TableAtlas

namespace Program

variable {σ α β γ : Type} {kind : Statement → Prop}

instance : LawfulMonad Program :=
  LawfulMonad.mk' Program (fun p => bind_done p) (fun _ _ => rfl) fun p f g => bind_assoc p f g

/-- A database that gives replies one after the other, whatever it is asked. -/
def replay : Source (List Reply) where
  answer replies _ := (replies.headD (.ok []), replies.tail)

/-- Whatever the replies are, statements that the program asks together are of the kind. -/
def Asks (kind : List Statement → Prop) : Program α → Prop
  | done _ => True
  | ask statements next => kind statements ∧ ∀ replies, (next replies).Asks kind

/-- Every statement that the program may come to send is of the kind. -/
abbrev AsksOnly (kind : Statement → Prop) (p : Program α) : Prop :=
  p.Asks fun statements => ∀ statement ∈ statements, kind statement

/-- No statements are asked together. -/
abbrev AsksSingly (p : Program α) : Prop :=
  p.Asks fun statements => statements.length = 1

theorem Asks.bind {kind : List Statement → Prop} {p : Program α} {f : α → Program β}
    (h : p.Asks kind) (hf : ∀ a, (f a).Asks kind) : (p.bind f).Asks kind := by
  induction p with
  | done a => exact hf a
  | ask statements next ih => exact ⟨h.1, fun replies => ih replies (h.2 replies)⟩

/-! ### Statements that are asked together -/

section Together

variable (source : Source σ)

theorem map_statement_set {parts : List Part} {place : Nat} {part part' : Part}
    (h : parts[place]? = some part) (hpart : part'.statement = part.statement) :
    (parts.set place part').map Part.statement = parts.map Part.statement := by
  have hstatement : (parts.map Part.statement)[place]? = some part'.statement := by
    rw [List.getElem?_map, h, hpart, Option.map_some]
  obtain ⟨hlt, hget⟩ := List.getElem?_eq_some_iff.1 hstatement
  rw [List.map_set, ← hget, List.set_getElem_self]

theorem sent_goOn_subset (places : List Nat) (parts : List Part) (s : σ) :
    (source.goOn places parts s).sent ⊆ parts.map Part.statement := by
  fun_induction source.goOn places parts s with
  | case1 => exact List.nil_subset _
  | case2 place places parts s statement hpart ih =>
    have hset := map_statement_set hpart (rfl : (Part.waiting statement).statement = statement)
    rw [hset] at ih
    have hmem : statement ∈ parts.map Part.statement :=
      List.mem_map.2 ⟨_, List.mem_of_getElem? hpart, rfl⟩
    exact List.cons_subset.2 ⟨hmem, ih⟩
  | case3 place places parts s statement hpart rows s' hanswer ih =>
    have hset := map_statement_set hpart (rfl : (Part.answered statement rows).statement = statement)
    rwa [hset] at ih
  | case4 => exact List.nil_subset _
  | case5 place places parts s statement rows hpart ih => exact ih
  | case6 place places parts s hpart ih => exact ih

theorem sent_ask_subset (statements : List Statement) (s : σ) :
    (source.ask statements s).sent ⊆ statements := by
  have hsubset := sent_goOn_subset source
    (source.order s statements ++ Source.inTurn statements.length) (statements.map .unsent) s
  have hstatements : (statements.map Part.unsent).map Part.statement = statements := by
    rw [List.map_map]
    exact List.map_id statements
  rwa [hstatements] at hsubset

theorem goOn_answered (places : List Nat) (statement : Statement) (rows : List Row) (s : σ) :
    source.goOn places [.answered statement rows] s = ⟨.ok [rows], [], [], s⟩ := by
  induction places with
  | nil => rfl
  | cons place places ih => cases place <;> exact ih

theorem goOn_waiting {places : List Nat} (h : 0 ∈ places) (statement : Statement) (s : σ) :
    source.goOn places [.waiting statement] s =
      let reply := source.answer s statement
      ⟨reply.1.map fun rows => [rows], [], [(statement, reply.1)], reply.2⟩ := by
  induction places with
  | nil => cases h
  | cons place places ih =>
    cases place with
    | zero =>
      rw [Source.goOn]
      simp only [List.getElem?_cons_zero, List.set_cons_zero, goOn_answered]
      rcases source.answer s statement with ⟨_ | rows, s'⟩ <;> rfl
    | succ place => exact ih (by simpa using h)

theorem goOn_unsent {places : List Nat} (h : 2 ≤ places.count 0) (statement : Statement) (s : σ) :
    source.goOn places [.unsent statement] s =
      let reply := source.answer s statement
      ⟨reply.1.map fun rows => [rows], [statement], [(statement, reply.1)], reply.2⟩ := by
  induction places with
  | nil => cases h
  | cons place places ih =>
    cases place with
    | zero =>
      have hplaces : 0 ∈ places := List.count_pos_iff.1 (by simpa using h)
      simp only [Source.goOn, List.getElem?_cons_zero, List.set_cons_zero,
        goOn_waiting source hplaces]
      rfl
    | succ place => exact ih (by simpa using h)

theorem ask_singleton (statement : Statement) (s : σ) :
    source.ask [statement] s =
      let reply := source.answer s statement
      ⟨reply.1.map fun rows => [rows], [statement], [(statement, reply.1)], reply.2⟩ :=
  goOn_unsent source (by simp [Source.inTurn]) statement s

end Together

theorem AsksOnly.of_mem_sent {p : Program α} (h : p.AsksOnly kind) (source : Source σ) (s : σ) :
    ∀ statement ∈ (p.run source s).sent, kind statement := by
  induction p generalizing s with
  | done a =>
    intro statement hmem
    exact absurd hmem List.not_mem_nil
  | ask statements next ih =>
    obtain ⟨hstatements, hnext⟩ := h
    intro statement hmem
    rcases List.mem_append.1 hmem with hmem | hmem
    · exact hstatements statement (sent_ask_subset source statements s hmem)
    · exact ih _ (hnext _) _ statement hmem

theorem map_map (p : Program α) (f : α → β) (g : β → γ) : (p.map f).map g = p.map (g ∘ f) :=
  bind_assoc p _ _

theorem run_map (source : Source σ) (p : Program α) (f : α → β) (s : σ) :
    (p.map f).run source s =
      ⟨f (p.run source s).value, (p.run source s).sent, (p.run source s).state⟩ := by
  rw [map, run_bind]
  simp only [run, List.append_nil]

theorem run_bind_of_value {source : Source σ} {p : Program α} {f : α → Program β} {s : σ} {a : α}
    (h : (p.run source s).value = a) :
    (p.bind f).run source s =
      let first := p.run source s
      let second := (f a).run source first.state
      ⟨second.value, first.sent ++ second.sent, second.state⟩ := by
  subst h
  exact run_bind source p f s

theorem run_bind_of_done {source : Source σ} {p : Program α} {f : α → Program β} {s : σ} {a : α}
    {b : β} (h : (p.run source s).value = a) (hf : f a = .done b) :
    (p.bind f).run source s = ⟨b, (p.run source s).sent, (p.run source s).state⟩ := by
  rw [run_bind_of_value h, hf]
  simp only [run, List.append_nil]

end Program

namespace Inquiry

variable {σ α β : Type} {source : Program.Source σ}

/-! ## Outcomes -/

theorem outcome_throw (fault : Error) (s : σ) :
    (throw fault : Inquiry α).run.run source s = ⟨.error fault, [], s⟩ := rfl

theorem outcome_lift (result : Except Error α) (s : σ) :
    (lift result).run.run source s = ⟨result, [], s⟩ := rfl

theorem outcome_fetchRows (statement : Statement) (s : σ) :
    (fetchRows statement).run.run source s =
      ⟨(source.answer s statement).1.mapError .source, [statement],
        (source.answer s statement).2⟩ := by
  have hrun : (fetchRows statement).run.run source s =
      let asked := source.ask [statement] s
      ⟨(asked.replies.map fun rows => rows.headD []).mapError .source, asked.sent ++ [],
        asked.state⟩ := rfl
  rw [hrun, Program.ask_singleton]
  rcases source.answer s statement with ⟨_ | rows, s'⟩ <;> rfl

/-- The second part starts where the first has left the database, and only if it has not failed. -/
theorem outcome_bind (x : Inquiry α) (f : α → Inquiry β) (s : σ) :
    (x >>= f).run.run source s =
      let first := x.run.run source s
      match first.value with
      | .ok a =>
        let second := (f a).run.run source first.state
        ⟨second.value, first.sent ++ second.sent, second.state⟩
      | .error fault => ⟨.error fault, first.sent, first.state⟩ := by
  rw [ExceptT.run_bind]
  refine (Program.run_bind source x.run _ s).trans ?_
  dsimp only
  cases (x.run.run source s).value with
  | ok a => rfl
  | error fault => simp only [pure, Program.run, List.append_nil]

theorem value_bind_eq_ok_iff {x : Inquiry α} {f : α → Inquiry β} {s : σ} {b : β} :
    ((x >>= f).run.run source s).value = .ok b ↔
      ∃ a, (x.run.run source s).value = .ok a ∧
        ((f a).run.run source (x.run.run source s).state).value = .ok b := by
  rw [outcome_bind]
  dsimp only
  cases (x.run.run source s).value with
  | ok a => simp
  | error fault => simp

theorem lift_ok_bind (a : α) (f : α → Inquiry β) : (lift (.ok a) >>= f) = f a := rfl

/-! ## Statements that may be sent -/

section Asks

variable {kind : List Statement → Prop}

theorem asks_pure (a : α) : (pure a : Inquiry α).run.Asks kind := trivial

theorem asks_throw (fault : Error) : (throw fault : Inquiry α).run.Asks kind := trivial

theorem asks_lift (result : Except Error α) : (lift result).run.Asks kind := trivial

theorem asks_fetchRows {statement : Statement} (h : kind [statement]) :
    (fetchRows statement).run.Asks kind :=
  ⟨h, fun _ => trivial⟩

theorem asks_fetchThree {first second third : Statement} (h : kind [first, second, third]) :
    (fetchThree first second third).run.Asks kind :=
  ⟨h, fun _ => trivial⟩

theorem asks_lift_bind {result : Except Error α} {f : α → Inquiry β}
    (h : ∀ a, result = .ok a → (f a).run.Asks kind) : (lift result >>= f).run.Asks kind := by
  cases result with
  | ok a => exact h a rfl
  | error fault => trivial

theorem asks_bind {x : Inquiry α} {f : α → Inquiry β} (h : x.run.Asks kind)
    (hf : ∀ a, (f a).run.Asks kind) : (x >>= f).run.Asks kind := by
  rw [ExceptT.run_bind]
  refine Program.Asks.bind h fun result => ?_
  cases result with
  | ok a => exact hf a
  | error fault => trivial

end Asks

end Inquiry

end TableAtlas
