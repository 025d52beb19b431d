import TableAtlas.Proofs.Database.Activity

/-!
# Repeatable databases

A database is repeatable if its reply depends on nothing but the statement. What a program ends with over
such a database is still not settled: of statements that are asked together and fail, any may be the first
whose failure arrives. `MayEnd` says what is possible, by recursion over the program (`mayEnd_ask_iff`);
a program that asks one statement after the other has one value (`MayEnd.unique`).
-/

namespace TableAtlas

namespace Program

open Activity (Reaches)

variable {σ α β : Type}

/-- The database gives this answer to each statement, in every state. -/
def Source.Answers (source : Source σ) (answer : Statement → Reply) : Prop :=
  ∀ s statement, (source.answer s statement).1 = answer statement

/-- Some history in which each statement is answered in this way ends with the value. -/
def MayEnd (answer : Statement → Reply) (p : Program α) (a : α) : Prop :=
  ∃ sent received, Reaches p sent received (.done a) ∧
    ∀ exchange ∈ received, exchange.2 = answer exchange.1

section MayEnd

variable {answer : Statement → Reply} {statements : List Statement} {next : Replies → Program α}
  {a : α}

theorem mayEnd_done_iff {b : α} : MayEnd answer (.done a) b ↔ a = b := by
  constructor
  · rintro ⟨sent, received, h, -⟩
    exact (Activity.done.inj h.of_done.2.2).symm
  · rintro rfl
    exact ⟨[], [], .start, by simp⟩

theorem map_eq_of_forall_mem_zip {γ δ : Type} {f : γ → δ} {xs : List γ} {ys : List δ}
    (hlength : ys.length = xs.length) (h : ∀ pair ∈ xs.zip ys, pair.2 = f pair.1) :
    xs.map f = ys := by
  have hfst : (xs.zip ys).map Prod.fst = xs := List.map_fst_zip (by omega)
  calc xs.map f = (xs.zip ys).map (f ∘ Prod.fst) := by rw [← List.map_map, hfst]
    _ = (xs.zip ys).map Prod.snd := (List.map_congr_left h).symm
    _ = ys := List.map_snd_zip (by omega)

theorem exists_pairs {rows : List (List Row)} (h : statements.map answer = rows.map .ok) :
    ∃ pairs : List (Statement × List Row), pairs.map Prod.fst = statements ∧
      pairs.map Prod.snd = rows ∧ ∀ pair ∈ pairs, answer pair.1 = .ok pair.2 := by
  induction statements generalizing rows with
  | nil =>
    obtain rfl := List.map_eq_nil_iff.1 h.symm
    exact ⟨[], rfl, rfl, by simp⟩
  | cons st statements ih =>
    obtain ⟨first, rest, rfl, hfirst, hrest⟩ := List.map_eq_cons_iff.1 h.symm
    obtain ⟨pairs, rfl, rfl, hpairs⟩ := ih hrest.symm
    exact ⟨(st, first) :: pairs, rfl, rfl, List.forall_mem_cons.2 ⟨hfirst.symm, hpairs⟩⟩

theorem reaches_answered {p : Program α} (pairs : List (Statement × List Row)) (before : List Part)
    {sent : List Statement} {received : List (Statement × Reply)}
    (h : Reaches p sent received
      (Activity.resume (before ++ pairs.map fun pair => .unsent pair.1) next)) :
    ∃ sent', Reaches p sent' (received ++ pairs.map fun pair => (pair.1, .ok pair.2))
      (Activity.resume (before ++ pairs.map fun pair => .answered pair.1 pair.2) next) := by
  induction pairs generalizing before sent received with
  | nil => exact ⟨sent, by simpa using h⟩
  | cons pair pairs ih =>
    obtain ⟨st, rows⟩ := pair
    simp only [List.map_cons] at h ⊢
    rw [resume_of_not_answered (List.mem_append_right _ List.mem_cons_self) rfl] at h
    have hanswered := h.send.receive rows
    rw [List.append_cons before] at hanswered
    obtain ⟨sent', hlater⟩ := ih (before ++ [.answered st rows]) hanswered
    exact ⟨sent', by simpa using hlater⟩

theorem reaches_failed {st : Statement} (h : st ∈ statements) (e : DatabaseError) :
    Reaches (ask statements next) [st] [(st, .error e)] (next (.error e)).start := by
  obtain ⟨before, after, rfl⟩ := List.append_of_mem h
  have hstart : Reaches (ask (before ++ st :: after) next) [] []
      (.asking (before.map .unsent ++ .unsent st :: after.map .unsent) next) := by
    have hunsent : Part.unsent st ∈ (before ++ st :: after).map .unsent :=
      List.mem_map_of_mem (List.mem_append_right _ List.mem_cons_self)
    have hstart : Reaches (ask (before ++ st :: after) next) [] [] _ := .start
    rwa [Activity.start_ask, resume_of_not_answered hunsent rfl, List.map_append,
      List.map_cons] at hstart
  exact hstart.send.fail e (List.mem_append_right _ List.mem_cons_self)

theorem MayEnd.of_reaches {p q : Program α} {sent : List Statement}
    {received : List (Statement × Reply)} (h : Reaches p sent received q.start)
    (hreceived : ∀ exchange ∈ received, exchange.2 = answer exchange.1) (hq : q.MayEnd answer a) :
    p.MayEnd answer a := by
  obtain ⟨sent', received', hlater, hreceived'⟩ := hq
  exact ⟨_, _, h.trans hlater, List.forall_mem_append.2 ⟨hreceived, hreceived'⟩⟩

/-- Statements that are asked together give their rows, if all of them do; and the failure of any that
fails may be the first to arrive. -/
theorem mayEnd_ask_iff :
    MayEnd answer (ask statements next) a ↔
      (∃ rows : List (List Row), statements.map answer = rows.map .ok ∧
        (next (.ok rows)).MayEnd answer a) ∨
      ∃ st ∈ statements, ∃ e, answer st = .error e ∧ (next (.error e)).MayEnd answer a := by
  constructor
  · rintro ⟨sent, received, h, hreceived⟩
    rcases h.of_ask with ⟨parts, hasking, -⟩ |
      ⟨replies, sent₁, sent₂, received₁, received₂, rfl, rfl, hsettled, hlater⟩
    · cases hasking
    rw [List.forall_mem_append] at hreceived
    have hnext : (next replies).MayEnd answer a := ⟨sent₂, received₂, hlater, hreceived.2⟩
    cases hsettled with
    | @answered rows _ _ hrows hsent hperm =>
      refine .inl ⟨rows, map_eq_of_forall_mem_zip (by simpa using hrows) fun pair hpair => ?_, hnext⟩
      exact hreceived.1 pair (hperm.mem_iff.2 hpair)
    | @failed parts _ received st e hunderway hst =>
      have hmem : st ∈ statements := by
        rw [← hunderway.statements]
        exact List.mem_map_of_mem hst
      exact .inr ⟨st, hmem, e, (hreceived.1 (st, .error e) (by simp)).symm, hnext⟩
  · rintro (⟨rows, hrows, hnext⟩ | ⟨st, hst, e, he, hnext⟩)
    · obtain ⟨pairs, rfl, rfl, hpairs⟩ := exists_pairs hrows
      have hstart : Reaches (ask (pairs.map Prod.fst) next) [] [] _ := .start
      rw [Activity.start_ask, List.map_map] at hstart
      obtain ⟨sent, h⟩ := reaches_answered pairs [] hstart
      rw [Activity.resume, if_pos (by simp [Part.isAnswered]), List.nil_append, List.nil_append,
        List.map_map] at h
      refine .of_reaches h (fun exchange hexchange => ?_) hnext
      obtain ⟨pair, hpair, rfl⟩ := List.mem_map.1 hexchange
      exact (hpairs pair hpair).symm
    · exact .of_reaches (reaches_failed hst e) (by simp [he]) hnext

theorem mayEnd_bind_iff {p : Program α} {f : α → Program β} {b : β} :
    (p.bind f).MayEnd answer b ↔ ∃ a, p.MayEnd answer a ∧ (f a).MayEnd answer b := by
  induction p with
  | done a => simp only [bind, mayEnd_done_iff, exists_eq_left']
  | ask statements next ih =>
    rw [bind, mayEnd_ask_iff]
    simp only [ih, mayEnd_ask_iff]
    constructor
    · rintro (⟨rows, hrows, a, ha, hb⟩ | ⟨st, hst, e, he, a, ha, hb⟩)
      · exact ⟨a, .inl ⟨rows, hrows, ha⟩, hb⟩
      · exact ⟨a, .inr ⟨st, hst, e, he, ha⟩, hb⟩
    · rintro ⟨a, ⟨rows, hrows, ha⟩ | ⟨st, hst, e, he, ha⟩, hb⟩
      · exact .inl ⟨rows, hrows, a, ha, hb⟩
      · exact .inr ⟨st, hst, e, he, a, ha, hb⟩

theorem mayEnd_map_iff {p : Program α} {f : α → β} {b : β} :
    (p.map f).MayEnd answer b ↔ ∃ a, p.MayEnd answer a ∧ f a = b := by
  simp only [map, mayEnd_bind_iff, mayEnd_done_iff]

/-- A run ends with what is possible, in whichever order the replies come. -/
theorem mayEnd_run {source : Source σ} (h : source.Answers answer) (p : Program α) (s : σ) :
    p.MayEnd answer (p.run source s).value := by
  refine ⟨_, _, reaches_run source p s, fun exchange hexchange => ?_⟩
  obtain ⟨s', hs'⟩ := received_exchanged source p s exchange hexchange
  exact hs'.trans (h s' exchange.1)

theorem exists_mayEnd (answer : Statement → Reply) (p : Program α) : ∃ a, p.MayEnd answer a := by
  let source : Source Unit := { answer := fun _ statement => (answer statement, ()) }
  have hsource : source.Answers answer := fun _ _ => rfl
  exact ⟨_, mayEnd_run hsource p ()⟩

end MayEnd

/-! ## One statement after the other -/

theorem MayEnd.unique {answer : Statement → Reply} {p : Program α} {a b : α} (hp : p.AsksSingly)
    (ha : p.MayEnd answer a) (hb : p.MayEnd answer b) : a = b := by
  induction p with
  | done c => exact (mayEnd_done_iff.1 ha).symm.trans (mayEnd_done_iff.1 hb)
  | ask statements next ih =>
    obtain ⟨hsingle, hnext⟩ := hp
    obtain ⟨st, rfl⟩ := List.length_eq_one_iff.1 hsingle
    have hgo {c : α} (hc : MayEnd answer (ask [st] next) c) :
        (next ((answer st).map fun rows => [rows])).MayEnd answer c := by
      rcases mayEnd_ask_iff.1 hc with ⟨rows, hrows, h⟩ | ⟨st', hst, e, he, h⟩
      · obtain ⟨rows', rfl, hrows'⟩ := List.map_eq_singleton_iff.1 hrows.symm
        rwa [← hrows']
      · obtain rfl := List.mem_singleton.1 hst
        rwa [he]
    exact ih _ (hnext _) (hgo ha) (hgo hb)

end Program

theorem Inquiry.mayEnd_bind_iff {α β : Type} {answer : Statement → Reply} {x : Inquiry α}
    {f : α → Inquiry β} {result : Except Error β} :
    (x >>= f).run.MayEnd answer result ↔
      (∃ a, x.run.MayEnd answer (.ok a) ∧ (f a).run.MayEnd answer result) ∨
        ∃ fault, x.run.MayEnd answer (.error fault) ∧ result = .error fault := by
  rw [ExceptT.run_bind]
  refine Program.mayEnd_bind_iff.trans ⟨?_, ?_⟩
  · rintro ⟨fault | a, hx, h⟩
    · exact .inr ⟨fault, hx, (Program.mayEnd_done_iff.1 h).symm⟩
    · exact .inl ⟨a, hx, h⟩
  · rintro (⟨a, hx, h⟩ | ⟨fault, hx, rfl⟩)
    · exact ⟨.ok a, hx, h⟩
    · exact ⟨.error fault, hx, Program.mayEnd_done_iff.2 rfl⟩

end TableAtlas
