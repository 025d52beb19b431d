import Mathlib.Data.List.Perm.Subperm
import TableAtlas.Proofs.Database.Outcome

/-!
# Histories of programs

What a program has sent and received says how far it has come. Statements that are asked together are
under way until all are answered or one has failed (`Reaches.of_ask`). A run is one of the histories of
its program, whichever order the database puts into it (`reaches_run`).
-/

namespace TableAtlas

namespace Program

variable {α β : Type} {kind : Statement → Prop}

/-! ## Parts -/

namespace Part

def sent : Part → List Statement
  | unsent _ => []
  | waiting statement | answered statement _ => [statement]

def received : Part → List (Statement × Reply)
  | unsent _ | waiting _ => []
  | answered statement rows => [(statement, .ok rows)]

variable {parts : List Part}

theorem sublist_sent (parts : List Part) : (parts.flatMap sent).Sublist (parts.map statement) := by
  induction parts with
  | nil => exact .slnil
  | cons part parts ih =>
    cases part with
    | unsent st => exact ih.cons st
    | waiting st => exact ih.cons_cons st
    | answered st rows => exact ih.cons_cons st

theorem sent_of_answered (h : parts.all isAnswered) : parts.flatMap sent = parts.map statement := by
  induction parts with
  | nil => rfl
  | cons part parts ih =>
    rw [List.all_cons, Bool.and_eq_true] at h
    cases part with
    | answered st rows => exact congrArg (st :: ·) (ih h.2)
    | _ => cases h.1

theorem received_of_answered (h : parts.all isAnswered) :
    parts.flatMap received = (parts.map statement).zip ((parts.map rows).map .ok) := by
  induction parts with
  | nil => rfl
  | cons part parts ih =>
    rw [List.all_cons, Bool.and_eq_true] at h
    cases part with
    | answered st rows => exact congrArg ((st, .ok rows) :: ·) (ih h.2)
    | _ => cases h.1

end Part

/-! ## Statements that are asked together -/

/-- How far the statements have come, by what was sent and received. -/
structure Underway (statements : List Statement) (parts : List Part) (sent : List Statement)
    (received : List (Statement × Reply)) : Prop where
  statements : parts.map Part.statement = statements
  sent : sent.Perm (parts.flatMap Part.sent)
  received : received.Perm (parts.flatMap Part.received)

/-- How the statements come to an end: all are answered, or one of those that were sent fails. -/
inductive Settled (statements : List Statement) :
    Replies → List Statement → List (Statement × Reply) → Prop
  | answered {rows : List (List Row)} {sent : List Statement} {received : List (Statement × Reply)}
    (hrows : rows.length = statements.length) (hsent : sent.Perm statements)
    (hreceived : received.Perm (statements.zip (rows.map .ok))) :
    Settled statements (.ok rows) sent received
  | failed {parts : List Part} {sent : List Statement} {received : List (Statement × Reply)}
    {st : Statement} {e : DatabaseError} (h : Underway statements parts sent received)
    (hst : .waiting st ∈ parts) : Settled statements (.error e) sent (received ++ [(st, .error e)])

section Underway

variable {statements : List Statement} {parts : List Part} {sent : List Statement}
  {received : List (Statement × Reply)}

theorem Underway.start (statements : List Statement) :
    Underway statements (statements.map .unsent) [] [] := by
  refine ⟨?_, ?_, ?_⟩
  · rw [List.map_map]
    exact List.map_id statements
  · simp [List.flatMap_map, Part.sent]
  · simp [List.flatMap_map, Part.received]

theorem Underway.settled (h : Underway statements parts sent received)
    (hall : parts.all Part.isAnswered) :
    Settled statements (.ok (parts.map Part.rows)) sent received := by
  obtain ⟨rfl, hsent, hreceived⟩ := h
  rw [Part.sent_of_answered hall] at hsent
  rw [Part.received_of_answered hall] at hreceived
  exact .answered (by simp) hsent hreceived

theorem perm_append_middle {γ : Type} {xs before after : List γ} (h : xs.Perm (before ++ after))
    (x : γ) : (xs ++ [x]).Perm (before ++ x :: after) :=
  (List.perm_append_singleton x xs).trans ((h.cons x).trans List.perm_middle.symm)

theorem Underway.send {before after : List Part} {st : Statement}
    (h : Underway statements (before ++ .unsent st :: after) sent received) :
    Underway statements (before ++ .waiting st :: after) (sent ++ [st]) received := by
  obtain ⟨hstatements, hsent, hreceived⟩ := h
  rw [List.flatMap_append, List.flatMap_cons] at hsent hreceived
  refine ⟨?_, ?_, ?_⟩
  · simpa [Part.statement] using hstatements
  · rw [List.flatMap_append, List.flatMap_cons]
    exact perm_append_middle hsent st
  · rw [List.flatMap_append, List.flatMap_cons]
    exact hreceived

theorem Underway.receive {before after : List Part} {st : Statement}
    (h : Underway statements (before ++ .waiting st :: after) sent received) (rows : List Row) :
    Underway statements (before ++ .answered st rows :: after) sent
      (received ++ [(st, .ok rows)]) := by
  obtain ⟨hstatements, hsent, hreceived⟩ := h
  rw [List.flatMap_append, List.flatMap_cons] at hsent hreceived
  refine ⟨?_, ?_, ?_⟩
  · simpa [Part.statement] using hstatements
  · rw [List.flatMap_append, List.flatMap_cons]
    exact hsent
  · rw [List.flatMap_append, List.flatMap_cons]
    exact perm_append_middle hreceived _

theorem Underway.of_singleton {st : Statement} (h : Underway [st] parts sent received) :
    parts = [.unsent st] ∧ sent = [] ∧ received = [] ∨
      parts = [.waiting st] ∧ sent = [st] ∧ received = [] ∨
      ∃ rows, parts = [.answered st rows] ∧ sent = [st] ∧ received = [(st, .ok rows)] := by
  obtain ⟨hstatements, hsent, hreceived⟩ := h
  obtain ⟨part, rfl, rfl⟩ := List.map_eq_singleton_iff.1 hstatements
  rw [List.flatMap_singleton] at hsent hreceived
  cases part with
  | unsent st => exact .inl ⟨rfl, hsent.eq_nil, hreceived.eq_nil⟩
  | waiting st => exact .inr (.inl ⟨rfl, List.perm_singleton.1 hsent, hreceived.eq_nil⟩)
  | answered st rows =>
    exact .inr (.inr ⟨rows, rfl, List.perm_singleton.1 hsent, List.perm_singleton.1 hreceived⟩)

theorem Settled.of_singleton {st : Statement} {replies : Replies}
    (h : Settled [st] replies sent received) :
    sent = [st] ∧ ∃ reply, received = [(st, reply)] ∧ replies = reply.map fun rows => [rows] := by
  cases h with
  | @answered rows _ _ hrows hsent hreceived =>
    obtain ⟨rows, rfl⟩ := List.length_eq_one_iff.1 hrows
    exact ⟨List.perm_singleton.1 hsent, .ok rows, List.perm_singleton.1 hreceived, rfl⟩
  | @failed parts _ _ st' e h hst =>
    rcases h.of_singleton with ⟨rfl, -, -⟩ | ⟨rfl, rfl, rfl⟩ | ⟨rows, rfl, -, -⟩
    · simp at hst
    · obtain rfl : st' = st := by simpa using hst
      exact ⟨rfl, .error e, rfl, rfl⟩
    · simp at hst

theorem Underway.sent_subperm (h : Underway statements parts sent received) :
    sent.Subperm statements := by
  rw [← h.statements]
  exact h.sent.subperm.trans (Part.sublist_sent parts).subperm

end Underway

namespace Activity

/-! ## Histories -/

variable {p q : Program α} {a b : Activity α} {signal : Signal} {sent sent' : List Statement}
  {received received' : List (Statement × Reply)} {statements : List Statement}
  {next : Replies → Program α}

theorem Reaches.trans (h : Reaches p sent received q.start) (hlater : Reaches q sent' received' a) :
    Reaches p (sent ++ sent') (received ++ received') a := by
  induction hlater with
  | start => simpa using h
  | move _ hmove ih =>
    rw [← List.append_assoc, ← List.append_assoc]
    exact ih.move hmove

section Steps

variable {before after : List Part} {st : Statement}

theorem Reaches.send (h : Reaches p sent received (asking (before ++ .unsent st :: after) next)) :
    Reaches p (sent ++ [st]) received (asking (before ++ .waiting st :: after) next) := by
  have hmove := h.move (.send before after st rfl)
  rwa [Signal.received?, Option.toList_none, List.append_nil] at hmove

theorem Reaches.receive (rows : List Row)
    (h : Reaches p sent received (asking (before ++ .waiting st :: after) next)) :
    Reaches p sent (received ++ [(st, .ok rows)])
      (resume (before ++ .answered st rows :: after) next) := by
  have hmove := h.move (.receive before after st rows rfl)
  rwa [Signal.sent?, Option.toList_none, List.append_nil] at hmove

theorem Reaches.fail {parts : List Part} (e : DatabaseError)
    (h : Reaches p sent received (asking parts next)) (hst : .waiting st ∈ parts) :
    Reaches p sent (received ++ [(st, .error e)]) (next (.error e)).start := by
  have hmove := h.move (.fail st e hst)
  rwa [Signal.sent?, Option.toList_none, List.append_nil] at hmove

end Steps

theorem start_ask (statements : List Statement) (next : Replies → Program α) :
    (ask statements next).start = resume (statements.map .unsent) next := by
  cases statements with
  | nil => rfl
  | cons statement statements => rfl

theorem start_bind (p : Program α) (f : α → Program β) : (p.bind f).start = p.start.bind f := by
  induction p with
  | done a => rfl
  | ask statements next ih =>
    cases statements with
    | nil => exact ih _
    | cons statement statements => rfl

theorem resume_bind (parts : List Part) (next : Replies → Program α) (f : α → Program β) :
    resume parts (fun replies => (next replies).bind f) = (resume parts next).bind f := by
  unfold resume
  split
  · exact start_bind _ f
  · rfl

theorem Moves.bind (h : a.Moves signal b) (f : α → Program β) : (a.bind f).Moves signal (b.bind f) := by
  cases h with
  | send before after st h => exact .send before after st h
  | receive before after st rows h =>
    rw [← resume_bind]
    exact .receive before after st rows h
  | fail st e h =>
    rw [← start_bind]
    exact .fail st e h

theorem Reaches.bind (h : Reaches p sent received a) (f : α → Program β) :
    Reaches (p.bind f) sent received (a.bind f) := by
  induction h with
  | start =>
    rw [← start_bind]
    exact .start
  | move _ hmove ih => exact ih.move (hmove.bind f)

theorem Reaches.of_done {x : α} (h : Reaches (.done x) sent received a) :
    sent = [] ∧ received = [] ∧ a = .done x := by
  induction h with
  | start => exact ⟨rfl, rfl, rfl⟩
  | move _ hmove ih =>
    obtain ⟨-, -, rfl⟩ := ih
    cases hmove

theorem move_of_underway {parts : List Part} (h : Underway statements parts sent received)
    (hmove : (asking parts next).Moves signal b) :
    (∃ parts', b = asking parts' next ∧ Underway statements parts' (sent ++ signal.sent?.toList)
        (received ++ signal.received?.toList)) ∨
      ∃ replies, b = (next replies).start ∧ Settled statements replies (sent ++ signal.sent?.toList)
        (received ++ signal.received?.toList) := by
  cases hmove with
  | send before after st hparts =>
    subst hparts
    simp only [Signal.sent?, Signal.received?, Option.toList_some, Option.toList_none, List.append_nil]
    exact .inl ⟨_, rfl, h.send⟩
  | receive before after st rows hparts =>
    subst hparts
    simp only [Signal.sent?, Signal.received?, Option.toList_some, Option.toList_none, List.append_nil]
    unfold resume
    split
    · next hall => exact .inr ⟨_, rfl, (h.receive rows).settled hall⟩
    · exact .inl ⟨_, rfl, h.receive rows⟩
  | fail st e hst =>
    simp only [Signal.sent?, Signal.received?, Option.toList_some, Option.toList_none, List.append_nil]
    exact .inr ⟨_, rfl, .failed h hst⟩

/-- A program that asks statements together waits for them, or has gone on with what came of them. -/
theorem Reaches.of_ask (h : Reaches (.ask statements next) sent received a) :
    (∃ parts, a = asking parts next ∧ Underway statements parts sent received) ∨
      ∃ replies sent₁ sent₂ received₁ received₂, sent = sent₁ ++ sent₂ ∧
        received = received₁ ++ received₂ ∧ Settled statements replies sent₁ received₁ ∧
        Reaches (next replies) sent₂ received₂ a := by
  induction h with
  | start =>
    rw [start_ask, resume]
    split
    · next hall =>
      exact .inr ⟨_, [], [], [], [], rfl, rfl, (Underway.start statements).settled hall, .start⟩
    · exact .inl ⟨_, rfl, .start statements⟩
  | move _ hmove ih =>
    rcases ih with ⟨parts, rfl, hunderway⟩ |
      ⟨replies, sent₁, sent₂, received₁, received₂, rfl, rfl, hsettled, hlater⟩
    · rcases move_of_underway hunderway hmove with hasking | ⟨replies, rfl, hsettled⟩
      · exact .inl hasking
      · exact .inr ⟨replies, _, [], _, [], by simp, by simp, hsettled, .start⟩
    · refine .inr ⟨replies, sent₁, _, received₁, _, ?_, ?_, hsettled, hlater.move hmove⟩
      · exact List.append_assoc _ _ _
      · exact List.append_assoc _ _ _

/-! ## Statements that may be sent -/

/-- Every statement that may still come to be sent is of the kind. -/
def AsksOnly (kind : Statement → Prop) : Activity α → Prop
  | done _ => True
  | asking parts next =>
    (∀ statement ∈ parts.map Part.statement, kind statement) ∧
      ∀ replies, (next replies).AsksOnly kind

theorem asksOnly_start (h : p.AsksOnly kind) : p.start.AsksOnly kind := by
  induction p with
  | done a => trivial
  | ask statements next ih =>
    cases statements with
    | nil => exact ih _ (h.2 _)
    | cons statement statements => exact ⟨by simpa [Part.statement] using h.1, h.2⟩

theorem asksOnly_resume {parts : List Part} (h : (asking parts next).AsksOnly kind) :
    (resume parts next).AsksOnly kind := by
  unfold resume
  split
  · exact asksOnly_start (h.2 _)
  · exact h

theorem AsksOnly.move (h : a.AsksOnly kind) (hmove : a.Moves signal b) : b.AsksOnly kind := by
  cases hmove with
  | send before after st hparts =>
    subst hparts
    exact ⟨by simpa [Part.statement] using h.1, h.2⟩
  | receive before after st rows hparts =>
    subst hparts
    exact asksOnly_resume ⟨by simpa [Part.statement] using h.1, h.2⟩
  | fail st e hst => exact asksOnly_start (h.2 _)

theorem AsksOnly.of_reaches (hp : p.AsksOnly kind) (h : Reaches p sent received a) :
    a.AsksOnly kind := by
  induction h with
  | start => exact asksOnly_start hp
  | move _ hmove ih => exact ih.move hmove

theorem Reaches.sent_of_asksOnly (h : Reaches p sent received a) (hp : p.AsksOnly kind)
    {st : Statement} (hmove : a.Moves (.sent st) b) : kind st := by
  have ha := AsksOnly.of_reaches hp h
  cases hmove with
  | send before after st hparts =>
    subst hparts
    exact ha.1 st (by simp [Part.statement])

end Activity

/-! ## Runs as histories -/

section Runs

variable {σ : Type} (source : Source σ)

/-- The replies to what a run sends, in the order in which they come. -/
def exchanged : Program α → σ → List (Statement × Reply)
  | done _, _ => []
  | ask statements next, s =>
    let asked := source.ask statements s
    asked.received ++ (next asked.replies).exchanged asked.state

/-- How often a part still goes on. -/
def Part.left : Part → Nat
  | unsent _ => 2
  | waiting _ => 1
  | answered _ _ => 0

/-- The places come often enough for all parts to be answered. -/
def Enough (places : List Nat) (parts : List Part) : Prop :=
  ∀ (place : Nat) (part : Part), parts[place]? = some part → part.left ≤ places.count place

theorem enough_inTurn (places : List Nat) (statements : List Statement) :
    Enough (places ++ Source.inTurn statements.length) (statements.map .unsent) := by
  intro place part hpart
  rw [List.getElem?_map, Option.map_eq_some_iff] at hpart
  obtain ⟨st, hst, rfl⟩ := hpart
  have hplace : place ∈ List.range statements.length :=
    List.mem_range.2 (List.getElem?_eq_some_iff.1 hst).1
  have htwice : [place, place].Sublist (Source.inTurn statements.length) :=
    List.sublist_flatten_of_mem (List.mem_map_of_mem hplace)
  have hcount := htwice.count_le place
  rw [List.count_append]
  simp only [List.count_cons_self, List.count_nil] at hcount
  simp only [Part.left]
  omega

theorem Enough.answered {parts : List Part} (h : Enough [] parts) : parts.all Part.isAnswered := by
  rw [List.all_eq_true]
  intro part hpart
  obtain ⟨place, hplace⟩ := List.getElem?_of_mem hpart
  have hleft := h place part hplace
  cases part with
  | answered st rows => rfl
  | _ => simp [Part.left] at hleft

theorem Enough.set {place : Nat} {places : List Nat} {parts : List Part} {part part' : Part}
    (h : Enough (place :: places) parts) (hpart : parts[place]? = some part)
    (hleft : part.left = part'.left + 1) : Enough places (parts.set place part') := by
  intro other part'' hother
  by_cases hsame : place = other
  · subst hsame
    have hplace := h place part hpart
    obtain rfl : part' = part'' := by
      rw [List.getElem?_set_self (List.getElem?_eq_some_iff.1 hpart).1] at hother
      exact Option.some.inj hother
    rw [List.count_cons_self] at hplace
    omega
  · rw [List.getElem?_set_ne hsame] at hother
    simpa [hsame] using h other part'' hother

theorem Enough.skip {place : Nat} {places : List Nat} {parts : List Part}
    (h : Enough (place :: places) parts)
    (hpart : ∀ part, parts[place]? = some part → part.left = 0) : Enough places parts := by
  intro other part hother
  by_cases hsame : place = other
  · subst hsame
    rw [hpart part hother]
    exact Nat.zero_le _
  · simpa [hsame] using h other part hother

theorem exists_of_part {place : Nat} {parts : List Part} {part : Part}
    (h : parts[place]? = some part) (part' : Part) :
    ∃ before after, parts = before ++ part :: after ∧
      parts.set place part' = before ++ part' :: after := by
  obtain ⟨hlt, rfl⟩ := List.getElem?_eq_some_iff.1 h
  obtain ⟨before, after, hparts, -, hset⟩ := List.exists_of_set hlt
  exact ⟨before, after, hparts, hset⟩

open Activity

theorem resume_of_not_answered {parts : List Part} {next : Replies → Program α} {part : Part}
    (h : part ∈ parts) (hpart : part.isAnswered = false) : resume parts next = asking parts next := by
  refine if_neg fun hall => ?_
  rw [List.all_eq_true] at hall
  exact Bool.false_ne_true (hpart.symm.trans (hall part h))

theorem reaches_goOn {p : Program α} {next : Replies → Program α} {places : List Nat}
    {parts : List Part} (henough : Enough places parts) {sent : List Statement}
    {received : List (Statement × Reply)} (h : Reaches p sent received (resume parts next)) (s : σ) :
    let asked := source.goOn places parts s
    Reaches p (sent ++ asked.sent) (received ++ asked.received) (next asked.replies).start := by
  fun_induction source.goOn places parts s generalizing sent received with
  | case1 parts s =>
    rw [resume, if_pos henough.answered] at h
    simpa using h
  | case2 place places parts s statement hpart ih =>
    rw [resume_of_not_answered (List.mem_of_getElem? hpart) rfl] at h
    obtain ⟨before, after, rfl, hset⟩ := exists_of_part hpart (.waiting statement)
    have hwaiting : .waiting statement ∈ before ++ Part.waiting statement :: after := by simp
    have hsent := h.send
    rw [← resume_of_not_answered hwaiting rfl, ← hset] at hsent
    simpa [Asked.afterSent] using ih (henough.set hpart rfl) hsent
  | case3 place places parts s statement hpart rows s' hanswer ih =>
    rw [resume_of_not_answered (List.mem_of_getElem? hpart) rfl] at h
    obtain ⟨before, after, rfl, hset⟩ := exists_of_part hpart (.answered statement rows)
    have hreceived := h.receive rows
    rw [← hset] at hreceived
    simpa [Asked.afterReceived] using ih (henough.set hpart rfl) hreceived
  | case4 place places parts s statement hpart e s' hanswer =>
    have hwaiting := List.mem_of_getElem? hpart
    rw [resume_of_not_answered hwaiting rfl] at h
    simpa using h.fail e hwaiting
  | case5 place places parts s statement rows hpart ih =>
    exact ih (henough.skip fun part h => by simp_all [Part.left]) h
  | case6 place places parts s hpart ih =>
    exact ih (henough.skip fun part h => by simp_all) h

theorem received_goOn (places : List Nat) (parts : List Part) (s : σ) :
    ∀ exchange ∈ (source.goOn places parts s).received,
      ∃ s', exchange.2 = (source.answer s' exchange.1).1 := by
  fun_induction source.goOn places parts s with
  | case1 parts s => simp
  | case2 place places parts s statement hpart ih => exact ih
  | case3 place places parts s statement hpart rows s' hanswer ih =>
    exact List.forall_mem_cons.2 ⟨⟨s, by rw [hanswer]⟩, ih⟩
  | case4 place places parts s statement hpart e s' hanswer =>
    exact List.forall_mem_singleton.2 ⟨s, by rw [hanswer]⟩
  | case5 place places parts s statement rows hpart ih => exact ih
  | case6 place places parts s hpart ih => exact ih

theorem received_exchanged (p : Program α) (s : σ) :
    ∀ exchange ∈ p.exchanged source s, ∃ s', exchange.2 = (source.answer s' exchange.1).1 := by
  induction p generalizing s with
  | done a => exact fun _ h => absurd h List.not_mem_nil
  | ask statements next ih => exact List.forall_mem_append.2 ⟨received_goOn source _ _ _, ih _ _⟩

/-- A run is a history that leads to the end of the program. -/
theorem reaches_run (p : Program α) (s : σ) :
    Reaches p (p.run source s).sent (p.exchanged source s) (.done (p.run source s).value) := by
  induction p generalizing s with
  | done a => exact .start
  | ask statements next ih =>
    have hstart : Reaches (.ask statements next) [] [] (resume (statements.map .unsent) next) := by
      rw [← start_ask]
      exact .start
    exact (reaches_goOn source (enough_inTurn _ _) hstart s).trans (ih _ _)

end Runs

end Program

namespace Inquiry

open Program (Activity Underway)
open Program.Activity (Reaches)

variable {α : Type} {sent : List Statement} {received : List (Statement × Reply)}

theorem run_fetchRows_bind (statement : Statement) (f : List Row → Inquiry α) :
    (fetchRows statement >>= f).run = .ask [statement] fun
      | .ok rows => (f (rows.headD [])).run
      | .error e => .done (.error (.source e)) := by
  refine congrArg (Program.ask [statement]) (funext fun replies => ?_)
  cases replies with
  | ok rows => rfl
  | error e => rfl

theorem run_fetchThree_bind (first second third : Statement)
    (f : List Row × List Row × List Row → Inquiry α) :
    (fetchThree first second third >>= f).run = .ask [first, second, third] fun
      | .ok rows => (f (rows.getD 0 [], rows.getD 1 [], rows.getD 2 [])).run
      | .error e => .done (.error (.source e)) := by
  refine congrArg (Program.ask [first, second, third]) (funext fun replies => ?_)
  cases replies with
  | ok rows => rfl
  | error e => rfl

theorem reaches_fetchRows_bind_cases {statement : Statement} {f : List Row → Inquiry α}
    {a : Activity (Except Error α)} (h : Reaches (fetchRows statement >>= f).run sent received a) :
    (∃ parts next, a = .asking parts next ∧ Underway [statement] parts sent received) ∨
      (∃ e, sent = [statement] ∧ received = [(statement, .error e)] ∧
        a = .done (.error (.source e))) ∨
      ∃ rows sent' later, sent = statement :: sent' ∧ received = (statement, .ok rows) :: later ∧
        Reaches (f rows).run sent' later a := by
  rw [run_fetchRows_bind] at h
  rcases h.of_ask with ⟨parts, rfl, hunderway⟩ |
    ⟨replies, sent₁, sent₂, received₁, received₂, rfl, rfl, hsettled, hlater⟩
  · exact .inl ⟨parts, _, rfl, hunderway⟩
  · obtain ⟨rfl, reply, rfl, rfl⟩ := hsettled.of_singleton
    cases reply with
    | error e =>
      obtain ⟨rfl, rfl, rfl⟩ := hlater.of_done
      exact .inr (.inl ⟨e, rfl, rfl, rfl⟩)
    | ok rows => exact .inr (.inr ⟨rows, sent₂, received₂, rfl, rfl, hlater⟩)

end Inquiry

end TableAtlas
