import TableAtlas.Proofs.Catalog.Pass
import TableAtlas.Proofs.Database.Repeatable
import TableAtlas.Proofs.Result

/-!
# Sessions

A session is one explorer that answers requests one after the other. What it keeps between them
cannot be told from its answers: over a repeatable database each request has the answer that it has on its
own (`session_transparent`).

An answer can depend on one thing besides the database. If two listings fail with different errors, the
pass fails with the one that arrives first. So the statement is about the answers that are possible, and
about the answer itself where the order of the replies is known.
-/

namespace TableAtlas

open Catalog (Listing)
open Program (Source Outcome MayEnd)

/-- The answer to a request by a pass of its own. -/
def Request.answerAfresh (c : Configuration) (request : Request) : Inquiry Answer := do
  let s ← Catalog.reflect c
  request.answerWith s

/-- A request in a session, with the explorer and the database that it finds and what comes of it. -/
structure Turn (σ : Type) where
  request : Request
  before : Explorer
  start : σ
  outcome : Outcome σ (Except Error Answer × Explorer)

namespace Turn

variable {σ : Type}

def answer (t : Turn σ) : Except Error Answer :=
  t.outcome.value.1

def after (t : Turn σ) : Explorer :=
  t.outcome.value.2

def sent (t : Turn σ) : List Statement :=
  t.outcome.sent

end Turn

namespace Explorer

/-- Answers requests in their order. -/
def handleAll (e : Explorer) : List Request → Program (List (Except Error Answer) × Explorer)
  | [] => .done ([], e)
  | request :: requests =>
    (e.handle request).bind fun (answer, e) =>
      (e.handleAll requests).map fun (answers, e) => (answer :: answers, e)

/-- The requests of a session, each from where the one before has left the explorer and the
database. -/
def turns {σ : Type} (source : Source σ) : Explorer → List Request → σ → List (Turn σ)
  | _, [], _ => []
  | e, request :: requests, state =>
    let outcome := (e.handle request).run source state
    ⟨request, e, state, outcome⟩ :: turns source outcome.value.2 requests outcome.state

/-- A session may have these answers, over a database that gives one answer to each statement. -/
def MayAnswer (answer : Statement → Reply) (e : Explorer) (requests : List Request)
    (answers : List (Except Error Answer)) : Prop :=
  ∃ after, (e.handleAll requests).MayEnd answer (answers, after)

theorem handle_unknown (c : Configuration) (request : Request) :
    handle ⟨c, none⟩ request = (Catalog.reflect c).run.bind fun
      | .ok s => (request.answerWith s).run.map fun answer => (answer, ⟨c, some s⟩)
      | .error fault => .done (.error fault, ⟨c, none⟩) := by
  rw [handle, learn, Program.map, Program.bind_assoc]
  congr 1
  funext result
  cases result with
  | ok s => rfl
  | error fault => rfl

theorem handle_known (c : Configuration) (s : Schema) (request : Request) :
    handle ⟨c, some s⟩ request =
      (request.answerWith s).run.map fun answer => (answer, ⟨c, some s⟩) := rfl

theorem eq_of_create {c : Configuration} {e : Explorer} (h : create c = .ok e) : e = ⟨c, none⟩ := by
  simp only [create, bind_eq_ok_iff, pure_eq_ok_iff] at h
  obtain ⟨valid, hvalid, rfl⟩ := h
  unfold Configuration.validate at hvalid
  split at hvalid
  · simp at hvalid
  · rw [Except.ok.inj hvalid]

theorem handleAll_of_turns {σ : Type} {source : Source σ} (e : Explorer) (requests : List Request)
    (state : σ) :
    (e.turns source requests state).map Turn.request = requests ∧
      ((e.handleAll requests).run source state).value =
        ((e.turns source requests state).map Turn.answer,
          ((e.turns source requests state).getLast?.map Turn.after).getD e) ∧
      ((e.handleAll requests).run source state).sent =
        (e.turns source requests state).flatMap Turn.sent := by
  induction requests generalizing e state with
  | nil => exact ⟨rfl, rfl, rfl⟩
  | cons request requests ih =>
    let first : Turn σ := ⟨request, e, state, (e.handle request).run source state⟩
    have hturns : e.turns source (request :: requests) state =
        first :: first.after.turns source requests first.outcome.state := rfl
    have hrun : (e.handleAll (request :: requests)).run source state =
        let rest := (first.after.handleAll requests).run source first.outcome.state
        ⟨(first.answer :: rest.value.1, rest.value.2), first.sent ++ rest.sent, rest.state⟩ := by
      simp only [handleAll, Program.run_bind, Program.run_map]
      rfl
    obtain ⟨hrequests, hvalue, hsent⟩ := ih first.after first.outcome.state
    rw [hturns, hrun]
    dsimp only
    rw [hvalue, hsent]
    refine ⟨congrArg (request :: ·) hrequests, ?_, rfl⟩
    have hlast (later : List (Turn σ)) : ((first :: later).getLast?.map Turn.after).getD e =
        (later.getLast?.map Turn.after).getD first.after := by
      rw [List.getLast?_cons, Option.map_some, Option.getD_some, Option.getD_map]
    rw [hlast]
    rfl

end Explorer

/-! ## What a pass may end with -/

section Pass

variable {c : Configuration} {answer : Statement → Reply} {result result' : Except Error Schema}
  {s : Schema}

theorem Catalog.asksSingly_complete (c : Configuration) (rows : Listing → List Row) :
    (complete c rows).run.AsksSingly :=
  Inquiry.asks_lift_bind fun s _ => asks_countRows (fun _ _ => rfl) s

theorem mayEnd_reflect_iff :
    (Catalog.reflect c).run.MayEnd answer result ↔
      (∃ rows : Listing → List Row, (∀ listing, answer (listing.statement c) = .ok (rows listing)) ∧
        (Catalog.complete c rows).run.MayEnd answer result) ∨
      ∃ (listing : Listing) (e : DatabaseError), answer (listing.statement c) = .error e ∧
        result = .error (.source e) := by
  rw [Catalog.run_reflect, Program.mayEnd_ask_iff]
  refine or_congr ⟨?_, ?_⟩ ⟨?_, ?_⟩
  · rintro ⟨replies, hreplies, h⟩
    refine ⟨Listing.pick replies, fun listing => ?_, h⟩
    have hlength : replies.length = 3 := by
      have hlength := congrArg List.length hreplies
      rwa [List.length_map, List.length_map, eq_comm] at hlength
    obtain ⟨tableRows, columnRows, referenceRows, rfl⟩ := List.length_eq_three.1 hlength
    simp only [Listing.statements, Listing.all, List.map_cons, List.cons.injEq] at hreplies
    cases listing with
    | tables => exact hreplies.1
    | columns => exact hreplies.2.1
    | references => exact hreplies.2.2.1
  · rintro ⟨rows, hrows, h⟩
    refine ⟨[rows .tables, rows .columns, rows .references], ?_, ?_⟩
    · simp [Listing.statements, Listing.all, hrows]
    · have hpick : Listing.pick [rows .tables, rows .columns, rows .references] = rows := by
        funext listing
        cases listing <;> rfl
      rwa [← hpick] at h
  · rintro ⟨st, hst, e, he, h⟩
    obtain ⟨listing, rfl⟩ := Listing.mem_statements_iff.1 hst
    exact ⟨listing, e, he, (Program.mayEnd_done_iff.1 h).symm⟩
  · rintro ⟨listing, e, he, rfl⟩
    exact ⟨_, Listing.mem_statements_iff.2 ⟨listing, rfl⟩, e, he, Program.mayEnd_done_iff.2 rfl⟩

/-- Two ways in which a pass may end come from two listings that fail differently. -/
theorem eq_or_failed_of_mayEnd_reflect (h : (Catalog.reflect c).run.MayEnd answer result)
    (h' : (Catalog.reflect c).run.MayEnd answer result') :
    result = result' ∨ ∃ (listing other : Listing) (e e' : DatabaseError),
      answer (listing.statement c) = .error e ∧ answer (other.statement c) = .error e' ∧
        result = .error (.source e) ∧ result' = .error (.source e') := by
  rcases mayEnd_reflect_iff.1 h with ⟨rows, hrows, h⟩ | ⟨listing, e, he, rfl⟩
  · rcases mayEnd_reflect_iff.1 h' with ⟨rows', hrows', h'⟩ | ⟨other, e', he', -⟩
    · obtain rfl : rows' = rows := funext fun listing =>
        Except.ok.inj ((hrows' listing).symm.trans (hrows listing))
      exact .inl (h.unique (Catalog.asksSingly_complete c rows') h')
    · cases he'.symm.trans (hrows other)
  · rcases mayEnd_reflect_iff.1 h' with ⟨rows', hrows', -⟩ | ⟨other, e', he', rfl⟩
    · cases he.symm.trans (hrows' listing)
    · exact .inr ⟨listing, other, e, e', he, he', rfl, rfl⟩

theorem eq_of_mayEnd_reflect (h : (Catalog.reflect c).run.MayEnd answer (.ok s))
    (h' : (Catalog.reflect c).run.MayEnd answer result) : result = .ok s := by
  rcases eq_or_failed_of_mayEnd_reflect h h' with heq | ⟨_, _, _, _, -, -, herror, -⟩
  · exact heq.symm
  · cases herror

end Pass

/-! ## Sessions over a repeatable database -/

/-- What the explorer keeps is what a pass may learn. -/
structure Explorer.Faithful (c : Configuration) (answer : Statement → Reply) (e : Explorer) : Prop where
  configuration : e.configuration = c
  schema : ∀ s, e.schema = some s → (Catalog.reflect c).run.MayEnd answer (.ok s)

section Faithful

variable {c : Configuration} {answer : Statement → Reply} {e e' : Explorer} {request : Request}
  {requests : List Request} {a b : Except Error Answer}

theorem Request.eq_or_failed_of_mayEnd (ha : (request.answerAfresh c).run.MayEnd answer a)
    (hb : (request.answerAfresh c).run.MayEnd answer b) :
    a = b ∨ ∃ (listing other : Listing) (fault fault' : DatabaseError),
      answer (listing.statement c) = .error fault ∧ answer (other.statement c) = .error fault' ∧
        a = .error (.source fault) ∧ b = .error (.source fault') := by
  rcases Inquiry.mayEnd_bind_iff.1 ha with ⟨s, hpass, ha⟩ | ⟨fault, hpass, rfl⟩
  · rcases Inquiry.mayEnd_bind_iff.1 hb with ⟨s', hpass', hb⟩ | ⟨fault', hpass', -⟩
    · obtain rfl := Except.ok.inj (eq_of_mayEnd_reflect hpass hpass')
      exact .inl (ha.unique (request.frugal_answerWith _).asksSingly hb)
    · cases eq_of_mayEnd_reflect hpass hpass'
  · rcases Inquiry.mayEnd_bind_iff.1 hb with ⟨s', hpass', -⟩ | ⟨fault', hpass', rfl⟩
    · cases eq_of_mayEnd_reflect hpass' hpass
    · rcases eq_or_failed_of_mayEnd_reflect hpass hpass' with heq | ⟨l, l', d, d', hl, hl', h, h'⟩
      · exact .inl (congrArg _ (Except.error.inj heq))
      · obtain rfl := Except.error.inj h
        obtain rfl := Except.error.inj h'
        exact .inr ⟨l, l', d, d', hl, hl', rfl, rfl⟩

namespace Explorer

theorem faithful_of_create (h : create c = .ok e) : Faithful c answer e := by
  rw [eq_of_create h]
  exact ⟨rfl, nofun⟩

/-- A request has an answer that it may have on its own, and the explorer stays faithful. -/
theorem Faithful.of_handle (h : Faithful c answer e)
    (hend : (e.handle request).MayEnd answer (a, e')) :
    (request.answerAfresh c).run.MayEnd answer a ∧ Faithful c answer e' := by
  obtain ⟨c', schema⟩ := e
  obtain rfl : c' = c := h.configuration
  rw [Request.answerAfresh, Inquiry.mayEnd_bind_iff]
  cases schema with
  | some s =>
    rw [handle_known, Program.mayEnd_map_iff] at hend
    obtain ⟨_, hanswer, heq⟩ := hend
    obtain ⟨rfl, rfl⟩ := Prod.mk.inj heq
    exact ⟨.inl ⟨s, h.schema s rfl, hanswer⟩, h⟩
  | none =>
    rw [handle_unknown, Program.mayEnd_bind_iff] at hend
    obtain ⟨fault | s, hpass, hend⟩ := hend
    · obtain ⟨rfl, rfl⟩ := Prod.mk.inj (Program.mayEnd_done_iff.1 hend)
      exact ⟨.inr ⟨fault, hpass, rfl⟩, h⟩
    · obtain ⟨_, hanswer, heq⟩ := Program.mayEnd_map_iff.1 hend
      obtain ⟨rfl, rfl⟩ := Prod.mk.inj heq
      refine ⟨.inl ⟨s, hpass, hanswer⟩, rfl, fun s' hs => ?_⟩
      rwa [← Option.some.inj hs]

theorem Faithful.exists_handle (h : Faithful c answer e)
    (hend : (request.answerAfresh c).run.MayEnd answer a) :
    ∃ e', (e.handle request).MayEnd answer (a, e') := by
  obtain ⟨c', schema⟩ := e
  obtain rfl : c' = c := h.configuration
  rw [Request.answerAfresh, Inquiry.mayEnd_bind_iff] at hend
  cases schema with
  | some s =>
    have hpass := h.schema s rfl
    rw [handle_known]
    rcases hend with ⟨s', hpass', hanswer⟩ | ⟨fault, hpass', -⟩
    · obtain rfl := Except.ok.inj (eq_of_mayEnd_reflect hpass hpass')
      exact ⟨_, Program.mayEnd_map_iff.2 ⟨a, hanswer, rfl⟩⟩
    · cases eq_of_mayEnd_reflect hpass hpass'
  | none =>
    rw [handle_unknown]
    simp only [Program.mayEnd_bind_iff]
    rcases hend with ⟨s, hpass, hanswer⟩ | ⟨fault, hpass, rfl⟩
    · exact ⟨_, .ok s, hpass, Program.mayEnd_map_iff.2 ⟨a, hanswer, rfl⟩⟩
    · exact ⟨_, .error fault, hpass, Program.mayEnd_done_iff.2 rfl⟩

/-- By induction on the requests: each finds a faithful explorer. -/
theorem Faithful.mayAnswer_iff (h : Faithful c answer e) (answers : List (Except Error Answer)) :
    e.MayAnswer answer requests answers ↔
      List.Forall₂ (fun request a => (request.answerAfresh c).run.MayEnd answer a) requests
        answers := by
  unfold MayAnswer
  induction requests generalizing e answers with
  | nil =>
    simp [handleAll, Program.mayEnd_done_iff, List.forall₂_nil_left_iff, eq_comm]
  | cons request requests ih =>
    simp only [handleAll, Program.mayEnd_bind_iff, Program.mayEnd_map_iff]
    constructor
    · rintro ⟨after, ⟨a, e'⟩, hfirst, ⟨answers, last⟩, hrest, heq⟩
      obtain ⟨rfl, rfl⟩ := Prod.mk.inj heq
      obtain ⟨hanswer, hkept⟩ := h.of_handle hfirst
      exact .cons hanswer ((ih hkept answers).1 ⟨_, hrest⟩)
    · intro hall
      obtain ⟨a, answers, hanswer, hrest, rfl⟩ := List.forall₂_cons_left_iff.1 hall
      obtain ⟨e', hfirst⟩ := h.exists_handle hanswer
      obtain ⟨after, hlast⟩ := (ih (h.of_handle hfirst).2 answers).2 hrest
      exact ⟨after, (a, e'), hfirst, (answers, after), hlast, rfl⟩

theorem Faithful.value_handle (h : Faithful c answer e) {σ : Type} {source : Source σ}
    (hsource : source.Answers answer) (request : Request) (state : σ) :
    ((e.handle request).run source state).value.1 =
      ((request.answerAfresh c).run.run source state).value := by
  obtain ⟨c', schema⟩ := e
  obtain rfl : c' = c := h.configuration
  have hpass : (Catalog.reflect c').run.MayEnd answer _ := Program.mayEnd_run hsource _ state
  rw [Request.answerAfresh, Inquiry.outcome_bind]
  cases schema with
  | some s =>
    -- The pass of a fresh explorer learns the schema that is kept.
    have hvalue := eq_of_mayEnd_reflect (h.schema s rfl) hpass
    simp only [handle_known, Program.run_map, hvalue]
    exact (Program.mayEnd_run hsource _ state).unique (request.frugal_answerWith s).asksSingly
      (Program.mayEnd_run hsource _ _)
  | none =>
    rw [handle_unknown, Program.run_bind]
    dsimp only
    cases ((Catalog.reflect c').run.run source state).value with
    | ok s => simp only [Program.run_map]
    | error fault => rfl

theorem Faithful.answer_turns {σ : Type} {source : Source σ} (hsource : source.Answers answer)
    (h : Faithful c answer e) (state : σ) :
    ∀ t ∈ e.turns source requests state,
      t.answer = ((t.request.answerAfresh c).run.run source t.start).value := by
  induction requests generalizing e state with
  | nil => exact fun t ht => absurd ht List.not_mem_nil
  | cons request requests ih =>
    have hkept := (h.of_handle (Program.mayEnd_run hsource (e.handle request) state)).2
    exact List.forall_mem_cons.2 ⟨h.value_handle hsource request state, ih hkept _⟩

/-- What a session may answer is what a new explorer may answer to each request on its own, that is
after a pass of its own; so the answers go with their requests into any other order. Something is always
answered, and two answers to one request differ only by which of the failures of the listings has arrived
first. In a run no answer differs: each request has the answer of a new explorer that finds the database as
this one does. -/
theorem session_transparent (hcreate : create c = .ok e) (answer : Statement → Reply)
    (requests : List Request) :
    (∀ answers, e.MayAnswer answer requests answers ↔
      List.Forall₂ (fun request a => e.MayAnswer answer [request] [a]) requests answers) ∧
    (∀ request a, e.MayAnswer answer [request] [a] ↔
      (request.answerAfresh c).run.MayEnd answer a) ∧
    (∀ turns turns' : List (Request × Except Error Answer), turns.Perm turns' →
      (e.MayAnswer answer (turns.map Prod.fst) (turns.map Prod.snd) ↔
        e.MayAnswer answer (turns'.map Prod.fst) (turns'.map Prod.snd))) ∧
    (∃ answers, e.MayAnswer answer requests answers) ∧
    (∀ request a b, e.MayAnswer answer [request] [a] → e.MayAnswer answer [request] [b] →
      a = b ∨ ∃ (listing other : Listing) (fault fault' : DatabaseError),
        answer (listing.statement c) = .error fault ∧ answer (other.statement c) = .error fault' ∧
          a = .error (.source fault) ∧ b = .error (.source fault')) ∧
    ∀ {σ : Type} (source : Source σ), source.Answers answer → ∀ state : σ,
      e.MayAnswer answer requests ((e.handleAll requests).run source state).value.1 ∧
      (e.turns source requests state).map Turn.request = requests ∧
      ((e.handleAll requests).run source state).value.1 =
        (e.turns source requests state).map Turn.answer ∧
      ∀ t ∈ e.turns source requests state,
        t.answer = ((e.handle t.request).run source t.start).value.1 ∧
          t.answer = ((t.request.answerAfresh c).run.run source t.start).value := by
  have hfaithful : Faithful c answer e := faithful_of_create hcreate
  have hone (request : Request) (a : Except Error Answer) :
      e.MayAnswer answer [request] [a] ↔ (request.answerAfresh c).run.MayEnd answer a := by
    rw [hfaithful.mayAnswer_iff]
    simp
  have hall (requests : List Request) (answers : List (Except Error Answer)) :
      e.MayAnswer answer requests answers ↔
        List.Forall₂ (fun request a => e.MayAnswer answer [request] [a]) requests answers := by
    simp only [hone]
    exact hfaithful.mayAnswer_iff answers
  refine ⟨hall requests, hone, fun turns turns' hperm => ?_, ?_, fun request a b ha hb => ?_,
    fun source hsource state => ⟨⟨_, Program.mayEnd_run hsource _ state⟩, ?_⟩⟩
  · rw [hall, hall, List.forall₂_map_left_iff, List.forall₂_map_right_iff, List.forall₂_same,
      List.forall₂_map_left_iff, List.forall₂_map_right_iff, List.forall₂_same]
    exact forall_congr' fun t => imp_congr_left hperm.mem_iff
  · obtain ⟨⟨answers, after⟩, h⟩ := Program.exists_mayEnd answer (e.handleAll requests)
    exact ⟨answers, after, h⟩
  · exact Request.eq_or_failed_of_mayEnd ((hone request a).1 ha) ((hone request b).1 hb)
  · obtain ⟨hrequests, hvalue, -⟩ := handleAll_of_turns e requests state
    refine ⟨hrequests, congrArg Prod.fst hvalue, fun t ht => ?_⟩
    have hafresh := hfaithful.answer_turns hsource state t ht
    exact ⟨hafresh.trans (hfaithful.value_handle hsource t.request t.start).symm, hafresh⟩

end Explorer

end Faithful

/-- A new explorer. -/
def Explorer.shopExplorer : Explorer where
  configuration := .mysql "root" "secret" "shop"
  schema := none

theorem Explorer.create_shop :
    create (.mysql "root" "secret" "shop") = .ok shopExplorer := by
  have hvalid : (Configuration.mysql "root" "secret" "shop").blank? = none := by decide +kernel
  rw [create, Configuration.validate, hvalid]
  rfl

/-- A database that is lost, and that denies the listing of the references. -/
def failingTwice (st : Statement) : Reply :=
  if st.params.length = 2 then .error (.query "denied") else .error (.query "lost")

theorem Explorer.session_transparent_failing :
    create (.mysql "root" "secret" "shop") = .ok shopExplorer ∧
      shopExplorer.MayAnswer failingTwice [.schema, .countReferences "users" "1", .schema]
        [.error (.source (.query "lost")), .error (.source (.query "denied")),
          .error (.source (.query "lost"))] := by
  obtain ⟨hall, hone, -⟩ := session_transparent create_shop failingTwice
    [.schema, .countReferences "users" "1", .schema]
  have hlost (request : Request) :
      shopExplorer.MayAnswer failingTwice [request] [.error (.source (.query "lost"))] :=
    (hone request _).2 (Inquiry.mayEnd_bind_iff.2
      (.inr ⟨_, mayEnd_reflect_iff.2 (.inr ⟨.tables, _, rfl, rfl⟩), rfl⟩))
  have hdenied (request : Request) :
      shopExplorer.MayAnswer failingTwice [request] [.error (.source (.query "denied"))] :=
    (hone request _).2 (Inquiry.mayEnd_bind_iff.2
      (.inr ⟨_, mayEnd_reflect_iff.2 (.inr ⟨.references, _, rfl, rfl⟩), rfl⟩))
  exact ⟨create_shop, (hall _).2 (.cons (hlost _) (.cons (hdenied _) (.cons (hlost _) .nil)))⟩

end TableAtlas
