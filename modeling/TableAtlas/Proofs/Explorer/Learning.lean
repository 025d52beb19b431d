import TableAtlas.Proofs.Catalog.WellFormed
import TableAtlas.Proofs.Explorer.Session
import TableAtlas.Proofs.Explorer.Statements

/-!
# How an explorer learns

A session over any database, whose replies may change and fail at any time. Until a pass succeeds,
every request starts one and leaves the explorer as it was if the pass fails. The first pass that
succeeds is the last one: what it has learned is kept, and from then on nothing is sent but the
statements of the requests themselves (`session_learns_once`).
-/

namespace TableAtlas

open Program (Source Outcome)

/-! ## Turns of a session -/

namespace Turn

variable {σ : Type} (c : Configuration) (source : Source σ)

/-- What a pass at the start of the turn comes to. -/
def pass (t : Turn σ) : Outcome σ (Except Error Schema) :=
  (Catalog.reflect c).run.run source t.start

/-- What answering comes to, with a schema and from a state of the database. -/
def answering (t : Turn σ) (s : Schema) (state : σ) : Outcome σ (Except Error Answer) :=
  (t.request.answerWith s).run.run source state

/-- A turn that learns nothing: the pass that it starts with fails, its error is the answer, and its
statements are all that is sent. -/
structure Failed (t : Turn σ) : Prop where
  before : t.before = ⟨c, none⟩
  after : t.after = ⟨c, none⟩
  answer : ∃ fault, (t.pass c source).value = .error fault ∧ t.answer = .error fault
  sent : t.sent = (t.pass c source).sent
  noRequest : ∀ st ∈ t.sent, ¬st.OfRequest

/-- A turn that learns the schema from its pass, and then answers its request. -/
structure Learned (s : Schema) (t : Turn σ) : Prop where
  before : t.before = ⟨c, none⟩
  after : t.after = ⟨c, some s⟩
  pass : (t.pass c source).value = .ok s
  answer : t.answer = (t.answering source s (t.pass c source).state).value
  sent : t.sent = (t.pass c source).sent ++ (t.answering source s (t.pass c source).state).sent
  noRequest : ∀ st ∈ (t.pass c source).sent, ¬st.OfRequest
  frugal : (t.answering source s (t.pass c source).state).Frugal

/-- A turn that knows the schema. -/
structure Known (s : Schema) (t : Turn σ) : Prop where
  before : t.before = ⟨c, some s⟩
  after : t.after = ⟨c, some s⟩
  answer : t.answer = (t.answering source s t.start).value
  sent : t.sent = (t.answering source s t.start).sent
  frugal : (t.answering source s t.start).Frugal

end Turn

/-! ## One request -/

namespace Explorer

variable {σ : Type} {c : Configuration} {source : Source σ} {state : σ}

theorem handle_of_failed {fault : Error} (request : Request)
    (h : ((Catalog.reflect c).run.run source state).value = .error fault) :
    (handle ⟨c, none⟩ request).run source state =
      let pass := (Catalog.reflect c).run.run source state
      ⟨(.error fault, ⟨c, none⟩), pass.sent, pass.state⟩ := by
  rw [handle_unknown]
  exact Program.run_bind_of_done h rfl

theorem handle_of_learned {s : Schema} (request : Request)
    (h : ((Catalog.reflect c).run.run source state).value = .ok s) :
    (handle ⟨c, none⟩ request).run source state =
      let pass := (Catalog.reflect c).run.run source state
      let answering := (request.answerWith s).run.run source pass.state
      ⟨(answering.value, ⟨c, some s⟩), pass.sent ++ answering.sent, answering.state⟩ := by
  rw [handle_unknown, Program.run_bind_of_value h]
  simp only [Program.run_map]

theorem handle_of_known (s : Schema) (request : Request) :
    (handle ⟨c, some s⟩ request).run source state =
      let answering := (request.answerWith s).run.run source state
      ⟨(answering.value, ⟨c, some s⟩), answering.sent, answering.state⟩ := by
  rw [handle_known, Program.run_map]

end Explorer

namespace Turn

variable {σ : Type} {c : Configuration} {source : Source σ} {t : Turn σ}

theorem noRequest_of_pass : ∀ st ∈ (t.pass c source).sent, ¬st.OfRequest := by
  intro st hst hrequest
  rw [pass] at hst
  exact hrequest.not_ofCatalog ((Catalog.asksOnly_reflect c).of_mem_sent source t.start st hst)

theorem frugal_answering (s : Schema) (state : σ) : (t.answering source s state).Frugal :=
  (t.request.frugal_answerWith s).outcome source state

/-- The outcome of a turn is that of its request. -/
def Genuine (source : Source σ) (t : Turn σ) : Prop :=
  t.outcome = (t.before.handle t.request).run source t.start

theorem Genuine.failed_or_learned (h : t.Genuine source) (hbefore : t.before = ⟨c, none⟩) :
    t.Failed c source ∨ ∃ s, t.Learned c source s := by
  rw [Genuine, hbefore] at h
  cases hvalue : (t.pass c source).value with
  | error fault =>
    left
    have hpass := hvalue
    rw [pass] at hpass
    rw [Explorer.handle_of_failed t.request hpass] at h
    have hsent : t.sent = (t.pass c source).sent := by simp only [sent, h, pass]
    exact {
      before := hbefore
      after := by simp only [after, h]
      answer := ⟨fault, hvalue, by simp only [answer, h]⟩
      sent := hsent
      noRequest := hsent ▸ noRequest_of_pass }
  | ok s =>
    right
    have hpass := hvalue
    rw [pass] at hpass
    rw [Explorer.handle_of_learned t.request hpass] at h
    exact ⟨s, {
      before := hbefore
      after := by simp only [after, h]
      pass := hvalue
      answer := by simp only [answer, h, answering, pass]
      sent := by simp only [sent, h, answering, pass]
      noRequest := noRequest_of_pass
      frugal := frugal_answering s _ }⟩

theorem Genuine.known {s : Schema} (h : t.Genuine source) (hbefore : t.before = ⟨c, some s⟩) :
    t.Known c source s := by
  rw [Genuine, hbefore, Explorer.handle_of_known] at h
  exact {
    before := hbefore
    after := by simp only [after, h]
    answer := by simp only [answer, h, answering]
    sent := by simp only [sent, h, answering]
    frugal := frugal_answering s _ }

end Turn

/-! ## A whole session -/

namespace Explorer

variable {σ : Type} {c : Configuration} {source : Source σ}

theorem known_of_mem_turns (s : Schema) (requests : List Request) (state : σ) :
    ∀ t ∈ turns source ⟨c, some s⟩ requests state, t.Known c source s := by
  induction requests generalizing state with
  | nil =>
    intro t ht
    exact absurd ht List.not_mem_nil
  | cons request requests ih =>
    let first : Turn σ :=
      ⟨request, ⟨c, some s⟩, state, (handle ⟨c, some s⟩ request).run source state⟩
    have hfirst : first.Known c source s := Turn.Genuine.known rfl rfl
    intro t ht
    rcases List.mem_cons.1 ht with rfl | hlater
    · exact hfirst
    · have hafter : first.outcome.value.2 = ⟨c, some s⟩ := hfirst.after
      rw [hafter] at hlater
      exact ih _ t hlater

/-- Until a pass succeeds, every turn fails. -/
theorem turns_split (requests : List Request) (state : σ) :
    ∃ failed rest, turns source ⟨c, none⟩ requests state = failed ++ rest ∧
      (∀ t ∈ failed, t.Failed c source) ∧
      (rest = [] ∨ ∃ s first later, rest = first :: later ∧ first.Learned c source s ∧
        ∀ t ∈ later, t.Known c source s) := by
  induction requests generalizing state with
  | nil => exact ⟨[], [], rfl, fun t ht => absurd ht List.not_mem_nil, .inl rfl⟩
  | cons request requests ih =>
    let first : Turn σ := ⟨request, ⟨c, none⟩, state, (handle ⟨c, none⟩ request).run source state⟩
    have hgenuine : first.Genuine source := rfl
    have hturns : turns source ⟨c, none⟩ (request :: requests) state =
      first :: turns source first.after requests first.outcome.state := rfl
    rw [hturns]
    rcases hgenuine.failed_or_learned rfl with hfailed | ⟨s, hlearned⟩
    · obtain ⟨failed, rest, hsplit, hall, hrest⟩ := ih first.outcome.state
      rw [hfailed.after, hsplit]
      exact ⟨first :: failed, rest, rfl, List.forall_mem_cons.2 ⟨hfailed, hall⟩, hrest⟩
    · rw [hlearned.after]
      exact ⟨[], _, rfl, fun t ht => absurd ht List.not_mem_nil,
        .inr ⟨s, first, _, rfl, hlearned, known_of_mem_turns s requests _⟩⟩

/-- A session of a new explorer over a database that may answer as it likes. At first every turn makes
a pass that fails; it answers with the error of the pass, leaves the explorer empty and sends nothing
for its request. Once a pass succeeds, its schema is kept, and all later turns answer from it: they
send no statement of a pass, one statement at most, and none if the request is refused. -/
theorem session_learns_once {e : Explorer} (hcreate : create c = .ok e) (source : Source σ)
    (requests : List Request) (state : σ) :
    let turns := e.turns source requests state
    let session := (e.handleAll requests).run source state
    turns.map Turn.request = requests ∧
      session.value = (turns.map Turn.answer, (turns.getLast?.map Turn.after).getD e) ∧
      session.sent = turns.flatMap Turn.sent ∧
      ∃ failed rest, turns = failed ++ rest ∧ (∀ t ∈ failed, t.Failed c source) ∧
        (rest = [] ∨ ∃ s first later, rest = first :: later ∧ first.Learned c source s ∧
          ∀ t ∈ later, t.Known c source s) := by
  obtain rfl := eq_of_create hcreate
  obtain ⟨hrequests, hvalue, hsent⟩ := handleAll_of_turns ⟨c, none⟩ requests state
  exact ⟨hrequests, hvalue, hsent, turns_split requests state⟩

/-- What a database replies that fails at first, and then lets a pass learn. -/
def hesitantReplies : List Reply :=
  .error (.query "lost connection") :: Catalog.itemReplies

def hesitantRequests : List Request :=
  [.schema, .select { table := "items", columns := some ["number"] }, .countReferences "users" "1",
    .schema]

theorem session_learns_once_hesitant :
    create (.mysql "root" "secret" "shop") = .ok shopExplorer ∧
      let turns := shopExplorer.turns Program.replay hesitantRequests hesitantReplies
      turns.map (fun t => (t.answer.toBool, t.sent.length)) =
          [(false, 1), (true, 5), (false, 0), (true, 0)] ∧
        ∃ failed rest, turns = failed ++ rest ∧
          (∀ t ∈ failed, t.Failed (.mysql "root" "secret" "shop") Program.replay) ∧
          (rest = [] ∨ ∃ s first later, rest = first :: later ∧
            first.Learned (.mysql "root" "secret" "shop") Program.replay s ∧
            ∀ t ∈ later, t.Known (.mysql "root" "secret" "shop") Program.replay s) := by
  refine ⟨create_shop, by decide +kernel, ?_⟩
  exact (session_learns_once create_shop Program.replay hesitantRequests hesitantReplies).2.2.2

end Explorer

end TableAtlas
