import TableAtlas.Proofs.Explorer.Passes
import TableAtlas.Proofs.Explorer.Session

/-!
# The statements of concurrent calls

What a call has sent and received is what an explorer asks that has the schema, or does not have it, at the
point where the call got it: a pass of `reflect` for one that had to make it, and the request
(`Run.accounted`). So a call that is answered has an answer that an explorer gives which answers one
request at a time (`Run.answer_of_handle`).
-/

namespace TableAtlas

open Program (Activity Signal)
open Program.Activity (Reaches)

/-! ## A call -/

/-- What a call has sent and received agrees with how far it has come, and what schema it has with the
cell. -/
def Stage.Accounts (c : Configuration) (cell : Cell) (request : Request) (sent : List Statement)
    (received : List (Statement × Reply)) : Stage → Prop
  | .queued => sent = [] ∧ received = []
  | .passing activity => Reaches (Catalog.reflect c).run sent received activity
  | .answering s activity => cell = .filled s ∧
      (∃ sent' received', Reaches (request.answerWith s).run sent' received' activity) ∧
      ∃ known, (∀ s, known = some s → cell = .filled s) ∧
        Reaches (Explorer.handle ⟨c, known⟩ request) sent received
          (activity.bind fun answer => .done (answer, ⟨c, some s⟩))
  | .answered answer => ∃ known after, (∀ s, known = some s → cell = .filled s) ∧
      Reaches (Explorer.handle ⟨c, known⟩ request) sent received (.done (answer, after))

theorem Stage.Accounts.mono {c : Configuration} {cell cell' : Cell} {request : Request}
    {sent : List Statement} {received : List (Statement × Reply)} {stage : Stage}
    (h : stage.Accounts c cell request sent received)
    (hcell : ∀ s, cell = .filled s → cell' = .filled s) :
    stage.Accounts c cell' request sent received := by
  cases stage with
  | queued => exact h
  | passing activity => exact h
  | answering s activity =>
    obtain ⟨hfilled, hanswering, known, hknown, hreaches⟩ := h
    exact ⟨hcell s hfilled, hanswering, known, fun s hs => hcell s (hknown s hs), hreaches⟩
  | answered answer =>
    obtain ⟨known, after, hknown, hreaches⟩ := h
    exact ⟨known, after, fun s hs => hcell s (hknown s hs), hreaches⟩

section Accounts

variable {c : Configuration} {caller : Nat} {request : Request} {cell cell' : Cell}
  {stage stage' : Stage} {what : Happening} {sent : List Statement}
  {received : List (Statement × Reply)}

theorem reaches_handle_of_failed {fault : Error} (request : Request)
    (h : Reaches (Catalog.reflect c).run sent received (.done (.error fault))) :
    Reaches (Explorer.handle ⟨c, none⟩ request) sent received (.done (.error fault, ⟨c, none⟩)) := by
  rw [Explorer.handle_unknown]
  exact h.bind _

theorem reaches_handle_of_learned {s : Schema} (request : Request)
    (h : Reaches (Catalog.reflect c).run sent received (.done (.ok s))) :
    Reaches (Explorer.handle ⟨c, none⟩ request) sent received
      ((request.answerWith s).run.start.bind fun answer => .done (answer, ⟨c, some s⟩)) := by
  rw [Explorer.handle_unknown, ← Activity.start_bind]
  exact h.bind _

theorem CallStep.accounts (h : CallStep c caller request cell stage what cell' stage')
    (hstage : stage.Accounts c cell request sent received) :
    stage'.Accounts c cell' request (sent ++ (Event.sent? ⟨caller, what⟩).toList)
      (received ++ (Event.received? ⟨caller, what⟩).toList) := by
  cases h with
  | start =>
    obtain ⟨rfl, rfl⟩ := hstage
    exact .start
  | pass h => exact hstage.move h
  | fail =>
    simp only [Event.sent?, Event.received?, Option.toList_none, List.append_nil]
    exact ⟨none, _, nofun, reaches_handle_of_failed request hstage⟩
  | learn s =>
    simp only [Event.sent?, Event.received?, Option.toList_none, List.append_nil]
    exact ⟨rfl, ⟨[], [], .start⟩, none, nofun, reaches_handle_of_learned request hstage⟩
  | @take s =>
    obtain ⟨rfl, rfl⟩ := hstage
    refine ⟨rfl, ⟨[], [], .start⟩, some s, fun s' hs => congrArg _ (Option.some.inj hs), ?_⟩
    rw [Explorer.handle_known, Program.map, ← Activity.start_bind]
    exact .start
  | answer h =>
    obtain ⟨hcell, ⟨sent', received', hanswering⟩, known, hknown, hreaches⟩ := hstage
    exact ⟨hcell, ⟨_, _, hanswering.move h⟩, known, hknown, hreaches.move (h.bind _)⟩
  | @finish _ s answer =>
    obtain ⟨-, -, known, hknown, hreaches⟩ := hstage
    simp only [Event.sent?, Event.received?, Option.toList_none, List.append_nil]
    exact ⟨known, _, hknown, hreaches⟩

end Accounts

/-! ## All calls -/

/-- The calls of a world agree with the events that have led to it. -/
structure Accounted (c : Configuration) (events : List Event) (w : World) : Prop where
  absent : ∀ caller, w.calls caller = none →
    sentBy caller events = [] ∧ receivedBy caller events = []
  present : ∀ caller request stage, w.calls caller = some ⟨request, stage⟩ →
    stage.Accounts c w.cell request (sentBy caller events) (receivedBy caller events)

theorem Accounted.update {c : Configuration} {events : List Event} {w : World}
    (h : Accounted c events w) (event : Event) {request : Request} {stage : Stage} {cell : Cell}
    (hstage : stage.Accounts c cell request (sentBy event.caller events ++ event.sent?.toList)
      (receivedBy event.caller events ++ event.received?.toList))
    (hcell : ∀ s, w.cell = .filled s → cell = .filled s) :
    Accounted c (events ++ [event])
      ⟨cell, Function.update w.calls event.caller (some ⟨request, stage⟩)⟩ := by
  refine ⟨fun other hother => ?_, fun other request' stage' hother => ?_⟩
  · by_cases hsame : event.caller = other
    · subst hsame
      simp at hother
    · rw [sentBy_append_other hsame, receivedBy_append_other hsame]
      exact h.absent other (by simpa [Ne.symm hsame] using hother)
  · by_cases hsame : event.caller = other
    · subst hsame
      obtain ⟨rfl, rfl⟩ : request = request' ∧ stage = stage' := by simpa using hother
      rwa [sentBy_append_self, receivedBy_append_self]
    · rw [sentBy_append_other hsame, receivedBy_append_other hsame]
      exact (h.present other request' stage' (by simpa [Ne.symm hsame] using hother)).mono hcell

theorem Run.accounted {c : Configuration} {events : List Event} {w : World} (h : Run c events w) :
    Accounted c events w := by
  induction h with
  | start =>
    refine ⟨fun _ _ => ⟨rfl, rfl⟩, fun caller request stage hcall => ?_⟩
    simp [World.initial] at hcall
  | step h hstep ih =>
    cases hstep with
    | call caller request hnone =>
      obtain ⟨hsent, hreceived⟩ := ih.absent caller hnone
      refine ih.update ⟨caller, .called request⟩ ?_ fun _ => id
      exact ⟨by simp [hsent, Event.sent?], by simp [hreceived, Event.received?]⟩
    | advance caller hcall hstep =>
      exact ih.update ⟨caller, _⟩ (hstep.accounts (ih.present _ _ _ hcall)) fun s =>
        hstep.effect.filled h.exclusive hcall

/-- An answered call has sent, received and answered what an explorer of its own might have: one that
knows nothing, or one that knows the schema of the cell. -/
theorem Run.answer_of_handle {c : Configuration} {events : List Event} {w : World}
    (h : Run c events w) {caller : Nat} {request : Request} {answer : Except Error Answer}
    (hcall : w.calls caller = some ⟨request, .answered answer⟩) :
    ∃ known after, (∀ s, known = some s → w.cell = .filled s) ∧
      Reaches (Explorer.handle ⟨c, known⟩ request) (sentBy caller events) (receivedBy caller events)
        (.done (answer, after)) :=
  h.accounted.present caller request _ hcall

end TableAtlas
