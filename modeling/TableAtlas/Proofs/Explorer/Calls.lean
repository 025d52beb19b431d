import Mathlib.Logic.Function.Basic
import TableAtlas.Explorer
import TableAtlas.Proofs.Database.Activity

/-!
# Concurrent calls

Any number of calls share one explorer. The schema lives in a cell that is filled once: a call that
finds it empty takes it and makes the pass, and the others queue until the cell is filled or empty
again. What a call sends is what its programs ask for, and the replies to all statements come in any
order. `Step` is what may happen next, and `Run` is a history with the world it leads to.
-/

namespace TableAtlas

open Program (Activity Signal)

/-! ## Calls -/

/-- How far a call has come. -/
inductive Stage
  /-- It has no schema and makes no pass. -/
  | queued
  | passing (activity : Activity (Except Error Schema))
  /-- It has got the schema. -/
  | answering (s : Schema) (activity : Activity (Except Error Answer))
  | answered (answer : Except Error Answer)

structure Call where
  request : Request
  stage : Stage

/-- Where the schema is kept. -/
inductive Cell
  | empty
  /-- The caller makes a pass. -/
  | taken (caller : Nat)
  | filled (s : Schema)

structure World where
  cell : Cell
  calls : Nat → Option Call

/-- Nobody has called yet. -/
def World.initial : World :=
  ⟨.empty, fun _ => none⟩

/-- What can happen to a call. -/
inductive Happening
  | called (request : Request)
  | started
  | signal (signal : Signal)
  | failed (fault : Error)
  | learned (s : Schema)
  /-- The schema is taken from the cell. -/
  | given (s : Schema)
  | ended (answer : Except Error Answer)

structure Event where
  caller : Nat
  what : Happening

/-! ## Steps -/

/-- A step of the call `caller`, with the cell before and after it. -/
inductive CallStep (c : Configuration) (caller : Nat) (request : Request) :
    Cell → Stage → Happening → Cell → Stage → Prop
  | start : CallStep c caller request .empty .queued .started (.taken caller)
      (.passing (Catalog.reflect c).run.start)
  | pass {cell : Cell} {a b : Activity (Except Error Schema)} {signal : Signal}
      (h : a.Moves signal b) :
      CallStep c caller request cell (.passing a) (.signal signal) cell (.passing b)
  | fail {cell : Cell} {fault : Error} :
      CallStep c caller request cell (.passing (.done (.error fault))) (.failed fault) .empty
        (.answered (.error fault))
  | learn {cell : Cell} (s : Schema) :
      CallStep c caller request cell (.passing (.done (.ok s))) (.learned s) (.filled s)
        (.answering s (request.answerWith s).run.start)
  | take {s : Schema} :
      CallStep c caller request (.filled s) .queued (.given s) (.filled s)
        (.answering s (request.answerWith s).run.start)
  | answer {cell : Cell} {s : Schema} {a b : Activity (Except Error Answer)} {signal : Signal}
      (h : a.Moves signal b) :
      CallStep c caller request cell (.answering s a) (.signal signal) cell (.answering s b)
  | finish {cell : Cell} {s : Schema} {answer : Except Error Answer} :
      CallStep c caller request cell (.answering s (.done answer)) (.ended answer) cell
        (.answered answer)

/-- A new call comes in, or one of the calls makes a step. -/
inductive Step (c : Configuration) : World → Event → World → Prop
  | call {w : World} (caller : Nat) (request : Request) (h : w.calls caller = none) :
    Step c w ⟨caller, .called request⟩
      ⟨w.cell, Function.update w.calls caller (some ⟨request, .queued⟩)⟩
  | advance {w : World} (caller : Nat) {request : Request} {stage stage' : Stage}
    {what : Happening} {cell' : Cell} (h : w.calls caller = some ⟨request, stage⟩)
    (hstep : CallStep c caller request w.cell stage what cell' stage') :
    Step c w ⟨caller, what⟩ ⟨cell', Function.update w.calls caller (some ⟨request, stage'⟩)⟩

/-- The events so far, and the world they have led to. -/
inductive Run (c : Configuration) : List Event → World → Prop
  | start : Run c [] .initial
  | step {events : List Event} {w w' : World} {event : Event} (h : Run c events w)
    (hstep : Step c w event w') : Run c (events ++ [event]) w'

theorem Run.exists_step {c : Configuration} {events : List Event} {w : World} (h : Run c events w)
    {earlier later : List Event} {event : Event} (hevents : events = earlier ++ event :: later) :
    ∃ before after, Run c earlier before ∧ Step c before event after := by
  induction h generalizing later with
  | start => simp at hevents
  | step h hstep ih =>
    rcases List.eq_nil_or_concat later with rfl | ⟨later', last, rfl⟩
    · obtain ⟨rfl, hlast⟩ := List.append_inj' hevents rfl
      obtain rfl := List.singleton_inj.1 hlast
      exact ⟨_, _, h, hstep⟩
    · rw [List.concat_eq_append, ← List.cons_append, ← List.append_assoc] at hevents
      exact ih (List.append_inj' hevents rfl).1

/-! ## What events tell -/

namespace Event

/-- The statement that is sent. -/
def sent? (e : Event) : Option Statement :=
  match e.what with
  | .signal signal => signal.sent?
  | _ => none

/-- The exchange that is over. -/
def received? (e : Event) : Option (Statement × Reply) :=
  match e.what with
  | .signal signal => signal.received?
  | _ => none

/-- The schema that the caller gets. -/
def schema? (e : Event) : Option Schema :=
  match e.what with
  | .learned s | .given s => some s
  | _ => none

/-- How a pass begins or ends. -/
inductive Mark
  | started
  | failed
  | learned
  deriving DecidableEq, Repr

def mark? (e : Event) : Option Mark :=
  match e.what with
  | .started => some .started
  | .failed _ => some .failed
  | .learned _ => some .learned
  | _ => none

end Event

/-- The number of passes that have begun or ended in a way. -/
def passes (mark : Event.Mark) (events : List Event) : Nat :=
  events.countP fun e => e.mark? = some mark

/-- What a caller has sent, in the order of the events. -/
def sentBy (caller : Nat) (events : List Event) : List Statement :=
  (events.filter (·.caller = caller)).filterMap Event.sent?

def receivedBy (caller : Nat) (events : List Event) : List (Statement × Reply) :=
  (events.filter (·.caller = caller)).filterMap Event.received?

section Observations

variable {events : List Event} {event : Event} {caller : Nat}

theorem passes_append_singleton (mark : Event.Mark) :
    passes mark (events ++ [event]) =
      passes mark events + if event.mark? = some mark then 1 else 0 := by
  rw [passes, List.countP_append, List.countP_singleton]
  simp only [passes, decide_eq_true_eq]

theorem sentBy_append_self :
    sentBy event.caller (events ++ [event]) = sentBy event.caller events ++ event.sent?.toList := by
  cases hsent : event.sent? with
  | none => simp [sentBy, hsent]
  | some st => simp [sentBy, hsent]

theorem sentBy_append_other (h : event.caller ≠ caller) :
    sentBy caller (events ++ [event]) = sentBy caller events := by
  simp [sentBy, h]

theorem receivedBy_append_self :
    receivedBy event.caller (events ++ [event]) =
      receivedBy event.caller events ++ event.received?.toList := by
  cases hreceived : event.received? with
  | none => simp [receivedBy, hreceived]
  | some exchange => simp [receivedBy, hreceived]

theorem receivedBy_append_other (h : event.caller ≠ caller) :
    receivedBy caller (events ++ [event]) = receivedBy caller events := by
  simp [receivedBy, h]

end Observations

end TableAtlas
