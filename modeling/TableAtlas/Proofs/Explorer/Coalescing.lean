import TableAtlas.Proofs.Catalog.WellFormed
import TableAtlas.Proofs.Explorer.Accounts

/-!
# First accesses coalesce

However many calls come in before the schema is known, one pass learns it for all of them. Up to the
event that it is learned no statement of a request has been sent, and from then on no statement of a
pass is (`Run.ordered`); with the exclusion of passes this is `first_accesses_coalesce`.
-/

namespace TableAtlas

open Program (Activity Signal)
open Program.Activity (Reaches)
open Catalog (Listing)

/-! ## Before and after the schema is learned -/

/-- A pass sends statements of a pass, and a call with the schema those of its request. -/
theorem CallStep.sent_cases {c : Configuration} {caller : Nat} {request : Request}
    {cell cell' : Cell} {stage stage' : Stage} {what : Happening} {sent : List Statement}
    {received : List (Statement × Reply)} {st : Statement}
    (h : CallStep c caller request cell stage what cell' stage')
    (hstage : stage.Accounts c cell request sent received)
    (hsent : Event.sent? ⟨caller, what⟩ = some st) :
    stage.IsPass ∧ st.OfCatalog ∨ (∃ s, cell = .filled s) ∧ st.OfRequest := by
  cases h with
  | @pass _ a b signal h =>
    cases signal with
    | sent st' =>
      obtain rfl : st' = st := Option.some.inj hsent
      exact .inl ⟨trivial, hstage.sent_of_asksOnly (Catalog.asksOnly_reflect c) h⟩
    | received st' reply => cases hsent
  | @answer _ s a b signal h =>
    obtain ⟨hcell, ⟨sent', received', hanswering⟩, -⟩ := hstage
    cases signal with
    | sent st' =>
      obtain rfl : st' = st := Option.some.inj hsent
      exact .inr ⟨⟨s, hcell⟩,
        hanswering.sent_of_asksOnly (request.frugal_answerWith s).asksOnly h⟩
    | received st' reply => cases hsent
  | _ => cases hsent

/-- The events of a history before and after a call has learned the schema. -/
structure Turning (c : Configuration) (earlier : List Event) (caller : Nat) (s : Schema)
    (later : List Event) : Prop where
  /-- What the call has sent and received makes a pass that ends with the schema. -/
  pass : Reaches (Catalog.reflect c).run (sentBy caller earlier) (receivedBy caller earlier)
    (.done (.ok s))
  /-- All that it has sent is answered. -/
  answered : (sentBy caller earlier).Perm ((receivedBy caller earlier).map Prod.fst)
  noRequest : ∀ e ∈ earlier, ∀ st, e.sent? = some st → ¬st.OfRequest
  noCatalog : ∀ e ∈ later, ∀ st, e.sent? = some st → ¬st.OfCatalog

/-- What has been sent so far, by the state of the cell. -/
structure Ordered (c : Configuration) (events : List Event) (w : World) : Prop where
  unfilled : (∀ s, w.cell ≠ .filled s) → ∀ e ∈ events, ∀ st, e.sent? = some st → ¬st.OfRequest
  filled : ∀ s, w.cell = .filled s → ∃ earlier caller later,
    events = earlier ++ ⟨caller, .learned s⟩ :: later ∧ Turning c earlier caller s later

section Ordered

variable {c : Configuration} {events : List Event} {w w' : World} {caller : Nat} {request : Request}
  {stage stage' : Stage} {what : Happening} {cell' : Cell}

theorem Ordered.unfilled_step (h : Ordered c events w) {event : Event} (hsilent : event.sent? = none)
    (hbefore : ∀ s, w.cell ≠ .filled s) (hafter : ∀ s, w'.cell ≠ .filled s) :
    Ordered c (events ++ [event]) w' := by
  refine ⟨fun _ e he st hst => ?_, fun s hcell => absurd hcell (hafter s)⟩
  rcases List.mem_append.1 he with he | he
  · exact h.unfilled hbefore e he st hst
  · obtain rfl := List.mem_singleton.1 he
    rw [hsilent] at hst
    cases hst

theorem Ordered.keep (h : Ordered c events w) {event : Event} (hcell : w'.cell = w.cell)
    (hunfilled : (∀ s, w.cell ≠ .filled s) → ∀ st, event.sent? = some st → ¬st.OfRequest)
    (hfilled : ∀ s, w.cell = .filled s → ∀ st, event.sent? = some st → ¬st.OfCatalog) :
    Ordered c (events ++ [event]) w' := by
  refine ⟨fun hnot e he st hst => ?_, fun s hs => ?_⟩
  · rw [hcell] at hnot
    rcases List.mem_append.1 he with he | he
    · exact h.unfilled hnot e he st hst
    · obtain rfl := List.mem_singleton.1 he
      exact hunfilled hnot st hst
  · rw [hcell] at hs
    obtain ⟨earlier, learner, later, rfl, hturning⟩ := h.filled s hs
    refine ⟨earlier, learner, later ++ [event], by simp, hturning.pass, hturning.answered,
      hturning.noRequest, fun e he st hst => ?_⟩
    rcases List.mem_append.1 he with he | he
    · exact hturning.noCatalog e he st hst
    · obtain rfl := List.mem_singleton.1 he
      exact hfilled s hs st hst

theorem CallStep.pass_of_learned {cell : Cell} {s : Schema} {sent : List Statement}
    {received : List (Statement × Reply)}
    (h : CallStep c caller request cell stage (.learned s) cell' stage')
    (hstage : stage.Accounts c cell request sent received) :
    Reaches (Catalog.reflect c).run sent received (.done (.ok s)) := by
  cases h
  exact hstage

theorem Ordered.advance (h : Ordered c events w) (hexclusive : Exclusive events w)
    (haccounted : Accounted c events w) (hcall : w.calls caller = some ⟨request, stage⟩)
    (hstep : CallStep c caller request w.cell stage what cell' stage') :
    Ordered c (events ++ [⟨caller, what⟩])
      ⟨cell', Function.update w.calls caller (some ⟨request, stage'⟩)⟩ := by
  have hstage := haccounted.present caller request stage hcall
  have hpassing := hexclusive.cell_of_pass hcall
  cases hstep.effect with
  | starts hwhat hcell hcell' hpass =>
    subst hwhat hcell'
    exact h.unfilled_step rfl (by simp [hcell]) (by simp)
  | fails hwhat hcell' hpass hover =>
    subst hwhat hcell'
    exact h.unfilled_step rfl (by simp [hpassing hpass]) (by simp)
  | @succeeds s hwhat hcell' hpass hover =>
    subst hwhat hcell'
    refine ⟨fun hnot => absurd rfl (hnot s), fun s' hs' => ?_⟩
    obtain rfl := Cell.filled.inj hs'
    have hlearned := hstep.pass_of_learned hstage
    exact ⟨events, caller, [], rfl, hlearned, Catalog.answered_of_reaches hlearned,
      h.unfilled (by simp [hpassing hpass]), by simp⟩
  | keeps hcell' hpass hmark hschema =>
    refine h.keep hcell' (fun hnot st hst hrequest => ?_) fun s hcell st hst hcatalog => ?_
    · rcases hstep.sent_cases hstage hst with ⟨-, hcatalog⟩ | ⟨⟨s, hcell⟩, -⟩
      · exact hrequest.not_ofCatalog hcatalog
      · exact hnot s hcell
    · rcases hstep.sent_cases hstage hst with ⟨hpass, -⟩ | ⟨-, hrequest⟩
      · rw [hpassing hpass] at hcell
        cases hcell
      · exact hrequest.not_ofCatalog hcatalog

theorem Run.ordered (h : Run c events w) : Ordered c events w := by
  induction h with
  | start => exact ⟨fun _ e he => absurd he List.not_mem_nil, nofun⟩
  | step h hstep ih =>
    cases hstep with
    | call caller request hnone => exact ih.keep rfl (fun _ _ h => nomatch h) fun _ _ _ h => nomatch h
    | advance caller hcall hstep => exact ih.advance h.exclusive h.accounted hcall hstep

end Ordered

/-- Calls that share an explorer, as many as they are, share one pass as well. At any time one call at
most makes a pass, and no other pass starts before it fails; one pass of the whole history succeeds at
most, and every call that gets a schema gets the one it has learned. No statement of a request is sent
before that pass is over, its row counts included, and no statement of a pass is sent after it. -/
theorem first_accesses_coalesce {c : Configuration} {events : List Event} {w : World}
    (h : Run c events w) :
    (∀ caller other, w.IsPassing caller → w.IsPassing other → caller = other) ∧
      passes .learned events ≤ 1 ∧ passes .started events ≤ passes .failed events + 1 ∧
      (∀ e ∈ events, ∀ e' ∈ events, ∀ s s', e.schema? = some s → e'.schema? = some s' → s = s') ∧
      ∀ before e after st, events = before ++ e :: after → e.sent? = some st → st.OfRequest →
        ∃ earlier caller s later, before = earlier ++ ⟨caller, .learned s⟩ :: later ∧
          Turning c earlier caller s (later ++ e :: after) := by
  obtain ⟨hpassing, hstarted, hlearned, hschema⟩ := h.exclusive
  have hcell : w.cell.full + w.cell.pending ≤ 1 := by cases w.cell <;> simp [Cell.full, Cell.pending]
  refine ⟨fun caller other hcaller hother => ?_, by omega, by omega,
    fun e he e' he' s s' hs hs' => ?_, fun before e after st hevents hsent hrequest => ?_⟩
  · rw [hpassing] at hcaller hother
    exact Cell.taken.inj (hcaller.symm.trans hother)
  · exact Cell.filled.inj ((hschema e he s hs).symm.trans (hschema e' he' s' hs'))
  · have he : e ∈ events := by simp [hevents]
    obtain ⟨s, hfilled⟩ : ∃ s, w.cell = .filled s := by
      by_contra hnot
      exact h.ordered.unfilled (not_exists.1 hnot) e he st hsent hrequest
    obtain ⟨earlier, caller, later, hsplit, hturning⟩ := h.ordered.filled s hfilled
    rw [hevents, List.append_eq_append_iff] at hsplit
    rcases hsplit with ⟨between, rfl, hrest⟩ | ⟨between, rfl, hrest⟩
    · -- The statement would have been sent before the schema was learned, or as it was.
      rcases List.cons_eq_append_iff.1 hrest with ⟨rfl, hrest⟩ | ⟨later', rfl, -⟩
      · obtain rfl := (List.cons.inj hrest).1
        cases hsent
      · exact absurd hrequest (hturning.noRequest e (by simp) st hsent)
    · rcases List.cons_eq_append_iff.1 hrest with ⟨rfl, hrest⟩ | ⟨later', rfl, hlater⟩
      · obtain rfl := (List.cons.inj hrest).1
        cases hsent
      · exact ⟨earlier, caller, s, later', rfl, hlater ▸ hturning⟩

/-! ## A pass that fails and another that succeeds -/

namespace Run

def itemConfiguration : Configuration :=
  .mysql "root" "secret" "shop"

def itemRows : Listing → List Row :=
  Listing.pick [Catalog.itemTables, Catalog.itemColumns, Catalog.itemReferences]

def itemCounts : Row :=
  Catalog.textRow [("items", "7")]

def itemCounting : Statement :=
  (Catalog.statement (Catalog.rowCounts ["items"]) []).toOption.getD default

/-- The schema that is learned. -/
def countedItemSchema : Schema :=
  Catalog.applyCounts Catalog.itemSchema itemCounts

def itemQuery : Query where
  table := "items"
  columns := some ["number"]

def itemSelecting : Statement :=
  (Plan.select countedItemSchema itemQuery).toOption.getD default

theorem counting_items :
    Catalog.statement (Catalog.rowCounts ["items"]) [] = .ok itemCounting :=
  eq_ok_getD_of_isSome (by decide +kernel)

theorem complete_items :
    Catalog.complete itemConfiguration itemRows =
      Inquiry.fetchRows itemCounting >>= fun
        | row :: _ => pure (Catalog.applyCounts Catalog.itemSchema row)
        | [] => throw (.source (.unexpectedRow .noRowCounts)) := by
  have hbuilt : Catalog.buildSchema itemConfiguration (itemRows .tables) (itemRows .columns)
      (itemRows .references) = .ok Catalog.itemSchema := eq_ok_getD_of_isSome (by decide +kernel)
  have hsmall : Catalog.smallTables Catalog.itemSchema = ["items"] := by decide +kernel
  rw [Catalog.complete, hbuilt, Inquiry.lift_ok_bind, Catalog.countRows, hsmall]
  dsimp only
  rw [counting_items]
  exact Inquiry.lift_ok_bind itemCounting _

theorem start_complete_items :
    (Catalog.complete itemConfiguration itemRows).run.start = .asking [.unsent itemCounting] fun
      | .ok rows => (match rows.headD [] with
        | row :: _ => pure (Catalog.applyCounts Catalog.itemSchema row)
        | [] => throw (.source (.unexpectedRow .noRowCounts)) : Inquiry Schema).run
      | .error e => .done (.error (.source e)) := by
  rw [complete_items, Inquiry.run_fetchRows_bind]
  rfl

theorem select_items : Plan.select countedItemSchema itemQuery = .ok itemSelecting :=
  eq_ok_getD_of_isSome (by decide +kernel)

theorem answer_items : (Request.select itemQuery).answerWith countedItemSchema =
    Inquiry.fetchRows itemSelecting >>= fun rows => pure (.selection (.ofRows rows)) := by
  rw [Request.answerWith, selectRows, select_items, Inquiry.lift_ok_bind, bind_assoc]
  exact congrArg (Inquiry.fetchRows itemSelecting >>= ·) (funext fun rows => pure_bind _ _)

/-- Three calls: the pass of the first fails, and the second makes another that both others share. -/
theorem first_accesses_coalesce_items : ∃ events w, Run itemConfiguration events w ∧
    passes .started events = 2 ∧ passes .failed events = 1 ∧ passes .learned events = 1 ∧
    ∃ before e after, events = before ++ e :: after ∧ e.sent? = some itemSelecting ∧
      itemSelecting.OfRequest ∧
      ∃ earlier caller s later, before = earlier ++ ⟨caller, .learned s⟩ :: later ∧
        Turning itemConfiguration earlier caller s (later ++ e :: after) := by
  have h : Run itemConfiguration [] .initial := .start
  have h := h.step (.call 0 .schema rfl)
  have h := h.step (.call 1 (.select itemQuery) rfl)
  -- The pass of the first call fails with the columns, before the references are sent.
  have h := h.step (.advance 0 rfl .start)
  rw [Catalog.run_reflect] at h
  have h := h.step (.advance 0 rfl (.pass (.send [] _ _ rfl)))
  have h := h.step (.advance 0 rfl (.pass (.send [_] _ _ rfl)))
  have h := h.step (.advance 0 rfl (.pass (.fail (Listing.columns.statement _) (.query "lost")
    (.tail _ (.head _)))))
  have h := h.step (.advance 0 rfl .fail)
  -- The second call makes another one; the replies come in another order.
  have h := h.step (.advance 1 rfl .start)
  rw [Catalog.run_reflect] at h
  have h := h.step (.advance 1 rfl (.pass (.send [] _ _ rfl)))
  have h := h.step (.advance 1 rfl (.pass (.send [_] _ _ rfl)))
  have h := h.step (.advance 1 rfl (.pass (.send [_, _] _ _ rfl)))
  have h := h.step (.advance 1 rfl (.pass (.receive [_, _] _ _ (itemRows .references) rfl)))
  have h := h.step (.advance 1 rfl (.pass (.receive [] _ _ (itemRows .tables) rfl)))
  have h := h.step (.advance 1 rfl (.pass (.receive [_] _ _ (itemRows .columns) rfl)))
  have hlisted := congrArg (fun a => some (Call.mk (.select itemQuery) (.passing a)))
    start_complete_items
  have h := h.step (.advance 1 hlisted (.pass (.send [] _ _ rfl)))
  have h := h.step (.call 2 .schema rfl)
  have h := h.step (.advance 1 rfl (.pass (.receive [] _ _ [itemCounts] rfl)))
  have h := h.step (.advance 1 rfl (.learn countedItemSchema))
  -- Both calls go on with the schema.
  rw [answer_items, Inquiry.run_fetchRows_bind] at h
  have h := h.step (.advance 2 rfl .take)
  have h := h.step (.advance 2 rfl .finish)
  have h := h.step (.advance 1 rfl (.answer (.send [] _ _ rfl)))
  have hrequest : itemSelecting.OfRequest := .inl ⟨_, _, select_items⟩
  have hcoalesce := first_accesses_coalesce h
  exact ⟨_, _, h, rfl, rfl, rfl, _, _, [], rfl, rfl, hrequest,
    hcoalesce.2.2.2.2 _ _ [] _ rfl rfl hrequest⟩

end Run

end TableAtlas
