import TableAtlas.Proofs.Explorer.Coalescing

/-!
# How passes end

Every pass ends in one of the ways of `Catalog.Ending`, whether it is run alone, over any database in any
state, or is one of those of concurrent calls (`reflection_all_or_nothing`).
-/

namespace TableAtlas

open Catalog (Listing Ending Counting)

/-- The result of the pass that ends. -/
def Event.ending? (e : Event) : Option (Except Error Schema) :=
  match e.what with
  | .failed fault => some (.error fault)
  | .learned s => some (.ok s)
  | _ => none

section CallStep

variable {c : Configuration} {caller : Nat} {request : Request} {cell cell' : Cell}
  {stage stage' : Stage} {what : Happening} {sent : List Statement}
  {received : List (Statement × Reply)}

theorem CallStep.ending {result : Except Error Schema}
    (h : CallStep c caller request cell stage what cell' stage')
    (hstage : stage.Accounts c cell request sent received)
    (hresult : Event.ending? ⟨caller, what⟩ = some result) : Ending c sent received result := by
  cases h with
  | fail =>
    obtain rfl := Option.some.inj hresult
    exact Catalog.ending_of_reaches hstage
  | learn s =>
    obtain rfl := Option.some.inj hresult
    exact Catalog.ending_of_reaches hstage
  | _ => cases hresult

theorem CallStep.counting {st : Statement}
    (h : CallStep c caller request cell stage what cell' stage')
    (hstage : stage.Accounts c cell request sent received)
    (hsent : Event.sent? ⟨caller, what⟩ = some st) (hst : Catalog.IsRowCount st) :
    ∃ rows s, received.Perm (Listing.answers c rows) ∧ Counting c rows s st := by
  rcases h.sent_cases hstage hsent with ⟨hpass, -⟩ | ⟨-, hrequest⟩
  · cases h with
    | @pass _ a b signal h =>
      cases signal with
      | sent st' =>
        obtain rfl : st' = st := Option.some.inj hsent
        exact Catalog.counting_of_reaches hstage h hst
      | received st' reply => cases hsent
    | answer h => cases hpass
    | _ => cases hsent
  · exact absurd (.inr hst) hrequest.not_ofCatalog

end CallStep

/-- Learning the schema is all or nothing. A pass that is run alone, over any database in any state,
ends in one of the ways of `Ending`: with a schema only if all listings are answered, they describe
one, and the rows of its small tables are counted if it has any; and otherwise with the error of what
has failed. Every pass of concurrent calls ends so as well, whatever the order of the replies, and none
of them asks for row counts before its listings are answered and describe a schema. -/
theorem reflection_all_or_nothing (c : Configuration) :
    (∀ (σ : Type) (source : Program.Source σ) (state : σ),
      Ending c ((Catalog.reflect c).run.run source state).sent
        ((Catalog.reflect c).run.exchanged source state)
        ((Catalog.reflect c).run.run source state).value) ∧
    ∀ events w, Run c events w →
      (∀ earlier event later result, events = earlier ++ event :: later →
        event.ending? = some result →
        Ending c (sentBy event.caller earlier) (receivedBy event.caller earlier) result) ∧
      ∀ earlier event later st, events = earlier ++ event :: later → event.sent? = some st →
        Catalog.IsRowCount st →
        ∃ rows s, (receivedBy event.caller earlier).Perm (Listing.answers c rows) ∧
          Counting c rows s st := by
  refine ⟨fun σ source state => ?_, fun events w h => ⟨?_, ?_⟩⟩
  · exact Catalog.ending_of_reaches (Program.reaches_run source _ state)
  · intro earlier event later result hevents hresult
    obtain ⟨before, after, hrun, hstep⟩ := h.exists_step hevents
    cases hstep with
    | call caller request hnone => cases hresult
    | advance caller hcall hstep =>
      exact hstep.ending (hrun.accounted.present caller _ _ hcall) hresult
  · intro earlier event later st hevents hsent hst
    obtain ⟨before, after, hrun, hstep⟩ := h.exists_step hevents
    cases hstep with
    | call caller request hnone => cases hsent
    | advance caller hcall hstep =>
      exact hstep.counting (hrun.accounted.present caller _ _ hcall) hsent hst

namespace Run

theorem reflection_all_or_nothing_items : Catalog.IsRowCount itemCounting ∧
    (∃ earlier w, Run itemConfiguration (earlier ++ [⟨0, .signal (.sent itemCounting)⟩]) w ∧
      ∃ rows s, (receivedBy 0 earlier).Perm (Listing.answers itemConfiguration rows) ∧
        Counting itemConfiguration rows s itemCounting) ∧
    ∃ earlier w, Run itemConfiguration (earlier ++ [⟨0, .learned countedItemSchema⟩]) w ∧
      Ending itemConfiguration (sentBy 0 earlier) (receivedBy 0 earlier)
        (.ok countedItemSchema) := by
  have hcount : Catalog.IsRowCount itemCounting := ⟨_, List.cons_ne_nil _ _, counting_items⟩
  have hpasses := (reflection_all_or_nothing itemConfiguration).2
  have h : Run itemConfiguration [] .initial := .start
  have h := h.step (.call 0 .schema rfl)
  have h := h.step (.advance 0 rfl .start)
  rw [Catalog.run_reflect] at h
  have h := h.step (.advance 0 rfl (.pass (.send [] _ _ rfl)))
  have h := h.step (.advance 0 rfl (.pass (.send [_] _ _ rfl)))
  have h := h.step (.advance 0 rfl (.pass (.receive [_] _ _ (itemRows .columns) rfl)))
  have h := h.step (.advance 0 rfl (.pass (.send [_, _] _ _ rfl)))
  have h := h.step (.advance 0 rfl (.pass (.receive [_, _] _ _ (itemRows .references) rfl)))
  have h := h.step (.advance 0 rfl (.pass (.receive [] _ _ (itemRows .tables) rfl)))
  have hlisted := congrArg (fun a => some (Call.mk .schema (.passing a))) start_complete_items
  have h := h.step (.advance 0 hlisted (.pass (.send [] _ _ rfl)))
  have hcounting := (hpasses _ _ h).2 _ _ [] _ rfl rfl hcount
  refine ⟨hcount, ⟨_, _, h, hcounting⟩, ?_⟩
  have h := h.step (.advance 0 rfl (.pass (.receive [] _ _ [itemCounts] rfl)))
  have h := h.step (.advance 0 rfl (.learn countedItemSchema))
  exact ⟨_, _, h, (hpasses _ _ h).1 _ _ [] _ rfl rfl⟩

end Run

end TableAtlas
