import TableAtlas.Proofs.Explorer.Calls

/-!
# Passes of concurrent calls

The cell tells how many passes are under way and how many have succeeded. A step changes it in one of
three ways, `Effect`: a pass starts on an empty cell, empties it when it fails, and fills it when it
succeeds. From this it follows that passes exclude each other (`Run.exclusive`).
-/

namespace TableAtlas

/-! ## The effect of a step -/

/-- The call makes a pass. -/
def Stage.IsPass : Stage → Prop
  | passing _ => True
  | queued | answering _ _ | answered _ => False

def World.IsPassing (w : World) (caller : Nat) : Prop :=
  ∃ call, w.calls caller = some call ∧ call.stage.IsPass

namespace Cell

/-- The passes under way. -/
def pending : Cell → Nat
  | taken _ => 1
  | empty | filled _ => 0

/-- The passes that have filled the cell. -/
def full : Cell → Nat
  | filled _ => 1
  | empty | taken _ => 0

end Cell

/-- What a step of a call does to the cell. -/
inductive Effect (caller : Nat) (cell : Cell) (stage : Stage) (what : Happening) (cell' : Cell)
    (stage' : Stage) : Prop
  | starts (hwhat : what = .started) (hcell : cell = .empty) (hcell' : cell' = .taken caller)
    (hpass : stage'.IsPass)
  | fails {fault : Error} (hwhat : what = .failed fault) (hcell' : cell' = .empty)
    (hpass : stage.IsPass) (hover : ¬stage'.IsPass)
  | succeeds {s : Schema} (hwhat : what = .learned s) (hcell' : cell' = .filled s)
    (hpass : stage.IsPass) (hover : ¬stage'.IsPass)
  | keeps (hcell' : cell' = cell) (hpass : stage'.IsPass ↔ stage.IsPass)
    (hmark : Event.mark? ⟨caller, what⟩ = none)
    (hschema : ∀ s, Event.schema? ⟨caller, what⟩ = some s → cell = .filled s)

theorem CallStep.effect {c : Configuration} {caller : Nat} {request : Request} {cell cell' : Cell}
    {stage stage' : Stage} {what : Happening}
    (h : CallStep c caller request cell stage what cell' stage') :
    Effect caller cell stage what cell' stage' := by
  cases h with
  | start => exact .starts rfl rfl rfl trivial
  | pass h => exact .keeps rfl .rfl rfl nofun
  | fail => exact .fails rfl rfl trivial id
  | learn s => exact .succeeds rfl rfl trivial id
  | take => exact .keeps rfl .rfl rfl fun s hs => congrArg Cell.filled (Option.some.inj hs)
  | answer h => exact .keeps rfl .rfl rfl nofun
  | finish => exact .keeps rfl .rfl rfl nofun

/-! ## The invariant -/

/-- What the cell tells of the passes so far. -/
structure Exclusive (events : List Event) (w : World) : Prop where
  passing : ∀ caller, w.IsPassing caller ↔ w.cell = .taken caller
  started : passes .started events = passes .failed events + passes .learned events + w.cell.pending
  learned : passes .learned events = w.cell.full
  schema : ∀ e ∈ events, ∀ s, e.schema? = some s → w.cell = .filled s

namespace Exclusive

variable {events : List Event} {w : World} {caller : Nat} {request : Request} {stage stage' : Stage}
  {what : Happening} {cell' : Cell}

theorem isPassing_update {call : Call} {other : Nat} :
    World.IsPassing ⟨cell', Function.update w.calls caller (some call)⟩ other ↔
      if other = caller then call.stage.IsPass else w.IsPassing other := by
  by_cases hother : other = caller
  · subst hother
    simp [World.IsPassing]
  · simp [World.IsPassing, hother]

theorem passing_update (h : Exclusive events w) (hcell : w.cell = .empty ∨ w.cell = .taken caller)
    (hpass : stage'.IsPass ↔ cell' = .taken caller) (hcell' : ∀ other ≠ caller, cell' ≠ .taken other)
    (other : Nat) :
    World.IsPassing ⟨cell', Function.update w.calls caller (some ⟨request, stage'⟩)⟩ other ↔
      cell' = .taken other := by
  rw [isPassing_update]
  by_cases hother : other = caller
  · subst hother
    rwa [if_pos rfl]
  · have hbefore : ¬w.IsPassing other := by
      rw [h.passing]
      rcases hcell with hcell | hcell
      · simp [hcell]
      · simp [hcell, Ne.symm hother]
    rw [if_neg hother]
    exact iff_of_false hbefore (hcell' other hother)

theorem schema_append (h : Exclusive events w) {event : Event} {cell : Cell}
    (hcell : ∀ s, w.cell = .filled s → cell = .filled s)
    (hevent : ∀ s, event.schema? = some s → cell = .filled s) :
    ∀ e ∈ events ++ [event], ∀ s, e.schema? = some s → cell = .filled s := by
  intro e he s hs
  rcases List.mem_append.1 he with he | he
  · exact hcell s (h.schema e he s hs)
  · obtain rfl := List.mem_singleton.1 he
    exact hevent s hs

theorem cell_of_pass (h : Exclusive events w) (hcall : w.calls caller = some ⟨request, stage⟩)
    (hpass : stage.IsPass) : w.cell = .taken caller :=
  (h.passing caller).1 ⟨_, hcall, hpass⟩

theorem keep (h : Exclusive events w) (hpass : stage'.IsPass ↔ w.IsPassing caller)
    (hmark : Event.mark? ⟨caller, what⟩ = none)
    (hschema : ∀ s, Event.schema? ⟨caller, what⟩ = some s → w.cell = .filled s) :
    Exclusive (events ++ [⟨caller, what⟩])
      ⟨w.cell, Function.update w.calls caller (some ⟨request, stage'⟩)⟩ where
  passing other := by
    rw [isPassing_update, ← h.passing]
    by_cases hother : other = caller
    · rwa [if_pos hother, hother]
    · rw [if_neg hother]
  started := by simp [passes_append_singleton, hmark, h.started]
  learned := by simp [passes_append_singleton, hmark, h.learned]
  schema := h.schema_append (fun _ => id) hschema

theorem advance (h : Exclusive events w) (hcall : w.calls caller = some ⟨request, stage⟩)
    (heffect : Effect caller w.cell stage what cell' stage') :
    Exclusive (events ++ [⟨caller, what⟩])
      ⟨cell', Function.update w.calls caller (some ⟨request, stage'⟩)⟩ := by
  have hpassing := h.cell_of_pass hcall
  have hstarted := h.started
  have hlearned := h.learned
  cases heffect with
  | starts hwhat hcell hcell' hpass =>
    subst hwhat hcell'
    rw [hcell] at hstarted hlearned
    exact {
      passing := h.passing_update (.inl hcell) (by simp [hpass]) fun other hother => by
        simp [Ne.symm hother]
      started := by simp [passes_append_singleton, Event.mark?, hstarted, Cell.pending]
      learned := by simp [passes_append_singleton, Event.mark?, hlearned, Cell.full]
      schema := h.schema_append (by simp [hcell]) nofun }
  | fails hwhat hcell' hpass hover =>
    subst hwhat hcell'
    have hcell := hpassing hpass
    rw [hcell] at hstarted hlearned
    exact {
      passing := h.passing_update (.inr hcell) (by simp [hover]) (by simp)
      started := by
        simp [passes_append_singleton, Event.mark?, hstarted, Cell.pending]
        omega
      learned := by simp [passes_append_singleton, Event.mark?, hlearned, Cell.full]
      schema := h.schema_append (by simp [hcell]) nofun }
  | @succeeds s hwhat hcell' hpass hover =>
    subst hwhat hcell'
    have hcell := hpassing hpass
    rw [hcell] at hstarted hlearned
    exact {
      passing := h.passing_update (.inr hcell) (by simp [hover]) (by simp)
      started := by
        simp [passes_append_singleton, Event.mark?, hstarted, Cell.pending]
        omega
      learned := by simp [passes_append_singleton, Event.mark?, hlearned, Cell.full]
      schema := h.schema_append (by simp [hcell]) fun s' hs' =>
        congrArg Cell.filled (Option.some.inj hs') }
  | keeps hcell' hpass hmark hschema =>
    subst hcell'
    have hbefore : w.IsPassing caller ↔ stage.IsPass := by simp [World.IsPassing, hcall]
    exact h.keep (hpass.trans hbefore.symm) hmark hschema

end Exclusive

theorem Run.exclusive {c : Configuration} {events : List Event} {w : World} (h : Run c events w) :
    Exclusive events w := by
  induction h with
  | start => exact ⟨by simp [World.IsPassing, World.initial], rfl, rfl, by simp⟩
  | step h hstep ih =>
    cases hstep with
    | call caller request hnone =>
      exact ih.keep (by simp [Stage.IsPass, World.IsPassing, hnone]) rfl nofun
    | advance caller hcall hstep => exact ih.advance hcall hstep.effect

theorem Effect.filled {caller : Nat} {request : Request} {events : List Event} {w : World}
    {stage stage' : Stage} {what : Happening} {cell' : Cell} {s : Schema}
    (h : Effect caller w.cell stage what cell' stage') (hexclusive : Exclusive events w)
    (hcall : w.calls caller = some ⟨request, stage⟩) (hcell : w.cell = .filled s) :
    cell' = .filled s := by
  have hpassing : ¬stage.IsPass := fun hpass => by
    have htaken := hexclusive.cell_of_pass hcall hpass
    rw [hcell] at htaken
    cases htaken
  cases h with
  | starts hwhat hempty hcell' hpass =>
    rw [hcell] at hempty
    cases hempty
  | fails hwhat hcell' hpass hover => exact absurd hpass hpassing
  | succeeds hwhat hcell' hpass hover => exact absurd hpass hpassing
  | keeps hcell' hpass hmark hschema => exact hcell'.trans hcell

end TableAtlas
