import TableAtlas.Proofs.Database.Activity
import TableAtlas.Proofs.Explorer.Statements

/-!
# Passes

A pass asks the three listings together and goes on with their rows. It is all or nothing: `Ending` lists
the ways in which it can end, each with what it has sent and the replies that have come. A listing fails,
the listings describe no schema, or the row counts are not needed, cannot be asked for, fail, or come.
Every history of a pass ends so, in whatever order the replies come (`ending_of_reaches`).
-/

namespace TableAtlas.Catalog

open Program (Activity Underway Settled)
open Program.Activity (Reaches)

/-! ## The parts of a pass -/

namespace Listing

/-- What a pass sends for a listing; the names in it are always in order. -/
def statement (c : Configuration) (listing : Listing) : Statement :=
  ⟨(listing.select.lexemes .multiLine).text, listing.params c⟩

def all : List Listing :=
  [tables, columns, references]

/-- The statements of the three listings. -/
def statements (c : Configuration) : List Statement :=
  all.map (statement c)

/-- The three listings with the rows that answer them. -/
def answers (c : Configuration) (rows : Listing → List Row) : List (Statement × Reply) :=
  all.map fun listing => (listing.statement c, .ok (rows listing))

/-- Rows for each of the listings. -/
def pick (replies : List (List Row)) : Listing → List Row
  | tables => replies.getD 0 []
  | columns => replies.getD 1 []
  | references => replies.getD 2 []

theorem mem_statements_iff {c : Configuration} {st : Statement} :
    st ∈ statements c ↔ ∃ listing : Listing, listing.statement c = st := by
  rw [statements, List.mem_map]
  refine exists_congr fun listing => and_iff_right ?_
  cases listing <;> simp [all]

end Listing

theorem statement_listing (c : Configuration) (listing : Listing) :
    statement listing.select (listing.params c) = .ok (listing.statement c) := by
  refine statement_eq_ok_iff.2 ⟨?_, rfl⟩
  rw [Sql.Select.text_eq, Sql.written_eq_ok_iff]
  refine ⟨?_, rfl⟩
  cases listing with
  | tables => decide +kernel
  | columns => decide +kernel
  | references => decide +kernel

theorem Listing.not_isRowCount (c : Configuration) (listing : Listing) :
    ¬IsRowCount (listing.statement c) := by
  intro hcount
  obtain ⟨last, hlast, -, hquote⟩ := IsListing.last ⟨c, listing, statement_listing c listing⟩
  exact hquote (Option.some.inj (hlast.symm.trans hcount.last.1))

/-- What a pass makes of its listings. -/
def complete (c : Configuration) (rows : Listing → List Row) : Inquiry Schema := do
  let schema ← Inquiry.lift (buildSchema c (rows .tables) (rows .columns) (rows .references))
  countRows schema

theorem run_reflect (c : Configuration) :
    (reflect c).run = .ask (Listing.statements c) fun
      | .ok replies => (complete c (Listing.pick replies)).run
      | .error e => .done (.error (.source e)) := by
  have htables := statement_listing c .tables
  have hcolumns := statement_listing c .columns
  have hreferences := statement_listing c .references
  simp only [Listing.select, Listing.params] at htables hcolumns hreferences
  rw [reflect, htables, hcolumns, hreferences]
  exact Inquiry.run_fetchThree_bind _ _ _ _

/-! ## Row counts -/

theorem smallTables_eq_nil_iff {s : Schema} :
    smallTables s = [] ↔ ∀ t ∈ s.tables.values, ∃ n, t.size.rows = some n ∧ exactBelow ≤ n := by
  rw [smallTables, List.map_eq_nil_iff, List.filter_eq_nil_iff]
  refine forall₂_congr fun t _ => ?_
  cases hrows : t.size.rows with
  | none => simp [isSmall, hrows, exactBelow]
  | some n => simp [isSmall, hrows]

theorem names_rowCounts (tables : List String) : (rowCounts tables).names = tables := by
  have hentries : Sql.entryNames (rowCounts tables).entries = tables := by
    induction tables with
    | nil => rfl
    | cons table tables ih => exact congrArg (table :: ·) ih
  simpa [rowCounts, Sql.Select.names] using hentries

theorem exists_of_rowCounts_eq_error {tables : List String} {fault : Error}
    (h : statement (rowCounts tables) [] = .error fault) :
    ∃ table ∈ tables, ∃ e, Sql.member table = .error e ∧ fault = .compilation (.badName e) := by
  rw [statement, Sql.Select.text_eq, names_rowCounts, Sql.written] at h
  cases hnames : tables.findSome? Sql.nameError? with
  | none =>
    rw [hnames] at h
    cases h
  | some e =>
    rw [hnames] at h
    obtain ⟨table, htable, he⟩ := List.exists_of_findSome?_eq_some hnames
    refine ⟨table, htable, e, ?_, (Except.error.inj h).symm⟩
    rw [Sql.member_eq, Sql.written, List.findSome?_cons, he]

/-! ## Endings -/

/-- The schema that the listings describe has small tables, and the statement counts their rows. -/
structure Counting (c : Configuration) (rows : Listing → List Row) (s : Schema) (st : Statement) :
    Prop where
  built : buildSchema c (rows .tables) (rows .columns) (rows .references) = .ok s
  needed : smallTables s ≠ []
  counts : statement (rowCounts (smallTables s)) [] = .ok st

/-- How a pass ends whose listings are all answered, by what it has exchanged after them. -/
inductive Completion (c : Configuration) (rows : Listing → List Row) :
    List (Statement × Reply) → Except Error Schema → Prop
  | unbuilt {fault : Error}
    (h : buildSchema c (rows .tables) (rows .columns) (rows .references) = .error fault) :
    Completion c rows [] (.error fault)
  | uncounted {s : Schema}
    (hbuilt : buildSchema c (rows .tables) (rows .columns) (rows .references) = .ok s)
    (hlarge : ∀ t ∈ s.tables.values, ∃ n, t.size.rows = some n ∧ exactBelow ≤ n) :
    Completion c rows [] (.ok s)
  | unwritten {s : Schema} {table : String} {e : Sql.NameError}
    (hbuilt : buildSchema c (rows .tables) (rows .columns) (rows .references) = .ok s)
    (htable : table ∈ smallTables s) (hname : Sql.member table = .error e) :
    Completion c rows [] (.error (.compilation (.badName e)))
  | uncountable {s : Schema} {st : Statement} {e : DatabaseError} (h : Counting c rows s st) :
    Completion c rows [(st, .error e)] (.error (.source e))
  | empty {s : Schema} {st : Statement} (h : Counting c rows s st) :
    Completion c rows [(st, .ok [])] (.error (.source (.unexpectedRow .noRowCounts)))
  | counted {s : Schema} {st : Statement} {row : Row} {more : List Row} (h : Counting c rows s st) :
    Completion c rows [(st, .ok (row :: more))] (.ok (applyCounts s row))

/-- How a pass ends, by what it has sent and the replies that have come. -/
inductive Ending (c : Configuration) (sent : List Statement) (received : List (Statement × Reply)) :
    Except Error Schema → Prop
  /-- A listing has failed, and nothing but listings was sent. -/
  | unlisted (listing : Listing) {e : DatabaseError} (hsent : sent.Subperm (Listing.statements c))
    (hreceived : (listing.statement c, .error e) ∈ received) :
    Ending c sent received (.error (.source e))
  /-- All listings are answered, and so is what was sent after them. -/
  | listed (rows : Listing → List Row) {later : List (Statement × Reply)}
    {result : Except Error Schema} (hsent : sent.Perm (received.map Prod.fst))
    (hreceived : received.Perm (Listing.answers c rows ++ later))
    (h : Completion c rows later result) :
    Ending c sent received result

/-! ## Histories of a pass -/

section Histories

variable {c : Configuration} {sent : List Statement} {received : List (Statement × Reply)}
  {a b : Activity (Except Error Schema)} {rows : Listing → List Row}

theorem reaches_complete_cases (h : Reaches (complete c rows).run sent received a) :
    (∃ s st parts next, Counting c rows s st ∧ a = .asking parts next ∧
        Underway [st] parts sent received) ∨
      ∃ result, a = .done result ∧ sent = received.map Prod.fst ∧ Completion c rows received result := by
  unfold complete at h
  cases hbuilt : buildSchema c (rows .tables) (rows .columns) (rows .references) with
  | error fault =>
    rw [hbuilt] at h
    obtain ⟨rfl, rfl, rfl⟩ := h.of_done
    exact .inr ⟨_, rfl, rfl, .unbuilt hbuilt⟩
  | ok s =>
    rw [hbuilt, Inquiry.lift_ok_bind, countRows] at h
    split at h
    · rename_i hsmall
      obtain ⟨rfl, rfl, rfl⟩ := h.of_done
      exact .inr ⟨_, rfl, rfl, .uncounted hbuilt (smallTables_eq_nil_iff.1 hsmall)⟩
    · rename_i hsmall
      cases hcounts : statement (rowCounts (smallTables s)) [] with
      | error fault =>
        rw [hcounts] at h
        obtain ⟨rfl, rfl, rfl⟩ := h.of_done
        obtain ⟨table, htable, e, hname, rfl⟩ := exists_of_rowCounts_eq_error hcounts
        exact .inr ⟨_, rfl, rfl, .unwritten hbuilt htable hname⟩
      | ok st =>
        have hcounting : Counting c rows s st := ⟨hbuilt, hsmall, hcounts⟩
        rw [hcounts, Inquiry.lift_ok_bind] at h
        rcases Inquiry.reaches_fetchRows_bind_cases h with
          ⟨parts, next, rfl, hunderway⟩ | ⟨e, rfl, rfl, rfl⟩ | ⟨reply, sent', later, rfl, rfl, hlater⟩
        · exact .inl ⟨s, st, parts, next, hcounting, rfl, hunderway⟩
        · exact .inr ⟨_, rfl, rfl, .uncountable hcounting⟩
        · cases reply with
          | nil =>
            obtain ⟨rfl, rfl, rfl⟩ := hlater.of_done
            exact .inr ⟨_, rfl, rfl, .empty hcounting⟩
          | cons row more =>
            obtain ⟨rfl, rfl, rfl⟩ := hlater.of_done
            exact .inr ⟨_, rfl, rfl, .counted hcounting⟩

theorem zip_statements {replies : List (List Row)}
    (h : replies.length = (Listing.statements c).length) :
    (Listing.statements c).zip (replies.map .ok) = Listing.answers c (Listing.pick replies) := by
  obtain ⟨tableRows, columnRows, referenceRows, rfl⟩ := List.length_eq_three.1 h
  rfl

/-- A pass waits for a listing, or one of them has failed, or it has gone on with their rows. -/
theorem reaches_reflect_cases (h : Reaches (reflect c).run sent received a) :
    (∃ parts next, a = .asking parts next ∧ parts.map Program.Part.statement = Listing.statements c) ∨
      (∃ listing e, a = .done (.error (.source e)) ∧ sent.Subperm (Listing.statements c) ∧
        (Listing.statement c listing, .error e) ∈ received) ∨
      ∃ rows sent₁ sent₂ answered later, sent = sent₁ ++ sent₂ ∧ received = answered ++ later ∧
        sent₁.Perm (Listing.statements c) ∧ answered.Perm (Listing.answers c rows) ∧
        Reaches (complete c rows).run sent₂ later a := by
  rw [run_reflect] at h
  rcases h.of_ask with ⟨parts, rfl, hunderway⟩ |
    ⟨replies, sent₁, sent₂, received₁, later, rfl, rfl, hsettled, hlater⟩
  · exact .inl ⟨parts, _, rfl, hunderway.statements⟩
  cases hsettled with
  | @answered replies _ _ hlength hsent hreceived =>
    rw [zip_statements hlength] at hreceived
    exact .inr (.inr ⟨_, sent₁, sent₂, received₁, later, rfl, rfl, hsent, hreceived, hlater⟩)
  | @failed parts _ received st e hunderway hst =>
    obtain ⟨rfl, rfl, rfl⟩ := hlater.of_done
    have hmem : st ∈ Listing.statements c := by
      rw [← hunderway.statements]
      exact List.mem_map_of_mem hst
    obtain ⟨listing, rfl⟩ := Listing.mem_statements_iff.1 hmem
    refine .inr (.inl ⟨listing, e, rfl, ?_, by simp⟩)
    rw [List.append_nil]
    exact hunderway.sent_subperm

theorem ending_of_reaches {result : Except Error Schema}
    (h : Reaches (reflect c).run sent received (.done result)) : Ending c sent received result := by
  rcases reaches_reflect_cases h with ⟨parts, next, hasking, -⟩ | ⟨listing, e, hdone, hsent, herror⟩ |
    ⟨rows, sent₁, sent₂, answered, later, rfl, rfl, hsent, hanswered, hlater⟩
  · cases hasking
  · obtain rfl := Activity.done.inj hdone
    exact .unlisted listing hsent herror
  · rcases reaches_complete_cases hlater with ⟨s, st, parts, next, -, hasking, -⟩ |
      ⟨result', hdone, rfl, hend⟩
    · cases hasking
    · obtain rfl := Activity.done.inj hdone
      have hlistings : sent₁.Perm (answered.map Prod.fst) :=
        hsent.trans (hanswered.map Prod.fst).symm
      refine .listed rows ?_ (hanswered.append_right later) hend
      rw [List.map_append]
      exact hlistings.append_right _

theorem answered_of_reaches {s : Schema} (h : Reaches (reflect c).run sent received (.done (.ok s))) :
    sent.Perm (received.map Prod.fst) := by
  cases ending_of_reaches h with
  | listed rows hsent => exact hsent

/-- A pass asks for row counts only once its listings are answered and describe a schema. -/
theorem counting_of_reaches {st : Statement} (h : Reaches (reflect c).run sent received a)
    (hmove : a.Moves (.sent st) b) (hst : IsRowCount st) :
    ∃ rows s, received.Perm (Listing.answers c rows) ∧ Counting c rows s st := by
  rcases reaches_reflect_cases h with ⟨parts, next, rfl, hstatements⟩ | ⟨listing, e, rfl, -, -⟩ |
    ⟨rows, sent₁, sent₂, answered, later, rfl, rfl, -, hanswered, hlater⟩
  · cases hmove with
    | send before after st hparts =>
      have hmem : st ∈ Listing.statements c := by
        rw [← hstatements, hparts]
        simp [Program.Part.statement]
      obtain ⟨listing, rfl⟩ := Listing.mem_statements_iff.1 hmem
      exact absurd hst (listing.not_isRowCount c)
  · cases hmove
  · rcases reaches_complete_cases hlater with ⟨s, st', parts, next, hcounting, rfl, hunderway⟩ |
      ⟨result, rfl, -, -⟩
    · cases hmove with
      | send before after st hparts =>
        -- The statement is not sent yet, so nothing has come since the listings.
        have hunsent : .unsent st ∈ parts := hparts ▸ List.mem_append_right _ List.mem_cons_self
        rcases hunderway.of_singleton with ⟨rfl, -, rfl⟩ | ⟨rfl, -, -⟩ | ⟨rows, rfl, -, -⟩
        · obtain rfl : st = st' := by simpa using hunsent
          rw [List.append_nil]
          exact ⟨rows, s, hanswered, hcounting⟩
        · simp at hunsent
        · simp at hunsent
    · cases hmove

end Histories

end TableAtlas.Catalog
