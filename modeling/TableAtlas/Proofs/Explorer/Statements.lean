import TableAtlas.Explorer
import TableAtlas.Proofs.Database.Outcome
import TableAtlas.Proofs.Plan.Text

/-!
# The statements of an explorer

An explorer sends statements of four kinds: a pass lists the catalog and counts rows, and a request
selects rows or counts references. No statement is of a pass and of a request, which its last
character and its parameters tell. Once the schema is known, a request sends one statement at most,
and none if it is refused.
-/

namespace TableAtlas

open Sql (Select Entry backtick)

/-! ## Statements of a pass -/

namespace Catalog

/-- The listings that a pass starts with. -/
inductive Listing
  | tables
  | columns
  | references
  deriving DecidableEq, Repr

namespace Listing

def select : Listing → Select
  | tables => Catalog.tables
  | columns => Catalog.columns
  | references => Catalog.references

def params (c : Configuration) : Listing → List String
  | tables => [c.database]
  | columns => [c.database]
  | references => [c.database, c.database]

end Listing

def IsListing (st : Statement) : Prop :=
  ∃ c, ∃ listing : Listing, statement listing.select (listing.params c) = .ok st

def IsRowCount (st : Statement) : Prop :=
  ∃ tables, tables ≠ [] ∧ statement (rowCounts tables) [] = .ok st

theorem statement_eq_ok_iff {select : Select} {params : List String} {st : Statement} :
    statement select params = .ok st ↔ select.text .multiLine = .ok st.sql ∧ st.params = params := by
  obtain ⟨sql, params'⟩ := st
  simp only [statement, bind_eq_ok_iff, pure_eq_ok_iff, liftName_eq_ok_iff, Statement.mk.injEq]
  constructor
  · rintro ⟨sql', hsql, rfl, rfl⟩
    exact ⟨hsql, rfl⟩
  · rintro ⟨hsql, rfl⟩
    exact ⟨sql, hsql, rfl, rfl⟩

end Catalog

/-! ## Statements of a request -/

namespace Plan

def IsSelect (st : Statement) : Prop :=
  ∃ s q, select s q = .ok st

def IsReferenceCount (st : Statement) : Prop :=
  ∃ s table rowId, referenceCount s table rowId = .ok (some st)

theorem referenceCount_eq_ok_some_iff {s : Schema} {table rowId : String} {st : Statement} :
    referenceCount s table rowId = .ok (some st) ↔
      ∃ t, s.table? table = some t ∧ t.referencedBy ≠ [] ∧
        Select.text .multiLine { entries := t.referencedBy.map countEntry } = .ok st.sql ∧
        st.params = t.referencedBy.map fun _ => rowId := by
  unfold referenceCount
  cases s.table? table with
  | none => simp [throw_ne_ok]
  | some t =>
    obtain ⟨sql, params⟩ := st
    simp only [Option.some.injEq, exists_eq_left']
    cases t.referencedBy with
    | nil => simp [pure_eq_ok_iff]
    | cons r references =>
      simp only [bind_eq_ok_iff, pure_eq_ok_iff, liftName_eq_ok_iff, Option.some.injEq,
        Statement.mk.injEq]
      constructor
      · rintro ⟨sql', hsql, rfl, rfl⟩
        exact ⟨List.cons_ne_nil _ _, hsql, rfl⟩
      · rintro ⟨-, hsql, rfl⟩
        exact ⟨sql, hsql, rfl, rfl⟩

end Plan

namespace Statement

/-- A statement that only a pass sends. -/
def OfCatalog (st : Statement) : Prop :=
  Catalog.IsListing st ∨ Catalog.IsRowCount st

/-- A statement that only a request with a known schema sends. -/
def OfRequest (st : Statement) : Prop :=
  Plan.IsSelect st ∨ Plan.IsReferenceCount st

end Statement

/-! ## How statements end -/

/-- The last character of the text. -/
def Statement.last? (st : Statement) : Option Char :=
  st.sql.toList.getLast?

theorem Catalog.IsListing.last {st : Statement} (h : Catalog.IsListing st) :
    ∃ c, st.last? = some c ∧ ¬c.isDigit ∧ c ≠ backtick := by
  obtain ⟨c, listing, hst⟩ := h
  have htext := (Catalog.statement_eq_ok_iff.1 hst).1
  rw [Select.text_eq, Sql.written_eq_ok_iff] at htext
  rw [Statement.last?, ← htext.2, Sql.Fragment.text, String.toList_ofList]
  cases listing with
  | tables => exact ⟨'\'', by decide +kernel⟩
  | columns => exact ⟨'?', by decide +kernel⟩
  | references => exact ⟨'?', by decide +kernel⟩

theorem lexemes_of_entries (entries : List Entry) (last : Entry) :
    Select.lexemes .multiLine { entries := entries ++ [last] } =
      Sql.Fragment.plain "SELECT "
        ++ ((entries.map Entry.lexemes).flatMap (· ++ Sql.Fragment.plain ", ") ++ last.lexemes) := by
  simp only [Select.lexemes, Select.clauseLexemes, Sql.entryLexemes_eq, Sql.renderSelectList,
    List.map_append, List.map_cons, List.map_nil, Sql.Fragment.join_append_cons]
  simp [Sql.Fragment.join, Sql.clauseLexemes, Sql.renderCount]

theorem last_of_named {entries : List Entry} {inner : Select} {asName sql : String}
    (h : Select.text .multiLine { entries := entries ++ [.subselect inner asName] } = .ok sql) :
    sql.toList.getLast? = some backtick := by
  rw [Select.text_eq, Sql.written_eq_ok_iff] at h
  have hname : [Sql.Lexeme.name asName] <:+ (Entry.subselect inner asName).lexemes :=
    List.suffix_append _ _
  have hquoted : (Sql.quoteName asName.toList).getLast? = some backtick := List.getLast?_concat
  obtain ⟨before, hbefore⟩ := hname
  rw [← h.2, lexemes_of_entries, ← hbefore, Sql.Fragment.text, String.toList_ofList]
  simp only [Sql.Fragment.chars_append, Sql.Fragment.chars_cons, Sql.Lexeme.chars,
    Sql.Fragment.chars_nil, List.append_nil, List.getLast?_append, hquoted, Option.some_or]

theorem Catalog.IsRowCount.last {st : Statement} (h : Catalog.IsRowCount st) :
    st.last? = some backtick ∧ st.params = [] := by
  obtain ⟨tables, hne, hst⟩ := h
  obtain ⟨htext, hparams⟩ := Catalog.statement_eq_ok_iff.1 hst
  rw [Catalog.rowCounts, ← List.dropLast_append_getLast hne, List.map_append] at htext
  exact ⟨last_of_named htext, hparams⟩

theorem Plan.IsReferenceCount.last {st : Statement} (h : Plan.IsReferenceCount st) :
    st.last? = some backtick ∧ st.params ≠ [] := by
  obtain ⟨s, table, rowId, hst⟩ := h
  obtain ⟨t, -, hne, htext, hparams⟩ := Plan.referenceCount_eq_ok_some_iff.1 hst
  refine ⟨?_, by simp [hparams, hne]⟩
  rw [← List.dropLast_append_getLast hne, List.map_append] at htext
  exact last_of_named htext

theorem Plan.IsSelect.last {st : Statement} (h : Plan.IsSelect st) :
    ∃ c, st.last? = some c ∧ c.isDigit := by
  obtain ⟨s, q, hst⟩ := h
  obtain ⟨t, -, -, -, -, hsql⟩ := Plan.select_spelled hst
  have htokens : ∃ n, [.word (.number n)] <:+ Plan.statementTokens s t q := by
    unfold Plan.statementTokens Plan.tailTokens
    have hlast (before between : List Sql.Token) (word : Sql.Word) (n : UInt64) :
        [.word (.number n)] <:+ before ++ (between ++ [.word .newline, .word word, .word (.number n)]) :=
      ⟨before ++ between ++ [.word .newline, .word word], by simp⟩
    cases q.offset with
    | none =>
      rw [List.append_nil]
      exact ⟨_, hlast _ _ _ _⟩
    | some n => exact ⟨n, hlast _ _ _ _⟩
  obtain ⟨n, before, htokens⟩ := htokens
  have hchars : st.sql.toList = (Sql.spell before).chars ++ (Sql.Word.number n).text.toList := by
    rw [hsql, ← htokens]
    simp [Sql.Fragment.text, Sql.Token.lexemes]
  have hne := (Sql.Word.number n).text_ne_nil
  refine ⟨_, ?_, Sql.Word.isDigit_of_mem_text_number (List.getLast_mem hne)⟩
  rw [Statement.last?, hchars, List.getLast?_append_of_ne_nil _ hne, List.getLast?_eq_some_getLast]

/-- No statement is of a pass and of a request. -/
theorem Statement.OfRequest.not_ofCatalog {st : Statement} (h : st.OfRequest) : ¬st.OfCatalog := by
  intro hcatalog
  rcases h with hselect | hreferences
  · obtain ⟨c, hlast, hdigit⟩ := hselect.last
    rcases hcatalog with hlisting | hcount
    · obtain ⟨c', hlast', hnodigit, -⟩ := hlisting.last
      obtain rfl : c = c' := Option.some.inj (hlast.symm.trans hlast')
      exact hnodigit hdigit
    · obtain rfl : c = backtick := Option.some.inj (hlast.symm.trans hcount.last.1)
      exact absurd hdigit (by decide)
  · obtain ⟨hlast, hparams⟩ := hreferences.last
    rcases hcatalog with hlisting | hcount
    · obtain ⟨c, hlast', -, hquote⟩ := hlisting.last
      exact hquote (Option.some.inj (hlast'.symm.trans hlast))
    · exact hparams hcount.last.2

/-! ## What is sent -/

namespace Catalog

theorem asks_countRows {kind : List Statement → Prop} (hkind : ∀ st, IsRowCount st → kind [st])
    (s : Schema) : (countRows s).run.Asks kind := by
  unfold countRows
  split
  · exact Inquiry.asks_pure s
  · rename_i small hsmall
    refine Inquiry.asks_lift_bind fun st hst => ?_
    refine Inquiry.asks_bind (Inquiry.asks_fetchRows (hkind st ⟨_, hsmall, hst⟩)) fun rows => ?_
    cases rows with
    | nil => exact Inquiry.asks_throw _
    | cons row rows => exact Inquiry.asks_pure _

theorem asksOnly_reflect (c : Configuration) : (reflect c).run.AsksOnly Statement.OfCatalog := by
  refine Inquiry.asks_lift_bind fun tables htables => ?_
  refine Inquiry.asks_lift_bind fun columns hcolumns => ?_
  refine Inquiry.asks_lift_bind fun references hreferences => ?_
  have hlisting (listing : Listing) {st : Statement}
      (h : statement listing.select (listing.params c) = .ok st) : st.OfCatalog :=
    .inl ⟨c, listing, h⟩
  refine Inquiry.asks_bind (Inquiry.asks_fetchThree ?_) fun rows => ?_
  · simp [hlisting .tables htables, hlisting .columns hcolumns, hlisting .references hreferences]
  · exact Inquiry.asks_lift_bind fun schema _ =>
      asks_countRows (fun st hst => List.forall_mem_singleton.2 (.inr hst)) schema

end Catalog

/-! ## Requests with a known schema -/

/-- Faults of a request itself, told without the database. -/
def Error.IsRefusal : Error → Prop
  | unknownTable _ | compilation _ => True
  | configuration _ | source _ => False

/-- What a request may send once the schema is known: one statement at most, and none if it is
refused. -/
structure Program.Outcome.Frugal {σ α : Type} (outcome : Program.Outcome σ (Except Error α)) :
    Prop where
  atMostOne : outcome.sent.length ≤ 1
  noCatalog : ∀ st ∈ outcome.sent, ¬st.OfCatalog
  refused : ∀ fault, outcome.value = .error fault → fault.IsRefusal → outcome.sent = []

/-- An inquiry that sends nothing, or one statement of a request of which it only reads the rows. -/
inductive Inquiry.Frugal {α : Type} : Inquiry α → Prop
  | silent (result : Except Error α) : Frugal (lift result)
  | single {st : Statement} (hst : st.OfRequest) {f : List Row → Inquiry α}
    (hf : ∀ rows, ∃ result, f rows = lift result ∧
      ∀ fault, result = .error fault → ¬fault.IsRefusal) :
    Frugal (fetchRows st >>= f)

namespace Inquiry

variable {α β : Type}

theorem frugal_lift_bind {result : Except Error α} {f : α → Inquiry β}
    (h : ∀ a, result = .ok a → (f a).Frugal) : (lift result >>= f).Frugal := by
  cases result with
  | ok a => exact h a rfl
  | error fault => exact .silent (.error fault)

theorem Frugal.bind_pure {x : Inquiry α} (h : x.Frugal) (g : α → β) :
    (x >>= fun a => pure (g a)).Frugal := by
  cases h with
  | silent result => exact frugal_lift_bind fun a _ => .silent (.ok (g a))
  | single hst hf =>
    rw [bind_assoc]
    refine .single hst fun rows => ?_
    obtain ⟨result, hrows, hresult⟩ := hf rows
    rw [hrows]
    cases result with
    | ok a => exact ⟨.ok (g a), rfl, nofun⟩
    | error fault => exact ⟨.error fault, rfl, fun _ h => hresult _ (by cases h; rfl)⟩

theorem Frugal.asks {x : Inquiry α} (h : x.Frugal) {kind : List Statement → Prop}
    (hkind : ∀ st : Statement, st.OfRequest → kind [st]) : x.run.Asks kind := by
  cases h with
  | silent result => exact asks_lift result
  | single hst hf =>
    refine asks_bind (asks_fetchRows (hkind _ hst)) fun rows => ?_
    obtain ⟨result, hrows, -⟩ := hf rows
    rw [hrows]
    exact asks_lift result

theorem Frugal.asksOnly {x : Inquiry α} (h : x.Frugal) : x.run.AsksOnly Statement.OfRequest :=
  h.asks fun _ hst => List.forall_mem_singleton.2 hst

theorem Frugal.asksSingly {x : Inquiry α} (h : x.Frugal) : x.run.AsksSingly :=
  h.asks fun _ _ => rfl

theorem Frugal.outcome {x : Inquiry α} (h : x.Frugal) {σ : Type} (source : Program.Source σ)
    (state : σ) : (x.run.run source state).Frugal := by
  have hnoCatalog : ∀ st ∈ (x.run.run source state).sent, ¬st.OfCatalog :=
    fun st hst => (h.asksOnly.of_mem_sent source state st hst).not_ofCatalog
  cases h with
  | silent result => exact ⟨Nat.zero_le 1, hnoCatalog, fun _ _ _ => rfl⟩
  | @single st hst f hf =>
    rw [outcome_bind, outcome_fetchRows] at hnoCatalog ⊢
    cases hreply : (source.answer state st).1 with
    | ok rows =>
      obtain ⟨result, hrows, hresult⟩ := hf rows
      simp only [hreply, Except.mapError, hrows, outcome_lift] at hnoCatalog ⊢
      exact ⟨Nat.le_refl 1, hnoCatalog,
        fun fault hfault hrefusal => absurd hrefusal (hresult fault hfault)⟩
    | error e =>
      simp only [hreply, Except.mapError] at hnoCatalog ⊢
      refine ⟨Nat.le_refl 1, hnoCatalog, fun fault hfault hrefusal => ?_⟩
      obtain rfl : Error.source e = fault := Except.error.inj hfault
      exact hrefusal.elim

end Inquiry

theorem frugal_selectRows (s : Schema) (q : Query) : (selectRows s q).Frugal := by
  refine Inquiry.frugal_lift_bind fun st hst => ?_
  have hkind : st.OfRequest := .inl ⟨s, q, hst⟩
  exact .single hkind fun rows => ⟨.ok (Selection.ofRows rows), rfl, nofun⟩

theorem not_isRefusal_of_readCounts {row : Row} {fault : Error} (h : readCounts row = .error fault) :
    ¬fault.IsRefusal := by
  rw [readCounts, bind_eq_error_iff] at h
  rcases h with h | ⟨counts, -, h⟩
  · obtain ⟨⟨column, value⟩, -, h⟩ := exists_of_mapM_eq_error h
    dsimp only at h
    split at h
    · cases h
    · cases h
      exact id
  · cases h

theorem frugal_countReferences (s : Schema) (table rowId : String) :
    (countReferences s table rowId).Frugal := by
  refine Inquiry.frugal_lift_bind fun planned hplanned => ?_
  cases planned with
  | none => exact .silent (.ok ∅)
  | some st =>
    have hkind : st.OfRequest := .inr ⟨s, table, rowId, hplanned⟩
    refine .single hkind fun rows => ?_
    cases rows with
    | nil =>
      refine ⟨.error (.source (.unexpectedRow .noReferenceCounts)), rfl, fun fault hfault hrefusal => ?_⟩
      cases hfault
      exact hrefusal
    | cons row rows => exact ⟨readCounts row, rfl, fun fault => not_isRefusal_of_readCounts⟩

theorem Request.frugal_answerWith (s : Schema) (request : Request) :
    (request.answerWith s).Frugal := by
  cases request with
  | schema => exact .silent (.ok (Answer.schema s))
  | select q => exact (frugal_selectRows s q).bind_pure Answer.selection
  | countReferences table rowId =>
    exact (frugal_countReferences s table rowId).bind_pure Answer.counts

end TableAtlas
