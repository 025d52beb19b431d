import TableAtlas.Proofs.Sql.Clauses
import TableAtlas.Proofs.Sql.Paths

/-!
# Recovering the parts of a statement

A part of a statement is recovered from its text together with what follows: where two texts agree
that begin with parts of one kind, the parts are the same and what follows is the same. This needs to
know what may follow, so that no part goes on where another one ends: a name is not followed by a
point, a number not by a digit, an operator not by a sign that makes another operator, and a list not
by its separator. Behind a clause stands nothing, a closing bracket, or a clause with a keyword of its
own (`ClauseEnd`).
-/

namespace TableAtlas.Sql

open Fragment (plain join)

/-! ## Recovery -/

section Recovery

variable {α : Type}

/-- What is written of `a` is written of no other thing, whatever may follow. -/
def Recoverable (valid : α → Prop) (text : α → Fragment) (follow : Fragment → Prop) (a : α) : Prop :=
  ∀ ⦃b : α⦄ ⦃r r' : Fragment⦄, valid b → follow r → follow r' → text a ++ r = text b ++ r' →
    a = b ∧ r = r'

/-- A word is recovered if no other word goes on behind it with something that may follow. -/
theorem recoverable_plain {valid : α → Prop} {word : α → String} {follow : Fragment → Prop} {a : α}
    (ha : valid a) (hinj : ∀ a b, valid a → valid b → word a = word b → a = b)
    (hends : ∀ a b, valid a → valid b → ∀ c rest, (word b).toList = (word a).toList ++ c :: rest →
      ∀ r, follow r → r.head? ≠ some (.char c)) :
    Recoverable valid (fun a => plain (word a)) follow a := by
  -- One of the words begins the other, and what it lacks is what follows it.
  have hprefix : ∀ a b, valid a → valid b → ∀ r, follow r → ∀ rest,
      plain (word b) = plain (word a) ++ rest → ∀ r', r = rest ++ r' → a = b ∧ r = r' := by
    intro a b ha hb r hr rest hword r' hrest
    obtain ⟨first, second, hsplit, hfirst, hsecond⟩ := List.map_eq_append_iff.1 hword
    have hsame : first = (word a).toList :=
      List.map_injective_iff.2 (fun _ _ h => Lexeme.char.inj h) hfirst
    cases second with
    | nil =>
      have hwords : word a = word b := String.toList_inj.1 (by simpa [hsame] using hsplit.symm)
      subst hsecond
      exact ⟨hinj a b ha hb hwords, hrest⟩
    | cons c second =>
      refine absurd ?_ (hends a b ha hb c second (hsame ▸ hsplit) r hr)
      rw [hrest, ← hsecond]
      rfl
  intro b r r' hb hr hr' h
  rcases List.append_eq_append_iff.1 h with ⟨rest, hword, hrest⟩ | ⟨rest, hword, hrest⟩
  · exact hprefix a b ha hb r hr rest hword r' hrest
  · obtain ⟨heq, hrest⟩ := hprefix b a hb ha r' hr' rest hword r hrest
    exact ⟨heq.symm, hrest.symm⟩

theorem recoverable_of_prefixFree {valid : α → Prop} {word : α → String} {a : α} (ha : valid a)
    (hfree : ∀ a b, valid a → valid b → (word a).toList <+: (word b).toList → a = b) :
    Recoverable valid (fun a => plain (word a)) (fun _ => True) a := by
  refine recoverable_plain ha (fun a b ha hb h => hfree a b ha hb (h ▸ List.prefix_rfl)) ?_
  intro a b ha hb c rest h
  obtain rfl := hfree a b ha hb ⟨c :: rest, h.symm⟩
  simp at h

theorem Recoverable.mono {valid : α → Prop} {text : α → Fragment} {follow narrower : Fragment → Prop}
    {a : α} (h : Recoverable valid text follow a) (hnarrower : ∀ r, narrower r → follow r) :
    Recoverable valid text narrower a :=
  fun _ _ _ hb hr hr' => h hb (hnarrower _ hr) (hnarrower _ hr')

section Lists

variable {valid : α → Prop} {text : α → Fragment} {separator : String}
  {follow stop : Fragment → Prop}

theorem prefix_ledBy (separator : String) (f : Fragment) (fs : List Fragment) (r : Fragment) :
    plain separator <+: ledBy separator (f :: fs) ++ r := by
  rw [ledBy_cons, List.append_assoc]
  exact List.prefix_append _ _

theorem follow_ledBy (hnext : ∀ a, valid a → ∀ r, follow (plain separator ++ (text a ++ r)))
    (hstop : ∀ r, stop r → follow r) {items : List α} (hvalid : ∀ a ∈ items, valid a)
    {r : Fragment} (hr : stop r) : follow (ledBy separator (items.map text) ++ r) := by
  cases items with
  | nil => exact hstop r hr
  | cons a items =>
    rw [List.map_cons, ledBy_cons, List.append_assoc, List.append_assoc]
    exact hnext a (hvalid a List.mem_cons_self) _

/-- Items behind separators are recovered if each of them is. -/
theorem recoverable_ledBy (hnext : ∀ a, valid a → ∀ r, follow (plain separator ++ (text a ++ r)))
    (hstop : ∀ r, stop r → follow r) (hend : ∀ r, stop r → ¬plain separator <+: r)
    {items : List α} (hvalid : ∀ a ∈ items, valid a)
    (hitems : ∀ a ∈ items, Recoverable valid text follow a) :
    Recoverable (fun items => ∀ a ∈ items, valid a)
      (fun items => ledBy separator (items.map text)) stop items := by
  induction items with
  | nil =>
    intro others r r' hothers hr hr' h
    cases others with
    | nil => exact ⟨rfl, h⟩
    | cons b others =>
      have hr_eq : r = ledBy separator (text b :: others.map text) ++ r' := h
      exact absurd (hr_eq ▸ prefix_ledBy separator _ _ r') (hend r hr)
  | cons a items ih =>
    intro others r r' hothers hr hr' h
    cases others with
    | nil =>
      have hr_eq : r' = ledBy separator (text a :: items.map text) ++ r := h.symm
      exact absurd (hr_eq ▸ prefix_ledBy separator _ _ r) (hend r' hr')
    | cons b others =>
      have hrest : ∀ x ∈ items, valid x := fun x hx => hvalid x (List.mem_cons_of_mem a hx)
      have hrest' : ∀ x ∈ others, valid x := fun x hx => hothers x (List.mem_cons_of_mem b hx)
      simp only [List.map_cons, ledBy_cons, List.append_assoc] at h
      obtain ⟨rfl, htail⟩ := hitems a List.mem_cons_self (hothers b List.mem_cons_self)
        (follow_ledBy hnext hstop hrest hr) (follow_ledBy hnext hstop hrest' hr')
        (List.append_cancel_left h)
      obtain ⟨rfl, hsame⟩ :=
        ih hrest (fun x hx => hitems x (List.mem_cons_of_mem a hx)) hrest' hr hr' htail
      exact ⟨rfl, hsame⟩

theorem recoverable_join (hnext : ∀ a, valid a → ∀ r, follow (plain separator ++ (text a ++ r)))
    (hstop : ∀ r, stop r → follow r) (hend : ∀ r, stop r → ¬plain separator <+: r)
    {items : List α} (hne : items ≠ []) (hvalid : ∀ a ∈ items, valid a)
    (hitems : ∀ a ∈ items, Recoverable valid text follow a) :
    Recoverable (fun items => items ≠ [] ∧ ∀ a ∈ items, valid a)
      (fun items => join separator (items.map text)) stop items := by
  rintro others r r' ⟨hne', hothers⟩ hr hr' h
  obtain ⟨a, items, rfl⟩ := List.exists_cons_of_ne_nil hne
  obtain ⟨b, others, rfl⟩ := List.exists_cons_of_ne_nil hne'
  have hled := recoverable_ledBy hnext hstop hend hvalid hitems hothers hr hr'
  simp only [List.map_cons, join_eq_ledBy, ledBy_cons, List.append_assoc] at h hled
  exact hled (by rw [h])

end Lists

end Recovery

/-! ## Names, operands and expressions -/

theorem recoverable_memberText (name : String) :
    Recoverable (fun _ => True) memberText (fun r => r.head? ≠ some (.char '.')) name := by
  intro name' r r' _ hr hr' h
  have hpart : ∀ part : String,
      Recoverable (fun _ => True) (fun part => [Lexeme.name part]) (fun _ => True) part := by
    intro part part' r r' _ _ _ h
    obtain ⟨hname, hrest⟩ := List.cons.inj h
    exact ⟨Lexeme.name.inj hname, hrest⟩
  have hend : ∀ r : Fragment, r.head? ≠ some (.char '.') → ¬plain "." <+: r := by
    rintro _ hr ⟨rest, rfl⟩
    exact hr rfl
  obtain ⟨hparts, hrest⟩ := recoverable_join (fun _ _ _ => trivial) (fun _ _ => trivial) hend
    (nameParts_ne_nil name) (fun _ _ => trivial) (fun part _ => hpart part)
    ⟨nameParts_ne_nil name', fun _ _ => trivial⟩ hr hr' h
  exact ⟨nameParts_injective hparts, hrest⟩

theorem exists_memberText_eq (name : String) : ∃ part rest, memberText name = .name part :: rest := by
  obtain ⟨part, parts, hparts⟩ := List.exists_cons_of_ne_nil (nameParts_ne_nil name)
  refine ⟨part, ledBy "." (parts.map fun part => [.name part]), ?_⟩
  rw [memberText, memberLexemes, hparts, List.map_cons, join_eq_ledBy]
  rfl

theorem IsOperand.eq_of_append_eq {f f' r r' : Fragment} (hf : IsOperand f) (hf' : IsOperand f')
    (h : f ++ r = f' ++ r') : f = f' ∧ r = r' := by
  rcases hf with rfl | ⟨table, column, rfl⟩
  · rcases hf' with rfl | ⟨table', column', rfl⟩
    · exact ⟨rfl, List.append_cancel_left h⟩
    · cases h
  · rcases hf' with rfl | ⟨table', column', rfl⟩
    · cases h
    · cases h
      exact ⟨rfl, rfl⟩

theorem recoverable_function (function : AggregateFunction) :
    Recoverable (fun _ => True) (fun f : AggregateFunction => plain f.word) (fun _ => True)
      function :=
  recoverable_of_prefixFree trivial fun a b _ _ => by cases a <;> cases b <;> decide

theorem target_eq_of_append_eq {target target' r r' : Fragment}
    (htarget : target = plain "*" ∨ ∃ name, member name = .ok target)
    (htarget' : target' = plain "*" ∨ ∃ name, member name = .ok target')
    (h : target ++ (plain ")" ++ r) = target' ++ (plain ")" ++ r')) :
    target = target' ∧ r = r' := by
  have hclosed : ∀ r : Fragment, (plain ")" ++ r).head? ≠ some (.char '.') := by
    intro r
    simp [plain]
  simp only [member_eq, written_eq_ok_iff] at htarget htarget'
  rcases htarget with rfl | ⟨name, -, rfl⟩
  · rcases htarget' with rfl | ⟨name', -, rfl⟩
    · exact ⟨rfl, List.append_cancel_left (List.append_cancel_left h)⟩
    · obtain ⟨part, rest, hname⟩ := exists_memberText_eq name'
      rw [hname] at h
      cases h
  · rcases htarget' with rfl | ⟨name', -, rfl⟩
    · obtain ⟨part, rest, hname⟩ := exists_memberText_eq name
      rw [hname] at h
      cases h
    · obtain ⟨rfl, hrest⟩ := recoverable_memberText name trivial (hclosed r) (hclosed r') h
      exact ⟨rfl, List.append_cancel_left hrest⟩

theorem IsAggregate.eq_of_append_eq {f f' r r' : Fragment} (hf : IsAggregate f)
    (hf' : IsAggregate f') (h : f ++ r = f' ++ r') : f = f' ∧ r = r' := by
  obtain ⟨function, target, htarget, rfl⟩ := hf
  obtain ⟨function', target', htarget', rfl⟩ := hf'
  simp only [Fragment.plain_append, List.append_assoc] at h
  obtain ⟨rfl, hbehind⟩ := recoverable_function function trivial trivial trivial h
  obtain ⟨rfl, hrest⟩ := target_eq_of_append_eq htarget htarget' (List.append_cancel_left hbehind)
  exact ⟨rfl, hrest⟩

theorem IsAggregate.exists_eq {f : Fragment} (h : IsAggregate f) :
    ∃ c rest, f = .char c :: rest ∧ c ≠ '(' ∧ c ≠ '*' := by
  obtain ⟨function, target, -, rfl⟩ := h
  cases function <;> exact ⟨_, _, rfl, by decide, by decide⟩

/-! ## What stands behind a clause -/

/-- What may follow a clause: nothing, the bracket that closes its statement, or the next clause. -/
inductive ClauseEnd (layout : Layout) : Fragment → Prop
  | nothing : ClauseEnd layout []
  | bracket (r : Fragment) : ClauseEnd layout (.char ')' :: r)
  | clause (c : Clause) (r : Fragment) : ClauseEnd layout (plain layout.separator ++ (c.lexemes ++ r))

/-- What may follow an item of a list: another item, or what follows the clause. -/
inductive ItemEnd (layout : Layout) (separator : String) : Fragment → Prop
  | next (r : Fragment) : ItemEnd layout separator (plain separator ++ r)
  | last {r : Fragment} (h : ClauseEnd layout r) : ItemEnd layout separator r

/-- What may follow a statement: nothing, or the bracket that closes it. -/
inductive StatementEnd : Fragment → Prop
  | nothing : StatementEnd []
  | bracket (r : Fragment) : StatementEnd (.char ')' :: r)

theorem StatementEnd.not_prefix {r : Fragment} (h : StatementEnd r) (layout : Layout) :
    ¬plain layout.separator <+: r := by
  rintro ⟨rest, hrest⟩
  cases h <;> cases layout <;> simp [plain, Layout.separator] at hrest

theorem StatementEnd.clauseEnd {layout : Layout} {r : Fragment} (h : StatementEnd r) :
    ClauseEnd layout r := by
  cases h with
  | nothing => exact .nothing
  | bracket r => exact .bracket r

/-- The keywords of clauses. -/
def clauseWords : List Word :=
  [.source, .conditions, .grouping, .ordering, .limit, .offset]

theorem Clause.word_mem (c : Clause) : c.word ∈ clauseWords := by
  cases c <;> simp [word, clauseWords]

theorem Clause.exists_lexemes_eq (c : Clause) :
    ∃ first rest, c.lexemes = .char first :: rest ∧ first ∈ ['F', 'W', 'G', 'O', 'L'] := by
  obtain ⟨first, letters, hword⟩ := List.exists_cons_of_ne_nil c.word.text_ne_nil
  have hfirst : ∀ w ∈ clauseWords, ∀ letter, w.text.toList.head? = some letter →
      letter ∈ ['F', 'W', 'G', 'O', 'L'] := by
    simp [clauseWords, Word.text]
  refine ⟨first, letters.map .char ++ c.body, ?_, hfirst _ c.word_mem first (by rw [hword]; rfl)⟩
  rw [lexemes, plain, hword]
  rfl

/-- Behind a clause stands no sign that a name, a number or an operator could go on with. -/
theorem ClauseEnd.head {layout : Layout} {r : Fragment} (h : ClauseEnd layout r) :
    ∀ l ∈ r.head?, l ∈ [Lexeme.char ')', .char ' ', .char '\n'] := by
  cases h with
  | nothing => simp
  | bracket r => simp
  | clause c r => cases layout <;> simp [Layout.separator, plain]

theorem ClauseEnd.not_prefix {layout : Layout} {r : Fragment} (h : ClauseEnd layout r)
    {word : String} (hword : word ∈ [" AND ", " AS ", ", "]) : ¬plain word <+: r := by
  rintro ⟨rest, hrest⟩
  simp only [List.mem_cons, List.not_mem_nil, or_false] at hword
  cases h with
  | nothing => rcases hword with rfl | rfl | rfl <;> simp [plain] at hrest
  | bracket r => rcases hword with rfl | rfl | rfl <;> simp [plain] at hrest
  | clause c r =>
    obtain ⟨first, behind, hc, hfirst⟩ := c.exists_lexemes_eq
    have hletter : first ≠ 'A' := fun h => absurd (h ▸ hfirst) (by decide)
    rw [hc] at hrest
    cases layout with
    | multiLine => rcases hword with rfl | rfl | rfl <;> simp [plain, Layout.separator] at hrest
    | singleLine =>
      rcases hword with rfl | rfl | rfl <;>
        simp [plain, Layout.separator, hletter.symm] at hrest

theorem ClauseEnd.ne_blank_name {layout : Layout} {r : Fragment} (h : ClauseEnd layout r)
    (name : String) (rest : Fragment) : r ≠ plain " " ++ (.name name :: rest) := by
  intro hrest
  cases h with
  | nothing => simp [plain] at hrest
  | bracket r => simp [plain] at hrest
  | clause c r =>
    obtain ⟨first, behind, hc, -⟩ := c.exists_lexemes_eq
    rw [hc] at hrest
    cases layout <;> simp [plain, Layout.separator] at hrest

theorem ClauseEnd.ne_point {layout : Layout} {r : Fragment} (h : ClauseEnd layout r) :
    r.head? ≠ some (.char '.') := fun hr => by simpa using h.head _ hr

theorem ItemEnd.ne_point {layout : Layout} {separator : String} {r : Fragment}
    (h : ItemEnd layout separator r) (hseparator : separator ∈ [" AND ", ", "]) :
    r.head? ≠ some (.char '.') := by
  cases h with
  | next r =>
    simp only [List.mem_cons, List.not_mem_nil, or_false] at hseparator
    rcases hseparator with rfl | rfl <;> simp [plain]
  | last h => exact h.ne_point

/-! ## Items of clauses -/

/-- The items of a clause are recovered, and with them where the clause ends. -/
theorem recoverable_items {α : Type} {layout : Layout} {valid : α → Prop} {text : α → Fragment}
    {separator : String} (hseparator : separator ∈ [" AND ", ", "]) {items : List α}
    (hne : items ≠ []) (hvalid : ∀ a ∈ items, valid a)
    (hitems : ∀ a ∈ items, Recoverable valid text (ItemEnd layout separator) a) :
    Recoverable (fun items => items ≠ [] ∧ ∀ a ∈ items, valid a)
      (fun items => join separator (items.map text)) (ClauseEnd layout) items := by
  have hend : ∀ r, ClauseEnd layout r → ¬plain separator <+: r := by
    intro r hr
    apply hr.not_prefix
    simp only [List.mem_cons, List.not_mem_nil, or_false] at hseparator ⊢
    exact hseparator.imp_right .inr
  exact recoverable_join (fun _ _ _ => .next _) (fun _ => .last) hend hne hvalid hitems

theorem blank_ne_point (r : Fragment) : (plain " " ++ r).head? ≠ some (.char '.') := by
  simp [plain]

theorem recoverable_operator (operator : Operator) :
    Recoverable (fun _ => True) (fun o : Operator => plain o.word)
      (fun r => r.head? ≠ some (.char '=') ∧ r.head? ≠ some (.char '>')) operator := by
  have hends : ∀ a b : Operator, ∀ c rest, b.word.toList = a.word.toList ++ c :: rest →
      c = '=' ∨ c = '>' := by
    intro a b c rest
    cases a <;> cases b <;> simp [Operator.word]
    all_goals
      rintro rfl -
      simp
  refine recoverable_plain trivial (fun a b _ _ h => ?_) (fun a b _ _ c rest h r hr => ?_)
  · revert h
    cases a <;> cases b <;> decide
  · rcases hends a b c rest h with rfl | rfl
    · exact hr.1
    · exact hr.2

theorem not_sign_behind_operator {layout : Layout} {r : Fragment} (hr : ItemEnd layout " AND " r)
    (value : Option Fragment) {sign : Char} (hsign : sign ∈ ['=', '>']) :
    ((match value with
      | some value => plain " " ++ value
      | none => []) ++ r).head? ≠ some (.char sign) := by
  intro hhead
  simp only [List.mem_cons, List.not_mem_nil, or_false] at hsign
  cases value with
  | some value => rcases hsign with rfl | rfl <;> simp [plain] at hhead
  | none =>
    cases hr with
    | next r => rcases hsign with rfl | rfl <;> simp [plain] at hhead
    | last h =>
      have hmem := h.head _ hhead
      rcases hsign with rfl | rfl <;> simp at hmem

theorem recoverable_condition {layout : Layout} {c : Condition} (hc : c.Standard) :
    Recoverable Condition.Standard Condition.lexemes (ItemEnd layout " AND ") c := by
  intro c' r r' hc' hr hr' h
  obtain ⟨operator, hoperator, htakes, hvalue⟩ := hc
  obtain ⟨operator', hoperator', htakes', hvalue'⟩ := hc'
  obtain ⟨field, word, value⟩ := c
  obtain ⟨field', word', value'⟩ := c'
  obtain rfl : word = operator.word := hoperator
  obtain rfl : word' = operator'.word := hoperator'
  simp only [Condition.lexemes, List.append_assoc] at h
  obtain ⟨rfl, hbehind⟩ := recoverable_memberText field trivial (blank_ne_point _) (blank_ne_point _) h
  obtain ⟨rfl, hvalues⟩ := recoverable_operator operator trivial
    ⟨not_sign_behind_operator hr value (by simp), not_sign_behind_operator hr value (by simp)⟩
    ⟨not_sign_behind_operator hr' value' (by simp), not_sign_behind_operator hr' value' (by simp)⟩
    (List.append_cancel_left hbehind)
  -- One operator, so both conditions have a value or neither has.
  cases value with
  | none =>
    cases value' with
    | none => exact ⟨rfl, hvalues⟩
    | some _ => exact absurd (htakes.trans htakes'.symm) (by simp)
  | some v =>
    cases value' with
    | none => exact absurd (htakes.trans htakes'.symm) (by simp)
    | some v' =>
      simp only [List.append_assoc] at hvalues
      obtain ⟨rfl, hrest⟩ :=
        (hvalue v rfl).eq_of_append_eq (hvalue' v' rfl) (List.append_cancel_left hvalues)
      exact ⟨rfl, hrest⟩

theorem recoverable_sortKey (k : SortKey) :
    Recoverable (fun _ => True) SortKey.lexemes (fun _ => True) k := by
  intro k' r r' _ _ _ h
  simp only [SortKey.lexemes, List.append_assoc] at h
  obtain ⟨hfield, hbehind⟩ :=
    recoverable_memberText k.field trivial (blank_ne_point _) (blank_ne_point _) h
  have hdirection : ∀ direction : Direction, Recoverable (fun _ => True)
      (fun d : Direction => plain d.keyword) (fun _ => True) direction := fun direction =>
    recoverable_of_prefixFree trivial fun a b _ _ => by cases a <;> cases b <;> decide
  obtain ⟨hkeyword, hrest⟩ :=
    hdirection k.direction trivial trivial trivial (List.append_cancel_left hbehind)
  cases k
  cases k'
  exact ⟨congrArg₂ SortKey.mk hfield hkeyword, hrest⟩

theorem recoverable_number {layout : Layout} (n : UInt64) :
    Recoverable (fun _ => True) (fun n : UInt64 => plain (toString n.toNat)) (ClauseEnd layout) n := by
  refine recoverable_plain trivial (fun a b _ _ h => ?_) (fun a b _ _ c rest h r hr hhead => ?_)
  · have hdigits : Nat.repr a.toNat = Nat.repr b.toNat := h
    exact UInt64.toNat_inj.1 (Word.repr_injective hdigits)
  · have hmem : c ∈ (Word.number b).text.toList := by
      rw [Word.text, h]
      simp
    have hdigit := Word.isDigit_of_mem_text_number hmem
    have hsign := hr.head _ hhead
    simp only [List.mem_cons, Lexeme.char.injEq, List.not_mem_nil, or_false] at hsign
    rcases hsign with rfl | rfl | rfl <;> exact absurd hdigit (by decide)

theorem recoverable_source {layout : Layout} (s : Source) :
    Recoverable (fun _ => True) Source.body (ClauseEnd layout) s := by
  intro s' r r' _ hr hr' h
  cases s with
  | table name =>
    cases s' with
    | table name' =>
      obtain ⟨rfl, hrest⟩ := recoverable_memberText name trivial hr.ne_point hr'.ne_point h
      exact ⟨rfl, hrest⟩
    | aliased name' asName' =>
      simp only [Source.body, List.append_assoc] at h
      obtain ⟨-, hrest⟩ := recoverable_memberText name trivial hr.ne_point (blank_ne_point _) h
      exact absurd hrest (hr.ne_blank_name asName' r')
  | aliased name asName =>
    cases s' with
    | table name' =>
      simp only [Source.body, List.append_assoc] at h
      obtain ⟨-, hrest⟩ := recoverable_memberText name trivial (blank_ne_point _) hr'.ne_point h
      exact absurd hrest.symm (hr'.ne_blank_name asName r)
    | aliased name' asName' =>
      simp only [Source.body, List.append_assoc] at h
      obtain ⟨rfl, hrest⟩ :=
        recoverable_memberText name trivial (blank_ne_point _) (blank_ne_point _) h
      obtain ⟨hname, hrest⟩ := List.cons.inj (List.append_cancel_left hrest)
      exact ⟨by rw [Lexeme.name.inj hname], hrest⟩

end TableAtlas.Sql
