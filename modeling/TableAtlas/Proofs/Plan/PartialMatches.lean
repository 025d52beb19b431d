import TableAtlas.Proofs.Plan.Placeholders
import TableAtlas.Proofs.Plan.Refusals

/-!
# Partial matches

With one pattern, `like` and `not like` share out the rows whose field is not null. A value without a
wildcard becomes a pattern that may stand anywhere in the text, but only for `like`, and `not like` takes
it as it is. So a query that is planned with `not like` is planned with `like` as well, as the same
statement but for the operator, and the two share out the rows just if the value holds a wildcard
(`select_like_of_notLike`).
-/

namespace TableAtlas

namespace Sql

/-! ## Patterns -/

section Pattern

-- How a collation weighs characters: those of one weight count as the same.
variable (weight : Char → Nat)

/-- A text matches a pattern. In a pattern, `%` stands for any characters, `_` for any one, and a character
behind a backslash for itself. -/
inductive Matches : List Char → List Char → Prop
  | nil : Matches [] []
  | anyNone {p cs : List Char} (h : Matches p cs) : Matches ('%' :: p) cs
  | anyMore {p cs : List Char} {c : Char} (h : Matches ('%' :: p) cs) : Matches ('%' :: p) (c :: cs)
  | one {p cs : List Char} {c : Char} (h : Matches p cs) : Matches ('_' :: p) (c :: cs)
  | escaped {p cs : List Char} {c d : Char} (hc : weight c = weight d) (h : Matches p cs) :
    Matches ('\\' :: c :: p) (d :: cs)
  /-- A backslash at the end stands for itself. -/
  | backslash {d : Char} (hd : weight '\\' = weight d) : Matches ['\\'] [d]
  | char {p cs : List Char} {c d : Char} (hplain : c ∉ ['%', '_', '\\']) (hc : weight c = weight d)
    (h : Matches p cs) : Matches (c :: p) (d :: cs)

/-- The rows that a partial match selects, by the text of their field; a null field is never selected. -/
inductive Selects (pattern : String) : Operator → Option String → Prop
  | like {text : String} (h : Matches weight pattern.toList text.toList) :
    Selects pattern .like (some text)
  | notLike {text : String} (h : ¬Matches weight pattern.toList text.toList) :
    Selects pattern .notLike (some text)

/-- Each row whose field is not null is selected by one of the two operators and not by the other. -/
def Complementary (likePattern notLikePattern : String) : Prop :=
  ∀ text : String, Selects weight likePattern .like (some text) ↔
    ¬Selects weight notLikePattern .notLike (some text)

end Pattern

variable {weight : Char → Nat}

theorem Matches.length_le {p cs : List Char} (h : Matches weight p cs) (hp : '%' ∉ p) :
    cs.length ≤ p.length := by
  induction h with
  | nil => exact Nat.le_refl 0
  | anyNone _ _ | anyMore _ _ => exact absurd List.mem_cons_self hp
  | one _ ih | char _ _ _ ih => exact Nat.succ_le_succ (ih fun h => hp (List.mem_cons_of_mem _ h))
  | escaped _ _ ih =>
    have hle := ih fun h => hp (List.mem_cons_of_mem _ (List.mem_cons_of_mem _ h))
    simp only [List.length_cons]
    omega
  | backslash _ => exact Nat.le_refl 1

theorem exists_matches (weight : Char → Nat) (p : List Char) : ∃ cs, Matches weight p cs := by
  match p with
  | [] => exact ⟨[], .nil⟩
  | c :: rest =>
    obtain ⟨cs, h⟩ := exists_matches weight rest
    by_cases hplain : c ∉ ['%', '_', '\\']
    · exact ⟨c :: cs, .char hplain rfl h⟩
    · rw [not_not, List.mem_cons, List.mem_cons, List.mem_singleton] at hplain
      rcases hplain with rfl | rfl | rfl
      · exact ⟨cs, .anyNone h⟩
      · exact ⟨'_' :: cs, .one h⟩
      · match rest with
        | [] => exact ⟨['\\'], .backslash rfl⟩
        | d :: rest =>
          obtain ⟨ds, h⟩ := exists_matches weight rest
          exact ⟨d :: ds, .escaped rfl h⟩

theorem Matches.append_left {p cs : List Char} (h : Matches weight ('%' :: p) cs) (before : List Char) :
    Matches weight ('%' :: p) (before ++ cs) := by
  induction before with
  | nil => exact h
  | cons c before ih => exact .anyMore ih

/-- The pattern that a value without a `%` is made into matches texts that the value does not match. -/
theorem exists_matches_not_matches {value : String} (h : '%' ∉ value.toList) :
    ∃ text : String, Matches weight ("%" ++ value ++ "%").toList text.toList ∧
      ¬Matches weight value.toList text.toList := by
  obtain ⟨cs, hcs⟩ := exists_matches weight (value.toList ++ ['%'])
  have hlong := Matches.append_left (.anyNone hcs) (List.replicate (value.toList.length + 1) ' ')
  refine ⟨String.ofList (List.replicate (value.toList.length + 1) ' ' ++ cs), ?_, fun hvalue => ?_⟩
  · rw [String.toList_ofList, String.toList_append, String.toList_append]
    exact hlong
  · have hle := hvalue.length_le h
    simp only [String.toList_ofList, List.length_append, List.length_replicate] at hle
    omega

theorem complementary_self (pattern : String) : Complementary weight pattern pattern := by
  intro text
  constructor
  · rintro (h | _) (_ | hnot)
    exact hnot h
  · intro hnot
    refine .like ?_
    by_contra h
    exact hnot (.notLike h)

end Sql

/-- The query with another operator in one of its filters. -/
def Query.withOperator (q : Query) (place : Nat) (operator : String) : Query :=
  { q with filters := some (q.allFilters.modify place fun f => { f with operator }) }

theorem Query.allFilters_withOperator {q : Query} {place : Nat} {f : Filter} (operator : String)
    (h : q.allFilters[place]? = some f) :
    ∃ earlier later, earlier.length = place ∧ q.allFilters = earlier ++ f :: later ∧
      (q.withOperator place operator).allFilters = earlier ++ { f with operator } :: later := by
  obtain ⟨hplace, rfl⟩ := List.getElem?_eq_some_iff.1 h
  refine ⟨q.allFilters.take place, q.allFilters.drop (place + 1), ?_, ?_, ?_⟩
  · rw [List.length_take, Nat.min_eq_left hplace.le]
  · rw [List.getElem_cons_drop hplace, List.take_append_drop]
  · exact List.modify_eq_take_cons_drop hplace

namespace Plan

open Sql

/-! ## Values and patterns -/

theorem likePattern_eq_self_iff {value : String} : likePattern value = value ↔ '%' ∈ value.toList := by
  by_cases h : '%' ∈ value.toList
  · simp [likePattern, h]
  · have hlength : ("%" ++ value ++ "%").length ≠ value.length := by
      have hsign : "%".length = 1 := rfl
      simp only [String.length_append, hsign]
      omega
    simpa [likePattern, h] using fun heq => hlength (congrArg String.length heq)

/-- The pattern of a value and the value itself share out the rows just if they are the same. -/
theorem complementary_likePattern_iff {value : String} :
    Complementary weight (likePattern value) value ↔ '%' ∈ value.toList := by
  constructor
  · intro hcompl
    by_contra h
    obtain ⟨text, hmatches, hnot⟩ := @exists_matches_not_matches weight _ h
    have hpattern : likePattern value = "%" ++ value ++ "%" := by simp [likePattern, h]
    exact (hcompl text).1 (.like (hpattern ▸ hmatches)) (.notLike hnot)
  · intro h
    rw [likePattern_eq_self_iff.2 h]
    exact complementary_self value

/-! ## Queries -/

/-- The filter has a known operator, in any spelling, and a value. -/
structure Compares (f : Filter) (operator : Operator) (value : String) : Prop where
  word : normalWord f.operator = operator.word
  takesValue : operator.takesValue = true
  value : f.value = some value

section Compares

variable {f : Filter} {operator : Operator} {value : String} (h : Compares f operator value)
include h

theorem Compares.ofText? : Operator.ofText? f.operator = some operator :=
  Operator.ofText?_eq_some_iff.2 h.word.symm

theorem Compares.isValued : f.isValued = true := by
  rw [← Operator.takesValue_of_ofText? h.ofText?, h.takesValue]

theorem Compares.readable : Readable f :=
  ⟨operator, h.ofText?, fun _ => by rw [h.value, Option.isSome_some]⟩

theorem Compares.parameterOf_eq : parameterOf f = some (boundValue operator value) := by
  rw [parameterOf_of_ofText? h.ofText?, h.isValued, if_pos rfl, h.value, Option.map_some]

end Compares

theorem Readable.not_faulty {f : Filter} (h : Readable f) : ¬f.Faulty := by
  obtain ⟨operator, hoperator, hvalue⟩ := h
  exact exists_readFilter_iff.1 ⟨_, readFilter_eq_ok_iff.2 ⟨operator, hoperator, hvalue, rfl⟩⟩

theorem exists_select_of_fields {s : Schema} {q : Query} {st : Statement} {filters : List Filter}
    (h : select s q = .ok st) (hfields : filters.map Filter.field = q.allFilters.map Filter.field)
    (hreadable : ∀ f ∈ filters, Readable f) :
    ∃ st', select s { q with filters := some filters } = .ok st' := by
  let q' : Query := { q with filters := some filters }
  have hfield {f : Filter} (hf : f ∈ q'.allFilters) : ∃ g ∈ q.allFilters, g.field = f.field :=
    List.mem_map.1 (hfields ▸ List.mem_map_of_mem hf)
  have hconcerns (t : Table) {name : String} (hname : Concerns t q' name) : Concerns t q name := by
    have hbase : name ∈ baseNames t q' := mem_baseNames_iff.2 hname
    exact mem_baseNames_iff.1 hbase
  obtain ⟨t, ht, haccepted⟩ := exists_select_iff.1 ⟨st, h⟩
  refine exists_select_iff.2 ⟨t, ht, fun hrefused => ?_⟩
  cases hrefused with
  | @reservedName name hname hreserved =>
    refine haccepted (.reservedName ?_ hreserved)
    cases hname with
    | column hmem => exact .column hmem
    | filter hmem =>
      obtain ⟨g, hg, hgf⟩ := hfield hmem
      exact hgf ▸ .filter hg
    | sortKey hmem => exact .sortKey hmem
    | target ha hmem => exact .target ha hmem
    | group ha hmem => exact .group ha hmem
  | unknownFunction ha hunknown => exact haccepted (.unknownFunction ha hunknown)
  | faultyFilter hmem hf => exact (hreadable _ hmem).not_faulty hf
  | @noPath name hname hpath =>
    refine haccepted (.noPath ?_ hpath)
    cases hname with
    | table => exact .table
    | base hbase => exact .base (hconcerns t hbase)
    | target ha hmem => exact .target ha hmem
    | filter hmem =>
      obtain ⟨g, hg, hgf⟩ := hfield hmem
      exact hgf ▸ .filter hg
    | sortKey hmem => exact .sortKey hmem
    | label hbase hlabel => exact .label (hconcerns t hbase) hlabel
    | labelTable hbase hlabel => exact .labelTable (hconcerns t hbase) hlabel
    | labelTarget hbase hlabel => exact .labelTarget (hconcerns t hbase) hlabel

theorem select_around {s : Schema} {q : Query} {st : Statement} {earlier later : List Filter}
    {f : Filter} {operator : Operator} {value : String} (h : select s q = .ok st)
    (hfilters : q.allFilters = earlier ++ f :: later) (hf : Compares f operator value) :
    ∃ t, s.table? q.table = some t ∧
      st.sql = (spell (headTokens s t q) ++ Fragment.plain "\nWHERE "
        ++ (earlier.flatMap fun g => g.text ++ Fragment.plain " AND ") ++ memberText f.field
        ++ Fragment.plain (" " ++ operator.word ++ " ")
        ++ (question :: (later.flatMap fun g => Fragment.plain " AND " ++ g.text)
          ++ spell (tailTokens q))).text ∧
      st.params = earlier.filterMap parameterOf
        ++ boundValue operator value :: later.filterMap parameterOf := by
  obtain ⟨t, clause, ht, hselect, -, hsql⟩ := select_spelled h
  obtain ⟨hreadable, hparams⟩ := select_filters hselect
  refine ⟨t, ht, ?_, ?_⟩
  · rw [hsql, statementTokens, spell_append, spell_append, spell_conditions hreadable hfilters,
      text_of_isValued hf.isValued, hf.word]
    simp only [List.append_assoc, List.cons_append, List.nil_append]
  · rw [hparams, hfilters, List.filterMap_append, List.filterMap_cons_some hf.parameterOf_eq]

/-- A query that is planned with `not like` is planned with `like` as well. The statement differs in the
operator alone. The parameters are the same, and the two operators share out the rows whose field is not
null, just if the value holds a wildcard. -/
theorem select_like_of_notLike {s : Schema} {q : Query} {st : Statement} {place : Nat} {f : Filter}
    {value operator : String} (h : select s q = .ok st) (hf : q.allFilters[place]? = some f)
    (hnotLike : normalWord f.operator = "not like") (hvalue : f.value = some value)
    (hlike : normalWord operator = "like") :
    ∃ t st' earlier later before behind,
      s.table? q.table = some t ∧ select s (q.withOperator place operator) = .ok st' ∧
      q.allFilters = earlier ++ f :: later ∧ earlier.length = place ∧
      before = spell (headTokens s t q) ++ Fragment.plain "\nWHERE "
        ++ (earlier.flatMap fun g => g.text ++ Fragment.plain " AND ") ++ memberText f.field ∧
      behind = question :: (later.flatMap fun g => Fragment.plain " AND " ++ g.text)
        ++ spell (tailTokens q) ∧
      st.sql = (before ++ Fragment.plain " not like " ++ behind).text ∧
      st'.sql = (before ++ Fragment.plain " like " ++ behind).text ∧
      st.params = earlier.filterMap parameterOf ++ value :: later.filterMap parameterOf ∧
      st'.params =
        earlier.filterMap parameterOf ++ likePattern value :: later.filterMap parameterOf ∧
      (st'.params = st.params ↔ '%' ∈ value.toList) ∧
      ∀ weight, Complementary weight (likePattern value) value ↔ '%' ∈ value.toList := by
  obtain ⟨earlier, later, hplace, hfilters, hfilters'⟩ := Query.allFilters_withOperator operator hf
  have hcompares : Compares f .notLike value := ⟨hnotLike, rfl, hvalue⟩
  have hcompares' : Compares { f with operator } .like value := ⟨hlike, rfl, hvalue⟩
  obtain ⟨t, ht, hsql, hparams⟩ := select_around h hfilters hcompares
  obtain ⟨st', hst'⟩ : ∃ st', select s (q.withOperator place operator) = .ok st' := by
    obtain ⟨_, _, _, hselect, -⟩ := select_spelled h
    have hreadable := (select_filters hselect).1
    rw [hfilters, List.forall_mem_append, List.forall_mem_cons] at hreadable
    have hmodified : q.allFilters.modify place (fun f => { f with operator }) =
        earlier ++ { f with operator } :: later := hfilters'
    refine exists_select_of_fields h ?_ ?_
    · rw [hmodified, hfilters, List.map_append, List.map_append, List.map_cons, List.map_cons]
    · rw [hmodified, List.forall_mem_append, List.forall_mem_cons]
      exact ⟨hreadable.1, hcompares'.readable, hreadable.2.2⟩
  obtain ⟨t', ht', hsql', hparams'⟩ := select_around hst' hfilters' hcompares'
  obtain rfl : t = t' := Option.some.inj (ht.symm.trans ht')
  refine ⟨t, st', earlier, later, _, _, ht, hst', hfilters, hplace, rfl, rfl, hsql, hsql', hparams,
    hparams', ?_, fun weight => complementary_likePattern_iff⟩
  have hlike : boundValue .like value = likePattern value := rfl
  have hnotLike : boundValue .notLike value = value := rfl
  rw [hparams, hparams', hlike, hnotLike, List.append_cancel_left_eq, List.cons_eq_cons,
    and_iff_left rfl, likePattern_eq_self_iff]

/-- Orders by their user. -/
def ordersByUser (operator value : String) : Query :=
  { Query.ofTable "orders" with
    columns := some ["number"], filters := some [⟨"user", operator, some value⟩] }

def ordersByUserStatement (operator value : String) : Statement where
  sql := "SELECT `number`\nFROM `orders`\nWHERE `user` " ++ operator ++ " ?\nLIMIT 300"
  params := [value]

theorem select_like_of_notLike_orders :
    select (userSchema "orders") (ordersByUser " NOT like" "A%") =
        .ok (ordersByUserStatement "not like" "A%") ∧
      ∃ st', select (userSchema "orders") (ordersByUser "Like" "A%") = .ok st' ∧
        st'.params = ["A%"] ∧ ∀ weight, Complementary weight (likePattern "A%") "A%" := by
  have hplan : select (userSchema "orders") (ordersByUser " NOT like" "A%") =
      .ok (ordersByUserStatement "not like" "A%") := eq_ok_of_toOption (by decide +kernel)
  have hwildcard : '%' ∈ "A%".toList := by decide
  obtain ⟨_, st', _, _, _, _, -, hst', -, -, -, -, -, -, -, -, hparams, hcompl⟩ :=
    @select_like_of_notLike _ _ _ 0 _ "A%" "Like" hplan rfl (by decide +kernel) rfl (by decide +kernel)
  exact ⟨hplan, st', hst', hparams.2 hwildcard, fun weight => (hcompl weight).2 hwildcard⟩

/-- A user whose name is in the text of a field but is not all of it is selected by both operators. -/
theorem notLike_without_wildcards :
    select (userSchema "orders") (ordersByUser "not like" "Ann") =
        .ok (ordersByUserStatement "not like" "Ann") ∧
      select (userSchema "orders") (ordersByUser "like" "Ann") =
        .ok (ordersByUserStatement "like" "%Ann%") ∧
      (ordersByUserStatement "not like" "Ann").params ≠ (ordersByUserStatement "like" "%Ann%").params ∧
      ∀ weight, ¬Complementary weight "%Ann%" "Ann" := by
  have hnone : '%' ∉ "Ann".toList := by decide
  refine ⟨eq_ok_of_toOption (by decide +kernel), eq_ok_of_toOption (by decide +kernel), by decide,
    fun weight hcompl => hnone ?_⟩
  exact complementary_likePattern_iff.1 hcompl

end Plan

end TableAtlas
