import TableAtlas.Explorer
import TableAtlas.Proofs.Number
import TableAtlas.Proofs.Schema.RoundTrip

/-!
# Published answers

What is published of an answer: a schema as its codec writes it, rows as objects beside the names of their
columns, counts as whole numbers under the names of the columns that refer. Nothing of an answer is lost
by it (`Answer.Publishes.unique`).
-/

namespace TableAtlas

/-- A count as a member of an object. -/
structure PublishesCount (count : String × Int64) (member : String × Json) : Prop where
  name : member.1 = count.1
  value : ∃ n, member.2 = .number n ∧ n.toInt? = some count.2.toInt

/-- The data publish the answer. -/
def Answer.Publishes (data : Json) : Answer → Prop
  | schema s => data = Schema.codec.encode s
  | selection s => data = .object [("columns", .array (s.columns.map .string)),
      ("rows", .array (s.rows.map fun row => .object row.cells))]
  | counts c => ∃ members, data = .object members ∧ List.Forall₂ PublishesCount c.entries members

namespace Answer

theorem encode_schema (s : Schema) : Schema.codec.encode s =
    .object [("name", .string s.name), ("dbType", Flavor.codec.encode s.flavor),
      ("tables", (Codec.sortedMap Table.codec).encode s.tables)] := rfl

theorem eq_of_encode_eq {s s' : Schema} (h : Schema.codec.encode s = Schema.codec.encode s') :
    s = s' := by
  have hread := Schema.codec_lawful s
  rw [h, Schema.codec_lawful s'] at hread
  exact (Except.ok.inj hread).symm

theorem eq_of_publishesCount {count count' : String × Int64} {member : String × Json}
    (h : PublishesCount count member) (h' : PublishesCount count' member) : count = count' := by
  obtain ⟨hname, n, hvalue, hn⟩ := h
  obtain ⟨hname', n', hvalue', hn'⟩ := h'
  obtain rfl := Json.number.inj (hvalue.symm.trans hvalue')
  refine Prod.ext (hname.symm.trans hname') (Int64.toInt_inj.1 ?_)
  exact Option.some.inj (hn.symm.trans hn')

theorem eq_of_publishesCounts {counts counts' : List (String × Int64)}
    {members : List (String × Json)} (h : List.Forall₂ PublishesCount counts members)
    (h' : List.Forall₂ PublishesCount counts' members) : counts = counts' := by
  induction h generalizing counts' with
  | nil => exact (List.forall₂_nil_right_iff.1 h').symm
  | cons hcount _ ih =>
    obtain ⟨count', rest', hcount', hrest', rfl⟩ := List.forall₂_cons_right_iff.1 h'
    rw [eq_of_publishesCount hcount hcount', ih hrest']

theorem not_publishes_counts {data : Json} {name : String} {value : Json}
    {members : List (String × Json)} (hdata : data = .object ((name, value) :: members))
    (hvalue : ∀ n, value ≠ .number n) (c : ReferenceCounts) : ¬(counts c).Publishes data := by
  rintro ⟨members', hmembers, h⟩
  obtain rfl := Json.object.inj (hdata.symm.trans hmembers)
  obtain ⟨count, rest, hcount, -, -⟩ := List.forall₂_cons_right_iff.1 h
  obtain ⟨n, hn, -⟩ := hcount.value
  exact hvalue n hn

/-- Published data belong to one answer. -/
theorem Publishes.unique {answer answer' : Answer} {data : Json} (h : answer.Publishes data)
    (h' : answer'.Publishes data) : answer = answer' := by
  cases answer with
  | schema s =>
    cases answer' with
    | schema s' => exact congrArg schema (eq_of_encode_eq (h.symm.trans h'))
    | selection t => exact absurd (h.symm.trans h') (by simp [encode_schema])
    | counts c => exact absurd h' (not_publishes_counts (h.trans (encode_schema s)) nofun c)
  | selection t =>
    cases answer' with
    | schema s => exact absurd (h.symm.trans h') (by simp [encode_schema])
    | selection t' =>
      obtain ⟨columns, rows⟩ := t
      obtain ⟨columns', rows'⟩ := t'
      have hstring : Function.Injective Json.string := fun _ _ => Json.string.inj
      have hrow : Function.Injective fun row : Row => Json.object row.cells := by
        rintro ⟨cells, _⟩ ⟨cells', _⟩ hcells
        cases hcells
        rfl
      have hdata := h.symm.trans h'
      simp only [Json.object.injEq, List.cons.injEq, Prod.mk.injEq, Json.array.injEq, true_and,
        and_true] at hdata
      rw [hstring.list_map hdata.1, hrow.list_map hdata.2]
    | counts c => exact absurd h' (not_publishes_counts h nofun c)
  | counts c =>
    cases answer' with
    | schema s => exact absurd h (not_publishes_counts (h'.trans (encode_schema s)) nofun c)
    | selection t => exact absurd h (not_publishes_counts h' nofun c)
    | counts c' =>
      obtain ⟨members, rfl, hcounts⟩ := h
      obtain ⟨members', hmembers, hcounts'⟩ := h'
      obtain rfl := Json.object.inj hmembers
      have hentries := eq_of_publishesCounts hcounts hcounts'
      rw [← SortedMap.ofList_entries c, hentries, SortedMap.ofList_entries]

end Answer

end TableAtlas
