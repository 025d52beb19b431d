import Mathlib.Data.List.Induction
import Mathlib.Data.List.Nodup
import TableAtlas.Mysql.Client
import TableAtlas.Proofs.Result

/-!
# Contents of rows

What a row holds under a name, seen from the columns and values that it was made of: a name that comes
twice holds the value that came last. So a column of an answer is found in its row just if no later
column has its name.
-/

namespace TableAtlas.Row

theorem get?_of_mem_cells {row : Row} {cell : String × Json} (h : cell ∈ row.cells) :
    row.get? cell.1 = some cell.2 := by
  obtain ⟨found, hfound⟩ := Option.isSome_iff_exists.1
    (List.find?_isSome (p := fun other => decide (other.1 = cell.1)).2 ⟨cell, h, by simp⟩)
  have hname : found.1 = cell.1 := by simpa using List.find?_some hfound
  obtain rfl := List.inj_on_of_nodup_map row.distinct (List.mem_of_find?_eq_some hfound) h hname
  rw [Row.get?, hfound, Option.map_some]

theorem find?_setMember (name other : String) (value : Json) (cells : List (String × Json)) :
    ((Json.setMember name value cells).find? (·.1 = other)).map Prod.snd =
      if name = other then some value else (cells.find? (·.1 = other)).map Prod.snd := by
  induction cells with
  | nil => by_cases h : name = other <;> simp [Json.setMember, h]
  | cons cell cells ih =>
    rw [Json.setMember]
    by_cases hcell : cell.1 = name
    · rw [if_pos hcell]
      by_cases h : name = other
      · simp [h]
      · simp [hcell, h]
    · rw [if_neg hcell]
      by_cases h : cell.1 = other
      · have hne : name ≠ other := fun heq => hcell (h.trans heq.symm)
        simp [h, hne]
      · simp only [List.find?_cons, h, decide_false]
        exact ih

theorem get?_insert (r : Row) (name other : String) (value : Json) :
    (r.insert name value).get? other = if name = other then some value else r.get? other :=
  find?_setMember name other value r.cells

theorem ofPairs_append_singleton (pairs : List (String × Json)) (pair : String × Json) :
    ofPairs (pairs ++ [pair]) = (ofPairs pairs).insert pair.1 pair.2 := by
  rw [ofPairs, List.foldl_append]
  rfl

/-- The last pair of a name counts. -/
theorem get?_ofPairs (pairs : List (String × Json)) (name : String) :
    (ofPairs pairs).get? name = (pairs.reverse.find? (·.1 = name)).map Prod.snd := by
  induction pairs using List.reverseRecOn with
  | nil => rfl
  | append_singleton pairs pair ih =>
    rw [ofPairs_append_singleton, get?_insert, List.reverse_append, List.reverse_singleton,
      List.singleton_append, List.find?_cons, ih]
    by_cases hname : pair.1 = name
    · simp [hname]
    · simp [hname]

theorem get?_ofPairs_append_cons {earlier later : List (String × Json)} {name : String}
    (value : Json) (h : name ∉ later.map Prod.fst) :
    (ofPairs (earlier ++ (name, value) :: later)).get? name = some value := by
  have hlater : later.reverse.find? (·.1 = name) = none := by
    rw [List.find?_eq_none]
    intro pair hpair hname
    exact h (List.mem_map.2 ⟨pair, List.mem_reverse.1 hpair, by simpa using hname⟩)
  rw [get?_ofPairs, List.reverse_append, List.reverse_cons, List.append_assoc, List.find?_append,
    hlater]
  simp

end TableAtlas.Row

/-! ## Rows of an answer -/

namespace TableAtlas.Mysql.Client

variable {κ ν : Type}

/-- The JSON of the value in one place of a row of an answer. -/
def valueAt? (client : Client κ ν) (places : List (κ × ν)) (i : Nat) :
    Option (Except DatabaseError Json) :=
  places[i]?.map fun place => client.toJson place.1 place.2

/-- The row holds the value of one place under a name. -/
def Holds (client : Client κ ν) (places : List (κ × ν)) (row : Row) (i : Nat) (name : String) : Prop :=
  ∃ value, client.valueAt? places i = some (.ok value) ∧ row.get? name = some value

section Rows

variable {client : Client κ ν} {places : List (κ × ν)} {row : Row}

theorem rowToJson_eq_ok_iff :
    client.rowToJson places = .ok row ↔
      ∃ pairs, List.Forall₂ (fun place pair => pair.1 = client.name place.1 ∧
        client.toJson place.1 place.2 = .ok pair.2) places pairs ∧ Row.ofPairs pairs = row := by
  simp only [rowToJson, bind_eq_ok_iff, pure_eq_ok_iff, mapM_eq_ok_iff]
  refine exists_congr fun pairs => and_congr_left fun _ => ?_
  have hplace : ∀ (place : κ × ν) (pair : String × Json),
      (∃ value, client.toJson place.1 place.2 = .ok value ∧ (client.name place.1, value) = pair) ↔
        pair.1 = client.name place.1 ∧ client.toJson place.1 place.2 = .ok pair.2 := by
    rintro place ⟨name, value⟩
    simp only [Prod.mk.injEq]
    constructor
    · rintro ⟨_, hvalue, rfl, rfl⟩
      exact ⟨rfl, hvalue⟩
    · rintro ⟨rfl, hvalue⟩
      exact ⟨value, hvalue, rfl, rfl⟩
  simp only [hplace]

theorem map_fst_of_forall₂ {pairs : List (String × Json)}
    (hpairs : List.Forall₂ (fun place pair => pair.1 = client.name place.1 ∧
      client.toJson place.1 place.2 = .ok pair.2) places pairs) :
    pairs.map Prod.fst = places.map fun place => client.name place.1 :=
  (map_eq_map_of_forall₂ hpairs fun _ _ hpair => hpair.1.symm).symm

theorem exists_rowToJson (h : ∀ place ∈ places, ∃ value, client.toJson place.1 place.2 = .ok value) :
    ∃ row, client.rowToJson places = .ok row := by
  simp only [rowToJson, bind_eq_ok_iff, pure_eq_ok_iff]
  obtain ⟨pairs, hpairs⟩ := (exists_mapM_iff (f := fun place : κ × ν =>
      client.toJson place.1 place.2 >>= fun value => pure (client.name place.1, value))).2
    fun place hplace => by
      obtain ⟨value, hvalue⟩ := h place hplace
      exact ⟨_, bind_eq_ok_iff.2 ⟨value, hvalue, rfl⟩⟩
  exact ⟨_, pairs, hpairs, rfl⟩

/-- A column keeps its value in the row if no later column has its name. -/
theorem holds_rowToJson (h : client.rowToJson places = .ok row) {earlier later : List String}
    {name : String} (hnames : places.map (fun place => client.name place.1) = earlier ++ name :: later)
    (hlater : name ∉ later) : client.Holds places row earlier.length name := by
  obtain ⟨pairs, hpairs, rfl⟩ := rowToJson_eq_ok_iff.1 h
  have hsplit : pairs.map Prod.fst = earlier ++ name :: later :=
    (map_fst_of_forall₂ hpairs).trans hnames
  obtain ⟨before, rest, rfl, rfl, hrest⟩ := List.map_eq_append_iff.1 hsplit
  obtain ⟨pair, after, rfl, rfl, rfl⟩ := List.map_eq_cons_iff.1 hrest
  have hi : before.length < (before ++ pair :: after).length := by simp
  have hplace : before.length < places.length := hpairs.length_eq ▸ hi
  have hvalue : client.toJson places[before.length].1 places[before.length].2 =
      .ok (before ++ pair :: after)[before.length].2 := (hpairs.get hplace hi).2
  refine ⟨pair.2, ?_, Row.get?_ofPairs_append_cons pair.2 hlater⟩
  rw [List.length_map, valueAt?, List.getElem?_eq_getElem hplace, Option.map_some, hvalue]
  simp

end Rows

end TableAtlas.Mysql.Client
