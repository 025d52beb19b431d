import TableAtlas.Json.Value

/-!
# Rows

A result row gives a value to each of its columns, in the order in which the database named them. A
column that comes again keeps its first place and takes the last value.
-/

namespace TableAtlas

/-- The cells of a row; no column comes twice. -/
structure Row where
  cells : List (String × Json)
  distinct : (cells.map Prod.fst).Nodup

namespace Row

theorem map_fst_setMember (name : String) (value : Json) (cells : List (String × Json)) :
    (Json.setMember name value cells).map Prod.fst =
      if name ∈ cells.map Prod.fst then cells.map Prod.fst else cells.map Prod.fst ++ [name] := by
  induction cells with
  | nil => simp [Json.setMember]
  | cons cell rest ih =>
    simp only [Json.setMember]
    by_cases h : cell.1 = name
    · simp [h]
    · rw [if_neg h, List.map_cons, ih]
      by_cases hrest : name ∈ rest.map Prod.fst <;> simp_all [Ne.symm h]

theorem distinct_setMember (name : String) (value : Json) {cells : List (String × Json)}
    (h : (cells.map Prod.fst).Nodup) : ((Json.setMember name value cells).map Prod.fst).Nodup := by
  rw [map_fst_setMember]
  split
  · exact h
  · next hname =>
    refine List.nodup_append.2 ⟨h, by simp, fun a ha b hb => ?_⟩
    rw [List.mem_singleton.1 hb]
    exact fun heq => hname (heq ▸ ha)

def empty : Row := ⟨[], by simp⟩

instance : Inhabited Row := ⟨empty⟩

def insert (r : Row) (name : String) (value : Json) : Row :=
  ⟨Json.setMember name value r.cells, distinct_setMember name value r.distinct⟩

/-- The row of pairs of column and value as they come. -/
def ofPairs (pairs : List (String × Json)) : Row :=
  pairs.foldl (fun r pair => r.insert pair.1 pair.2) empty

def columns (r : Row) : List String :=
  r.cells.map Prod.fst

def get? (r : Row) (name : String) : Option Json :=
  (r.cells.find? (·.1 = name)).map Prod.snd

def toJson (r : Row) : Json :=
  .object r.cells

end Row

end TableAtlas
