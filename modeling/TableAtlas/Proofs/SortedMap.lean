import Mathlib.Data.List.Dedup
import Mathlib.Data.List.Induction
import Mathlib.Data.List.Nodup
import TableAtlas.SortedMap

/-!
# Contents of sorted maps

What a map holds, seen from its entries and from the list it was made of.
-/

namespace TableAtlas.SortedMap

variable {α β : Type}

/-! ## Entries -/

theorem lookupEntry_eq_some_iff {name : String} {value : α} {entries : List (String × α)}
    (h : entries.Pairwise fun a b => a.1 < b.1) :
    lookupEntry name entries = some value ↔ (name, value) ∈ entries := by
  induction entries with
  | nil => simp [lookupEntry]
  | cons first rest ih =>
    obtain ⟨hfirst, hrest⟩ := List.pairwise_cons.1 h
    rw [lookupEntry, List.mem_cons]
    by_cases hname : first.1 = name
    · have hnot : (name, value) ∉ rest := fun hmem =>
        String.lt_irrefl _ (hname ▸ hfirst _ hmem)
      rw [if_pos hname, Option.some_inj, or_iff_left hnot, ← hname]
      exact ⟨fun hvalue => Prod.ext rfl hvalue.symm, fun heq => congrArg Prod.snd heq.symm⟩
    · have hne : (name, value) ≠ first := fun heq => hname (heq ▸ rfl)
      rw [if_neg hname, ih hrest, or_iff_right hne]

theorem mem_entries_iff {m : SortedMap α} {name : String} {value : α} :
    (name, value) ∈ m.entries ↔ m.get? name = some value :=
  (lookupEntry_eq_some_iff m.ascending).symm

theorem mem_values_iff {m : SortedMap α} {value : α} :
    value ∈ m.values ↔ ∃ name, m.get? name = some value := by
  simp only [values, List.mem_map, ← mem_entries_iff, Prod.exists, exists_eq_right]

theorem nodup_keys (m : SortedMap α) : m.keys.Nodup := by
  rw [keys, List.Nodup, List.pairwise_map]
  exact m.ascending.imp fun {a b} hlt (heq : a.1 = b.1) => String.lt_irrefl _ (heq ▸ hlt)

theorem contains_iff {m : SortedMap α} {name : String} :
    m.contains name ↔ ∃ value, m.get? name = some value := by
  rw [contains, Option.isSome_iff_exists]

@[simp] theorem contains_map (f : String → α → β) (m : SortedMap α) (name : String) :
    (m.map f).contains name = m.contains name := by
  rw [contains, contains, get?_map, Option.isSome_map]

/-! ## Maps made of lists -/

theorem get?_ofList (entries : List (String × α)) (name : String) :
    (ofList entries).get? name =
      (entries.reverse.find? fun entry => entry.1 = name).map Prod.snd := by
  induction entries using List.reverseRecOn with
  | nil => rfl
  | append_singleton entries entry ih =>
    have hinsert : ofList (entries ++ [entry]) = (ofList entries).insert entry.1 entry.2 := by
      rw [ofList, List.foldl_append]
      rfl
    rw [hinsert, get?_insert, List.reverse_append, List.reverse_singleton, List.singleton_append,
      List.find?_cons, ih]
    by_cases hname : entry.1 = name
    · simp [hname]
    · simp [hname]

theorem mem_of_get?_ofList {entries : List (String × α)} {name : String} {value : α}
    (h : (ofList entries).get? name = some value) : (name, value) ∈ entries := by
  rw [get?_ofList, Option.map_eq_some_iff] at h
  obtain ⟨entry, hentry, rfl⟩ := h
  have hname : entry.1 = name := by simpa using List.find?_some hentry
  have hmem := List.mem_reverse.1 (List.mem_of_find?_eq_some hentry)
  exact hname ▸ hmem

theorem get?_ofList_eq_some_iff {entries : List (String × α)} (h : (entries.map Prod.fst).Nodup)
    {name : String} {value : α} :
    (ofList entries).get? name = some value ↔ (name, value) ∈ entries := by
  constructor
  · exact mem_of_get?_ofList
  · intro hmem
    have hfound : (entries.reverse.find? fun entry => entry.1 = name).isSome := by
      rw [List.find?_isSome]
      exact ⟨(name, value), List.mem_reverse.2 hmem, by simp⟩
    obtain ⟨entry, hentry⟩ := Option.isSome_iff_exists.1 hfound
    have hname : entry.1 = name := by simpa using List.find?_some hentry
    have hmem' := List.mem_reverse.1 (List.mem_of_find?_eq_some hentry)
    have heq : entry = (name, value) := List.inj_on_of_nodup_map h hmem' hmem hname
    rw [get?_ofList, hentry, heq, Option.map_some]

theorem entries_ofList_perm {entries : List (String × α)} (h : (entries.map Prod.fst).Nodup) :
    (ofList entries).entries.Perm entries := by
  have hkeys : ((ofList entries).entries.map Prod.fst).Nodup := nodup_keys _
  refine (List.perm_ext_iff_of_nodup hkeys.of_map h.of_map).2 fun entry => ?_
  rw [mem_entries_iff, get?_ofList_eq_some_iff h]

/-- If no name comes twice, the order of the list is lost. -/
theorem ofList_eq_of_perm {entries others : List (String × α)}
    (h : (entries.map Prod.fst).Nodup) (hperm : others.Perm entries) :
    ofList others = ofList entries := by
  have hothers : (others.map Prod.fst).Nodup := (hperm.map Prod.fst).nodup_iff.2 h
  ext name value
  rw [get?_ofList_eq_some_iff hothers, get?_ofList_eq_some_iff h, hperm.mem_iff]

theorem ofList_entries (m : SortedMap α) : ofList m.entries = m := by
  ext name value
  rw [get?_ofList_eq_some_iff m.nodup_keys, mem_entries_iff]

theorem contains_ofList (entries : List (String × α)) (name : String) :
    (ofList entries).contains name = entries.any fun entry => entry.1 = name := by
  rw [contains, get?_ofList, Option.isSome_map, List.isSome_find?, List.any_reverse]

theorem length_keys_eq_iff {m : SortedMap α} {names : List String}
    (h : ∀ name, m.contains name ↔ name ∈ names) :
    m.keys.length = names.length ↔ names.Nodup := by
  have hkeys : m.keys.Perm names.dedup := by
    refine (List.perm_ext_iff_of_nodup m.nodup_keys names.nodup_dedup).2 fun name => ?_
    rw [List.mem_dedup, ← h, contains_iff, keys, List.mem_map]
    constructor
    · rintro ⟨⟨_, value⟩, hmem, rfl⟩
      exact ⟨value, mem_entries_iff.1 hmem⟩
    · rintro ⟨value, hvalue⟩
      exact ⟨(name, value), mem_entries_iff.2 hvalue, rfl⟩
  rw [hkeys.length_eq]
  constructor
  · intro hlength
    exact List.dedup_eq_self.1 (names.dedup_sublist.eq_of_length hlength)
  · intro hnodup
    rw [List.dedup_eq_self.2 hnodup]

end TableAtlas.SortedMap
