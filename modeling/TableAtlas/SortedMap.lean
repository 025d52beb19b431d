/-!
# Maps sorted by name

A map from names to values, held as the list of its entries in strictly ascending order of their
names. Names are ordered by code point. Two maps that answer every look-up alike are equal, so
equality of maps is equality of contents.
-/

namespace TableAtlas

/-- A finite map whose entries stand in strictly ascending order of their names. -/
structure SortedMap (α : Type) where
  entries : List (String × α)
  ascending : entries.Pairwise fun a b => a.1 < b.1

namespace SortedMap

variable {α β : Type}

/-! ## Entry lists -/

/-- Puts an entry in its place, in the stead of an entry of the same name. -/
def insertEntry (name : String) (value : α) : List (String × α) → List (String × α)
  | [] => [(name, value)]
  | entry :: rest =>
    if name < entry.1 then (name, value) :: entry :: rest
    else if name = entry.1 then (name, value) :: rest
    else entry :: insertEntry name value rest

/-- The value of the first entry of a name. -/
def lookupEntry (name : String) : List (String × α) → Option α
  | [] => none
  | entry :: rest => if entry.1 = name then some entry.2 else lookupEntry name rest

theorem mem_insertEntry {name : String} {value : α} {entry : String × α}
    {entries : List (String × α)} (h : entry ∈ insertEntry name value entries) :
    entry = (name, value) ∨ entry ∈ entries := by
  induction entries with
  | nil => simpa [insertEntry] using h
  | cons first rest ih =>
    simp only [insertEntry] at h
    split at h
    · simpa using h
    · split at h
      · rcases List.mem_cons.1 h with rfl | h
        · exact .inl rfl
        · exact .inr (List.mem_cons_of_mem _ h)
      · rcases List.mem_cons.1 h with rfl | h
        · exact .inr List.mem_cons_self
        · exact (ih h).imp_right (List.mem_cons_of_mem _)

theorem lt_of_not_lt_of_ne {a b : String} (h : ¬a < b) (hne : a ≠ b) : b < a := by
  rcases Decidable.em (b < a) with hba | hba
  · exact hba
  · exact absurd (String.le_antisymm (String.not_lt.1 hba) (String.not_lt.1 h)) hne

theorem ascending_insertEntry (name : String) (value : α) {entries : List (String × α)}
    (h : entries.Pairwise fun a b => a.1 < b.1) :
    (insertEntry name value entries).Pairwise fun a b => a.1 < b.1 := by
  induction entries with
  | nil => simp [insertEntry]
  | cons first rest ih =>
    obtain ⟨hfirst, hrest⟩ := List.pairwise_cons.1 h
    simp only [insertEntry]
    split
    · next hlt =>
      refine List.pairwise_cons.2 ⟨fun entry hentry => ?_, h⟩
      rcases List.mem_cons.1 hentry with rfl | hentry
      · exact hlt
      · exact String.lt_trans hlt (hfirst entry hentry)
    · next hlt =>
      split
      · next heq =>
        exact List.pairwise_cons.2 ⟨fun entry hentry => heq ▸ hfirst entry hentry, hrest⟩
      · next hne =>
        refine List.pairwise_cons.2 ⟨fun entry hentry => ?_, ih hrest⟩
        rcases mem_insertEntry hentry with rfl | hentry
        · exact lt_of_not_lt_of_ne hlt hne
        · exact hfirst entry hentry

@[simp] theorem lookupEntry_insertEntry_self (name : String) (value : α)
    (entries : List (String × α)) :
    lookupEntry name (insertEntry name value entries) = some value := by
  induction entries with
  | nil => simp [insertEntry, lookupEntry]
  | cons first rest ih =>
    simp only [insertEntry]
    split
    · simp [lookupEntry]
    · split
      · simp [lookupEntry]
      · next hne => simp [lookupEntry, Ne.symm hne, ih]

theorem lookupEntry_insertEntry_of_ne {name other : String} (value : α)
    (entries : List (String × α)) (h : name ≠ other) :
    lookupEntry other (insertEntry name value entries) = lookupEntry other entries := by
  induction entries with
  | nil => simp [insertEntry, lookupEntry, h]
  | cons first rest ih =>
    simp only [insertEntry]
    split
    · simp [lookupEntry, h]
    · split
      · next heq => simp [lookupEntry, ← heq, h]
      · by_cases hfirst : first.1 = other <;> simp [lookupEntry, hfirst, ih]

theorem lookupEntry_map (f : String → α → β) (name : String) (entries : List (String × α)) :
    lookupEntry name (entries.map fun entry => (entry.1, f entry.1 entry.2)) =
      (lookupEntry name entries).map (f name) := by
  induction entries with
  | nil => rfl
  | cons first rest ih =>
    by_cases h : first.1 = name
    · subst h
      simp [lookupEntry]
    · simp [lookupEntry, h, ih]

theorem lookupEntry_eq_none_of_lt {name : String} {entries : List (String × α)}
    (h : ∀ entry ∈ entries, name < entry.1) : lookupEntry name entries = none := by
  induction entries with
  | nil => rfl
  | cons first rest ih =>
    have hne : first.1 ≠ name := fun heq =>
      String.lt_irrefl _ (heq ▸ h first List.mem_cons_self)
    simp [lookupEntry, hne, ih fun entry hentry => h entry (List.mem_cons_of_mem _ hentry)]

theorem entries_eq_of_lookupEntry_eq {entries others : List (String × α)}
    (h : entries.Pairwise fun a b => a.1 < b.1) (h' : others.Pairwise fun a b => a.1 < b.1)
    (heq : ∀ name, lookupEntry name entries = lookupEntry name others) : entries = others := by
  induction entries generalizing others with
  | nil =>
    cases others with
    | nil => rfl
    | cons other rest => simpa [lookupEntry] using heq other.1
  | cons first rest ih =>
    cases others with
    | nil => simpa [lookupEntry] using heq first.1
    | cons other others =>
      obtain ⟨hfirst, hrest⟩ := List.pairwise_cons.1 h
      obtain ⟨hother, hothers⟩ := List.pairwise_cons.1 h'
      have hname : first.1 = other.1 := by
        rcases Decidable.em (first.1 = other.1) with hn | hn
        · exact hn
        · rcases Decidable.em (first.1 < other.1) with hlt | hlt
          · have := heq first.1
            simp [lookupEntry, Ne.symm hn,
              lookupEntry_eq_none_of_lt fun e he => String.lt_trans hlt (hother e he)] at this
          · have hgt := lt_of_not_lt_of_ne hlt hn
            have := heq other.1
            simp [lookupEntry, hn,
              lookupEntry_eq_none_of_lt fun e he => String.lt_trans hgt (hfirst e he)] at this
      have hvalue : first.2 = other.2 := by
        have := heq first.1
        simpa [lookupEntry, hname] using this
      have hentry : first = other := Prod.ext hname hvalue
      subst hentry
      refine congrArg _ (ih hrest hothers fun name => ?_)
      by_cases hn : first.1 = name
      · subst hn
        rw [lookupEntry_eq_none_of_lt hfirst, lookupEntry_eq_none_of_lt hother]
      · simpa [lookupEntry, hn] using heq name

/-! ## Maps -/

def empty : SortedMap α := ⟨[], .nil⟩

instance : EmptyCollection (SortedMap α) := ⟨empty⟩

instance : Inhabited (SortedMap α) := ⟨empty⟩

def get? (m : SortedMap α) (name : String) : Option α :=
  lookupEntry name m.entries

def contains (m : SortedMap α) (name : String) : Bool :=
  (m.get? name).isSome

def insert (m : SortedMap α) (name : String) (value : α) : SortedMap α :=
  ⟨insertEntry name value m.entries, ascending_insertEntry name value m.ascending⟩

/-- The map of a list of entries; of two entries of one name the later counts. -/
def ofList (entries : List (String × α)) : SortedMap α :=
  entries.foldl (fun m entry => m.insert entry.1 entry.2) empty

/-- Applies a function to every entry and keeps the names. -/
def map (f : String → α → β) (m : SortedMap α) : SortedMap β :=
  ⟨m.entries.map fun entry => (entry.1, f entry.1 entry.2),
    List.pairwise_map.2 m.ascending⟩

/-- Changes the value of one name; nothing happens when the map lacks it. -/
def modify (m : SortedMap α) (name : String) (f : α → α) : SortedMap α :=
  m.map fun key value => if key = name then f value else value

def keys (m : SortedMap α) : List String :=
  m.entries.map Prod.fst

def values (m : SortedMap α) : List α :=
  m.entries.map Prod.snd

@[ext] theorem ext {m n : SortedMap α} (h : ∀ name, m.get? name = n.get? name) : m = n := by
  obtain ⟨entries, ascending⟩ := m
  obtain ⟨others, ascending'⟩ := n
  obtain rfl := entries_eq_of_lookupEntry_eq ascending ascending' h
  rfl

@[simp] theorem get?_empty (name : String) : (∅ : SortedMap α).get? name = none := rfl

@[simp] theorem get?_insert_self (m : SortedMap α) (name : String) (value : α) :
    (m.insert name value).get? name = some value :=
  lookupEntry_insertEntry_self name value m.entries

theorem get?_insert_of_ne (m : SortedMap α) {name other : String} (value : α)
    (h : name ≠ other) : (m.insert name value).get? other = m.get? other :=
  lookupEntry_insertEntry_of_ne value m.entries h

theorem get?_insert (m : SortedMap α) (name other : String) (value : α) :
    (m.insert name value).get? other = if name = other then some value else m.get? other := by
  split
  · next h => simp [h]
  · next h => exact get?_insert_of_ne m value h

@[simp] theorem get?_map (f : String → α → β) (m : SortedMap α) (name : String) :
    (m.map f).get? name = (m.get? name).map (f name) :=
  lookupEntry_map f name m.entries

theorem get?_modify (m : SortedMap α) (name other : String) (f : α → α) :
    (m.modify name f).get? other =
      (m.get? other).map fun value => if other = name then f value else value := by
  simp [modify]

instance [DecidableEq α] : DecidableEq (SortedMap α) := fun m n =>
  if h : m.entries = n.entries then
    isTrue (by cases m; cases n; cases h; rfl)
  else
    isFalse fun heq => h (congrArg entries heq)

end SortedMap

end TableAtlas
