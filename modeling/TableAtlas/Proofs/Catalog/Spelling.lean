import Mathlib.Data.List.TakeWhile
import TableAtlas.Proofs.Catalog.Faults
import TableAtlas.Proofs.Catalog.Numbers

/-!
# How servers spell a catalog

Servers and their versions differ in how they send the rows of a catalog: in the case of the headers, in
the order of the cells, in numbers that come as numbers or as text, and in the words for a truth value.
Here it is told when two rows say the same, and the schema is shown to depend on what the rows say alone
(`buildSchema_of_same`).
-/

namespace TableAtlas

open Text (eqIgnoringCase)

/-! ## Numerals between blanks -/

namespace Text

theorem not_isBlank_of_isDigit {c : Char} (h : c.isDigit) : ¬isBlank c := by
  have hrange : 48 ≤ c.toNat ∧ c.toNat ≤ 57 := by
    simpa [Char.isDigit, UInt32.le_iff_toNat_le] using h
  simp only [isBlank, blankRanges, List.any_cons, List.any_nil, Bool.or_eq_true, Bool.and_eq_true,
    decide_eq_true_eq, Bool.or_false]
  omega

theorem Numeral.not_isBlank {cs : List Char} {n : Nat} (h : Numeral cs n) :
    ∀ c ∈ cs, ¬isBlank c := by
  obtain ⟨digits, -, hdigits, rfl | rfl, -⟩ := h
  · exact fun c hc => not_isBlank_of_isDigit (hdigits c hc)
  · exact List.forall_mem_cons.2 ⟨by decide, fun c hc => not_isBlank_of_isDigit (hdigits c hc)⟩

theorem Numeral.ne_nil {cs : List Char} {n : Nat} (h : Numeral cs n) : cs ≠ [] := by
  obtain ⟨digits, hne, -, rfl | rfl, -⟩ := h
  · exact hne
  · exact List.cons_ne_nil _ _

theorem toList_trim_of_blanks {s : String} {before cs after : List Char}
    (hs : s.toList = before ++ cs ++ after) (hne : cs ≠ []) (hbefore : ∀ c ∈ before, isBlank c)
    (hcs : ∀ c ∈ cs, ¬isBlank c) (hafter : ∀ c ∈ after, isBlank c) : (trim s).toList = cs := by
  obtain ⟨c, rest, rfl⟩ := List.exists_cons_of_ne_nil hne
  have hfirst : (before ++ (c :: rest) ++ after).dropWhile isBlank = c :: rest ++ after := by
    rw [List.append_assoc, List.dropWhile_append_of_pos hbefore]
    exact List.dropWhile_cons_of_neg (hcs c List.mem_cons_self)
  have hlast : ((c :: rest ++ after).reverse).dropWhile isBlank = (c :: rest).reverse := by
    rw [List.reverse_append, List.dropWhile_append_of_pos (by simpa using hafter)]
    refine List.dropWhile_eq_self_iff.2 fun hpos => hcs _ ?_
    exact List.mem_reverse.1 (List.getElem_mem hpos)
  rw [trim, String.toList_ofList, trimChars, hs, hfirst, hlast, List.reverse_reverse]

end Text

/-! ## Values -/

namespace Json

/-- A number as a server may send it: as such, as a float without a fraction, or as a numeral between
blanks. -/
inductive Writes (n : UInt64) : Json → Prop
  | natural : Writes n (.number (.natural n))
  | whole {x : Float} (hvalue : floatValue? x = some (n.toNat : ℚ)) : Writes n (.number (.real x))
  | numeral {s : String} (before digits after : List Char)
    (hs : s.toList = before ++ digits ++ after) (hbefore : ∀ c ∈ before, Text.isBlank c)
    (hdigits : Text.Numeral digits n.toNat) (hafter : ∀ c ∈ after, Text.isBlank c) :
    Writes n (.string s)

theorem Writes.cellNatural? {n : UInt64} {value : Json} (h : Writes n value) :
    value.cellNatural? = some n := by
  refine cellNatural?_eq_some_iff.2 ?_
  cases h with
  | natural => exact .natural n
  | whole hvalue =>
    have hlt : n.toNat < UInt64.size := n.toNat_lt
    refine .real hvalue (Nat.cast_nonneg _) ?_
    rw [Nat.floor_natCast, min_eq_left (by omega)]
  | numeral before digits after hs hbefore hdigits hafter =>
    refine .numeral ?_
    rwa [Text.toList_trim_of_blanks hs hdigits.ne_nil hbefore hdigits.not_isBlank hafter]

/-- A truth value as a server may send it: as a word in any case, as such, or as a number. -/
inductive Means : Bool → Json → Prop
  | yes {s : String} (h : eqIgnoringCase s "YES") : Means true (.string s)
  | no {s : String} (h : eqIgnoringCase s "NO") : Means false (.string s)
  | bool (b : Bool) : Means b (.bool b)
  | one : Means true (.number (.natural 1))
  | zero : Means false (.number (.natural 0))

theorem Means.cellFlag {b : Bool} {value : Json} (h : Means b value) : value.cellFlag = b := by
  cases h with
  | yes h => exact h
  | no h =>
    rw [Json.cellFlag, Text.eqIgnoringCase_congr h]
    rfl
  | bool b => rfl
  | one => rfl
  | zero => rfl

end Json

/-! ## Rows -/

namespace Row

/-- The fields of the catalog that hold numbers. -/
def numericFields : List String :=
  ["table_rows", "data_length", "index_length", "ordinal_position"]

def isNumeric (header : String) : Bool :=
  numericFields.any fun field => eqIgnoringCase header field

def isFlag (header : String) : Bool :=
  eqIgnoringCase header "is_nullable"

/-- Two values that say the same under a header. -/
inductive SameValue (header : String) : Json → Json → Prop
  | refl (value : Json) : SameValue header value value
  | number {n : UInt64} {value value' : Json} (hheader : isNumeric header) (h : value.Writes n)
    (h' : value'.Writes n) : SameValue header value value'
  | flag {b : Bool} {value value' : Json} (hheader : isFlag header) (h : value.Means b)
    (h' : value'.Means b) : SameValue header value value'

/-- Two cells that say the same; their headers may differ in case. -/
structure SameCell (cell cell' : String × Json) : Prop where
  header : eqIgnoringCase cell.1 cell'.1
  value : SameValue cell.1 cell.2 cell'.2

/-- Two rows that say the same; their cells may come in different orders. -/
def Same (r r' : Row) : Prop :=
  ∃ cells, cells.Perm r.cells ∧ List.Forall₂ SameCell cells r'.cells

theorem Same.refl (r : Row) : r.Same r :=
  ⟨r.cells, .refl _, List.forall₂_same.2 fun _ _ => ⟨Text.eqIgnoringCase_self _, .refl _⟩⟩

/-- No two headers of the row differ in case alone. -/
def Unambiguous (r : Row) : Prop :=
  r.cells.Pairwise fun a b => ¬eqIgnoringCase a.1 b.1

theorem unambiguous_iff {r : Row} :
    r.Unambiguous ↔ (r.cells.map fun cell => cell.1.toList.map Char.toLower).Nodup := by
  simp [Unambiguous, List.Nodup, List.pairwise_map, eqIgnoringCase]

instance (r : Row) : Decidable r.Unambiguous :=
  decidable_of_iff _ unambiguous_iff.symm

theorem Unambiguous.eq_of_header {r : Row} (h : r.Unambiguous) {name : String}
    {cell cell' : String × Json} (hcell : cell ∈ r.cells) (hcell' : cell' ∈ r.cells)
    (hname : eqIgnoringCase cell.1 name) (hname' : eqIgnoringCase cell'.1 name) : cell = cell' := by
  refine List.inj_on_of_nodup_map (unambiguous_iff.1 h) hcell hcell' ?_
  simp only [eqIgnoringCase, beq_iff_eq] at hname hname'
  exact hname.trans hname'.symm

theorem Unambiguous.field?_eq_some_iff {r : Row} (h : r.Unambiguous) {name : String} {value : Json} :
    r.field? name = some value ↔ ∃ cell ∈ r.cells, eqIgnoringCase cell.1 name ∧ cell.2 = value := by
  refine ⟨exists_cell_of_field?, ?_⟩
  rintro ⟨cell, hcell, hname, rfl⟩
  have hsome : r.field? name ≠ none := fun hnone => field?_eq_none_iff.1 hnone cell hcell hname
  obtain ⟨value, hvalue⟩ := Option.ne_none_iff_exists'.1 hsome
  obtain ⟨cell', hcell', hname', rfl⟩ := exists_cell_of_field? hvalue
  rw [hvalue, h.eq_of_header hcell hcell' hname hname']

theorem SameValue.of_header {header name : String} (hname : eqIgnoringCase header name)
    {value value' : Json} (h : SameValue header value value') : SameValue name value value' := by
  cases h with
  | refl => exact .refl value
  | number hheader h h' =>
    refine .number ?_ h h'
    simpa only [isNumeric, Text.eqIgnoringCase_congr hname] using hheader
  | flag hheader h h' =>
    refine .flag ?_ h h'
    simpa only [isFlag, Text.eqIgnoringCase_congr hname] using hheader

section Same

variable {r r' : Row} (hsame : r.Same r') (h : r.Unambiguous)
include hsame h

/-- Rows that say the same have the same fields, with values that say the same. -/
theorem Same.rel_field? (name : String) :
    Option.Rel (SameValue name) (r.field? name) (r'.field? name) := by
  obtain ⟨cells, hperm, hcells⟩ := hsame
  cases hvalue' : r'.field? name with
  | some value' =>
    obtain ⟨cell', hcell', hname', rfl⟩ := exists_cell_of_field? hvalue'
    obtain ⟨cell, hcell, hsay⟩ := exists_mem_left_of_forall₂ hcells hcell'
    have hname : eqIgnoringCase cell.1 name := by
      rw [Text.eqIgnoringCase_congr hsay.header]
      exact hname'
    rw [h.field?_eq_some_iff.2 ⟨cell, hperm.mem_iff.1 hcell, hname, rfl⟩]
    exact .some (hsay.value.of_header hname)
  | none =>
    cases hvalue : r.field? name with
    | none => exact .none
    | some value =>
      obtain ⟨cell, hcell, hname, rfl⟩ := exists_cell_of_field? hvalue
      obtain ⟨cell', hcell', hsay⟩ := exists_mem_right_of_forall₂ hcells (hperm.mem_iff.2 hcell)
      rw [Text.eqIgnoringCase_congr hsay.header] at hname
      exact absurd hname (field?_eq_none_iff.1 hvalue' cell' hcell')

theorem Same.read_field? {α : Type} (read : Option Json → α) {name : String}
    (hread : ∀ value value', SameValue name value value' → read (some value) = read (some value')) :
    read (r'.field? name) = read (r.field? name) := by
  have hrel := hsame.rel_field? h name
  generalize r.field? name = field, r'.field? name = field' at hrel
  cases hrel with
  | none => rfl
  | some hvalue => exact (hread _ _ hvalue).symm

end Same

/-! ## What is read off a field -/

section Read

variable {name : String} {value value' : Json}

theorem SameValue.cellText? (h : SameValue name value value') (hnumeric : isNumeric name = false)
    (hflag : isFlag name = false) : value.cellText? = value'.cellText? := by
  cases h with
  | refl => rfl
  | number hheader => cases hnumeric.symm.trans hheader
  | flag hheader => cases hflag.symm.trans hheader

theorem SameValue.cellNatural? (h : SameValue name value value') (hflag : isFlag name = false) :
    value.cellNatural? = value'.cellNatural? := by
  cases h with
  | refl => rfl
  | number _ h h' => rw [h.cellNatural?, h'.cellNatural?]
  | flag hheader => cases hflag.symm.trans hheader

theorem SameValue.cellFlag (h : SameValue name value value') (hnumeric : isNumeric name = false) :
    value.cellFlag = value'.cellFlag := by
  cases h with
  | refl => rfl
  | number hheader => cases hnumeric.symm.trans hheader
  | flag _ h h' => rw [h.cellFlag, h'.cellFlag]

variable {r r' : Row} (hsame : r.Same r') (h : r.Unambiguous)
include hsame h

theorem Same.text? (hnumeric : isNumeric name = false) (hflag : isFlag name = false) :
    r'.text? name = r.text? name :=
  hsame.read_field? h (fun field => field.bind Json.cellText?) fun _ _ hvalue =>
    hvalue.cellText? hnumeric hflag

theorem Same.natural? (hflag : isFlag name = false) : r'.natural? name = r.natural? name :=
  hsame.read_field? h (fun field => field.bind Json.cellNatural?) fun _ _ hvalue =>
    hvalue.cellNatural? hflag

theorem Same.flag (hnumeric : isNumeric name = false) : r'.flag name = r.flag name :=
  hsame.read_field? h (fun field => (field.map Json.cellFlag).getD false) fun _ _ hvalue =>
    hvalue.cellFlag hnumeric

end Read

end Row

namespace Catalog

/-! ## Listings -/

section Same

variable {row row' : Row} (hsame : row.Same row') (h : row.Unambiguous)
include hsame h

theorem requireText_of_same {name : String} (hnumeric : Row.isNumeric name = false)
    (hflag : Row.isFlag name = false) : requireText row' name = requireText row name := by
  rw [requireText, requireText, hsame.text? h hnumeric hflag]

theorem readTable_of_same (c : Configuration) : readTable c row' = readTable c row := by
  simp (disch := decide +kernel) only [readTable, requireText_of_same hsame h, hsame.natural? h]

theorem readColumn_of_same (tables : SortedMap Table) :
    readColumn tables row' = readColumn tables row := by
  simp (disch := decide +kernel) only [readColumn, requireText_of_same hsame h, hsame.text? h,
    hsame.natural? h, hsame.flag h]

theorem readForeignKey_of_same (tables : SortedMap Table) (hasColumn : String → String → Bool) :
    readForeignKey tables hasColumn row' = readForeignKey tables hasColumn row := by
  simp (disch := decide +kernel) only [readForeignKey, requireText_of_same hsame h]

end Same

theorem mapM_of_same {α : Type} {read : Row → Except Error α} {rows rows' : List Row}
    (hread : ∀ row row', row.Same row' → row.Unambiguous → read row' = read row)
    (hrows : List.Forall₂ Row.Same rows rows') (h : ∀ row ∈ rows, row.Unambiguous) :
    rows'.mapM read = rows.mapM read :=
  (mapM_eq_mapM_of_forall₂ ((List.forall₂_and_left _ _).2 ⟨h, hrows⟩) fun row row' hrow =>
    (hread row row' hrow.2 hrow.1).symm).symm

/-- Listings whose rows say the same, one by one, give the same schema or the same error, whatever the
case of the headers, the order of the cells, and the spelling of numbers and truth values. -/
theorem buildSchema_of_same {c : Configuration}
    {tableRows tableRows' columnRows columnRows' referenceRows referenceRows' : List Row}
    (hdistinct : ∀ row ∈ tableRows ++ columnRows ++ referenceRows, row.Unambiguous)
    (htables : List.Forall₂ Row.Same tableRows tableRows')
    (hcolumns : List.Forall₂ Row.Same columnRows columnRows')
    (hreferences : List.Forall₂ Row.Same referenceRows referenceRows') :
    buildSchema c tableRows' columnRows' referenceRows' =
      buildSchema c tableRows columnRows referenceRows := by
  obtain ⟨⟨hdistinctTables, hdistinctColumns⟩, hdistinctReferences⟩ :=
    (List.forall_mem_append.1 hdistinct).imp_left List.forall_mem_append.1
  have hreadTables : readTables c tableRows' = readTables c tableRows := by
    rw [readTables, readTables, mapM_of_same (fun row row' hsame h => readTable_of_same hsame h c)
      htables hdistinctTables]
  have hreadColumns (tables : SortedMap Table) :
      readColumns tables columnRows' = readColumns tables columnRows := by
    rw [readColumns, readColumns, mapM_of_same
      (fun row row' hsame h => readColumn_of_same hsame h tables) hcolumns hdistinctColumns]
  have hreadKeys (tables : SortedMap Table) (columns : List Column) :
      readForeignKeys tables columns referenceRows' =
        readForeignKeys tables columns referenceRows := by
    rw [readForeignKeys, readForeignKeys, mapM_of_same
      (fun row row' hsame h => readForeignKey_of_same hsame h tables _) hreferences
      hdistinctReferences]
  simp only [buildSchema, hreadTables, hreadColumns, hreadKeys]

/-! ## One catalog from two servers -/

def orderRow : Row :=
  .ofPairs [("table_name", .string "orders"), ("table_rows", .number (.natural 7))]

def orderRow' : Row :=
  .ofPairs [("TABLE_ROWS", .string " 7\n"), ("TABLE_NAME", .string "orders")]

def parentRow : Row :=
  .ofPairs [("table_name", .string "orders"), ("column_name", .string "parent"),
    ("ordinal_position", .string "2"), ("is_nullable", .string "yes")]

def parentRow' : Row :=
  .ofPairs [("IS_NULLABLE", .number (.natural 1)), ("ORDINAL_POSITION", .number (.natural 2)),
    ("Column_Name", .string "parent"), ("Table_Name", .string "orders")]

def parentKeyRow : Row :=
  textRow [("table_name", "orders"), ("column_name", "parent"), ("referenced_table_name", "orders"),
    ("referenced_column_name", "id")]

theorem same_orderRow : orderRow.Same orderRow' := by
  have hdigits : Text.Numeral ['7'] (7 : UInt64).toNat :=
    ⟨['7'], List.cons_ne_nil _ _, List.forall_mem_singleton.2 (by decide), .inl rfl, rfl⟩
  have hrows : Row.SameValue "table_rows" (.number (.natural 7)) (.string " 7\n") := by
    refine .number (by decide) .natural (.numeral [' '] ['7'] ['\n'] rfl ?_ hdigits ?_)
    · exact List.forall_mem_singleton.2 (by decide)
    · exact List.forall_mem_singleton.2 (by decide)
  exact ⟨_, List.reverse_perm _, .cons ⟨by decide, hrows⟩ (.cons ⟨by decide, .refl _⟩ .nil)⟩

theorem same_parentRow : parentRow.Same parentRow' := by
  have hdigits : Text.Numeral ['2'] (2 : UInt64).toNat :=
    ⟨['2'], List.cons_ne_nil _ _, List.forall_mem_singleton.2 (by decide), .inl rfl, rfl⟩
  have hordinal : Row.SameValue "ordinal_position" (.string "2") (.number (.natural 2)) :=
    .number (by decide) (.numeral [] ['2'] [] rfl nofun hdigits nofun) .natural
  have hnullable : Row.SameValue "is_nullable" (.string "yes") (.number (.natural 1)) :=
    .flag (by decide) (.yes (by decide)) .one
  refine ⟨_, List.reverse_perm _, .cons ⟨by decide, hnullable⟩ (.cons ⟨by decide, hordinal⟩ ?_)⟩
  exact .cons ⟨by decide, .refl _⟩ (.cons ⟨by decide, .refl _⟩ .nil)

theorem buildSchema_of_same_orders :
    (buildSchema (.mysql "root" "secret" "shop") [orderRow] [parentRow]
        [parentKeyRow]).toOption.isSome ∧
      buildSchema (.mysql "root" "secret" "shop") [orderRow'] [parentRow'] [parentKeyRow] =
        buildSchema (.mysql "root" "secret" "shop") [orderRow] [parentRow] [parentKeyRow] := by
  have hdistinct : ∀ row ∈ [orderRow] ++ [parentRow] ++ [parentKeyRow], row.Unambiguous := by
    decide +kernel
  refine ⟨by decide +kernel, ?_⟩
  exact buildSchema_of_same hdistinct (.cons same_orderRow .nil) (.cons same_parentRow .nil)
    (.cons (.refl _) .nil)

end Catalog

end TableAtlas
