import TableAtlas.Proofs.Catalog.KeyOrder

/-!
# Label columns

What labels the rows of a table: what is configured for it, if that is more than blanks, whether or not
the table has such a column, else the first of its columns with the name of a label
(`labelColumn_of_buildSchema`). The first one is found in the columns by position, and is the least by
position and then by name.
-/

namespace TableAtlas

/-! ## Columns with the name of a label -/

/-- In lower case the name ends in one of three words. -/
def IsLabel (name : String) : Prop :=
  ∃ ending ∈ ["name", "title", "label"], ending.toList <:+ (Text.lowerCase name).toList

theorem isLabelName_iff {name : String} : Catalog.isLabelName name ↔ IsLabel name := by
  simp only [Catalog.isLabelName, Catalog.labelEndings, IsLabel, List.any_eq_true,
    List.isSuffixOf_iff_suffix]

instance : DecidablePred IsLabel := fun _ => decidable_of_iff _ isLabelName_iff

namespace Table

/-- Of the columns of a table with the name of a label the first, by position and then by name. -/
def FirstLabel (t : Table) (c : Column) : Prop :=
  c ∈ t.columns.values ∧ IsLabel c.name ∧
    ∀ other ∈ t.columns.values, IsLabel other.name → other ≠ c → c.Before other

instance (t : Table) (c : Column) : Decidable (t.FirstLabel c) :=
  inferInstanceAs (Decidable (_ ∧ _ ∧ _))

/-- What labels the rows of a table for which `configured` is configured. -/
inductive LabelledBy (t : Table) (configured : Option String) : Option String → Prop
  | configured {label : String} (hlabel : configured = some label) (hvisible : Text.trim label ≠ "") :
    LabelledBy t configured (some label)
  | column {c : Column} (hblank : ∀ label, configured = some label → Text.trim label = "")
    (hfirst : t.FirstLabel c) : LabelledBy t configured (some c.name)
  | nothing (hblank : ∀ label, configured = some label → Text.trim label = "")
    (hnone : ∀ c ∈ t.columns.values, ¬IsLabel c.name) : LabelledBy t configured none

end Table

namespace Catalog

theorem findLabel_eq_some_iff {t : Table}
    (hname : ∀ column c, t.columns.get? column = some c → c.name = column) {name : String} :
    findLabel t = some name ↔ ∃ c, t.FirstLabel c ∧ c.name = name := by
  have hsorted := pairwise_columnsByOrdinal hname
  have hasymm : ∀ a b : Column, a.Before b → ¬b.Before a := fun _ _ => Column.Before.asymm
  have hmem : ∀ c, c ∈ t.columnsByOrdinal ↔ c ∈ t.columns.values := fun _ => List.mem_mergeSort
  simp only [findLabel, Option.map_eq_some_iff, find?_eq_some_iff_of_pairwise hasymm hsorted, hmem,
    isLabelName_iff, Table.FirstLabel]

theorem findLabel_eq_none_iff {t : Table} :
    findLabel t = none ↔ ∀ c ∈ t.columns.values, ¬IsLabel c.name := by
  simp only [findLabel, Option.map_eq_none_iff, List.find?_eq_none, Table.columnsByOrdinal,
    List.mem_mergeSort, isLabelName_iff]

theorem findLabel_withReferences (keys : List ForeignKey) (t : Table) :
    findLabel (withReferences keys t) = findLabel t := by
  simp only [findLabel, columnsByOrdinal_withReferences, List.find?_map, Option.map_map,
    Function.comp_def]

/-! ## Configured labels -/

theorem labelColumn?_eq_some_iff {c : Configuration} {table label : String} :
    c.labelColumn? table = some label ↔
      c.labelColumns.get? table = some label ∧ Text.trim label ≠ "" := by
  rw [Configuration.labelColumn?, Option.filter_eq_some_iff, ne_eq, Text.trim_eq_empty_iff,
    Bool.not_eq_true', Bool.not_eq_true]

theorem labelColumn?_eq_none_iff {c : Configuration} {table : String} :
    c.labelColumn? table = none ↔
      ∀ label, c.labelColumns.get? table = some label → Text.trim label = "" := by
  rw [Option.eq_none_iff_forall_ne_some]
  simp only [ne_eq, labelColumn?_eq_some_iff, not_and, not_not]

/-! ## Schemas -/

section Built

variable {c : Configuration} {tableRows columnRows referenceRows : List Row} {s : Schema}
  {table : String} {t : Table}

theorem labelColumn_eq_of_buildSchema
    (h : buildSchema c tableRows columnRows referenceRows = .ok s) (ht : s.table? table = some t) :
    t.labelColumn = (c.labelColumn? table <|> findLabel t) := by
  obtain ⟨tables, columns, listed, htables, -, hlisted, -, rfl⟩ := exists_table_of_buildSchema h ht
  rw [findLabel_withReferences, ← (of_readTables htables hlisted).2]
  rfl

/-- The rows of a table are labelled by what is configured for it, unless that is blank, and else by the
first of its columns with the name of a label, if it has one. -/
theorem labelColumn_of_buildSchema
    (h : buildSchema c tableRows columnRows referenceRows = .ok s) (ht : s.table? table = some t)
    (label : Option String) :
    t.labelColumn = label ↔ t.LabelledBy (c.labelColumns.get? table) label := by
  have hname : ∀ column col, t.columns.get? column = some col → col.name = column :=
    fun column col hcol => ((references_of_buildSchema h ht).2.2 column col hcol).1
  rw [labelColumn_eq_of_buildSchema h ht]
  constructor
  · rintro rfl
    cases hconfigured : c.labelColumn? table with
    | some label =>
      obtain ⟨hlabel, hvisible⟩ := labelColumn?_eq_some_iff.1 hconfigured
      exact .configured hlabel hvisible
    | none =>
      have hblank := labelColumn?_eq_none_iff.1 hconfigured
      cases hfound : findLabel t with
      | some name =>
        obtain ⟨col, hfirst, rfl⟩ := (findLabel_eq_some_iff hname).1 hfound
        exact .column hblank hfirst
      | none => exact .nothing hblank (findLabel_eq_none_iff.1 hfound)
  · rintro (⟨hlabel, hvisible⟩ | ⟨hblank, hfirst⟩ | ⟨hblank, hnone⟩)
    · rw [labelColumn?_eq_some_iff.2 ⟨hlabel, hvisible⟩]
      rfl
    · rw [labelColumn?_eq_none_iff.2 hblank, (findLabel_eq_some_iff hname).2 ⟨_, hfirst, rfl⟩]
      rfl
    · rw [labelColumn?_eq_none_iff.2 hblank, findLabel_eq_none_iff.2 hnone]
      rfl

end Built

/-! ## Two labels in one position -/

/-- The label of lines is blank, and that of orders is none of their columns. -/
def labellingConfiguration : Configuration :=
  ((Configuration.mysql "root" "secret" "shop").withLabelColumn "lines" " ").withLabelColumn "orders"
    "nickname"

def labelledLines : Schema :=
  (buildSchema labellingConfiguration lineTables lineColumns lineReferences).toOption.getD default

theorem labelColumn_of_buildSchema_lines :
    buildSchema labellingConfiguration lineTables lineColumns lineReferences = .ok labelledLines ∧
      (∃ lines, labelledLines.table? "lines" = some lines ∧ lines.labelColumn = some "full_name") ∧
      ∃ orders, labelledLines.table? "orders" = some orders ∧ orders.labelColumn = some "nickname" := by
  have hbuilt : buildSchema labellingConfiguration lineTables lineColumns lineReferences =
      .ok labelledLines := eq_ok_getD_of_isSome (by decide +kernel)
  have hblank : ∀ label, labellingConfiguration.labelColumns.get? "lines" = some label →
      Text.trim label = "" := by
    rintro label ⟨⟩
    decide +kernel
  have hfirst : ∃ lines ∈ labelledLines.table? "lines", ∃ c ∈ lines.columns.values,
      lines.FirstLabel c ∧ c.name = "full_name" := by decide +kernel
  have horders : (labelledLines.table? "orders").isSome := by decide +kernel
  obtain ⟨lines, hlines, c, -, hfirst, hname⟩ := hfirst
  obtain ⟨orders, horders⟩ := Option.isSome_iff_exists.1 horders
  refine ⟨hbuilt, ⟨lines, hlines, ?_⟩, orders, horders, ?_⟩
  · rw [labelColumn_of_buildSchema hbuilt hlines, ← hname]
    exact .column hblank hfirst
  · rw [labelColumn_of_buildSchema hbuilt horders]
    exact .configured (by decide +kernel) (by decide +kernel)

end Catalog

end TableAtlas
