import TableAtlas.Error
import TableAtlas.Proofs.Result
import TableAtlas.Proofs.Sql.Rendering
import TableAtlas.Proofs.Sql.Scope

/-!
# Paths

A name is a path of the parts between its points, and it can be written if it is not empty and none of
its parts is. A name that cannot be written is reported with a text that tells it from all others
(`nameError?_eq_some_iff`, `NameError.message_injective`).
-/

namespace TableAtlas

open Sql (nameParts)

/-- A name that cannot be written as a path: it is empty, or one of its parts is. -/
def IsNoPath (name : String) : Prop :=
  name = "" ∨ "" ∈ nameParts name

/-- What is said about a name that is no path. -/
def complaint (name : String) : String :=
  if name = "" then "empty identifier" else s!"malformed identifier '{name}'"

namespace Sql

/-! ## Parts -/

theorem nameParts_of_notMem {name : String} (h : '.' ∉ name.toList) : nameParts name = [name] := by
  rw [nameParts, List.splitOn_eq_singleton h, List.map_singleton, String.ofList_toList]

theorem nameParts_eq_iff {name : String} {parts : List String} :
    nameParts name = parts ↔
      parts ≠ [] ∧ (∀ part ∈ parts, '.' ∉ part.toList) ∧ ".".intercalate parts = name := by
  have hchars : (nameParts name).map String.toList = name.toList.splitOn '.' := by
    simp [nameParts]
  constructor
  · rintro rfl
    refine ⟨nameParts_ne_nil name, fun part hpart => ?_, String.toList_inj.1 ?_⟩
    · have hmem : part.toList ∈ name.toList.splitOn '.' := hchars ▸ List.mem_map_of_mem hpart
      exact notMem_of_mem_splitOn hmem
    · rw [String.toList_intercalate, hchars]
      exact List.intercalate_splitOn '.'
  · rintro ⟨hne, hpoint, rfl⟩
    have hsplit : (['.'].intercalate (parts.map String.toList)).splitOn '.' =
        parts.map String.toList :=
      List.splitOn_intercalate '.' (by simpa using hpoint) (by simpa using hne)
    have htext : (".".intercalate parts).toList = ['.'].intercalate (parts.map String.toList) :=
      String.toList_intercalate
    rw [nameParts, htext, hsplit, List.map_map]
    simp

theorem nameParts_injective : Function.Injective nameParts := by
  intro name name' h
  obtain ⟨-, -, hname⟩ := nameParts_eq_iff.1 h
  obtain ⟨-, -, hname'⟩ := nameParts_eq_iff.1 (rfl : nameParts name' = _)
  exact hname.symm.trans hname'

theorem length_nameParts_eq_one_iff {name : String} :
    (nameParts name).length = 1 ↔ '.' ∉ name.toList := by
  constructor
  · intro hlength
    obtain ⟨part, hpart⟩ := List.length_eq_one_iff.1 hlength
    obtain ⟨-, hpoint, hname⟩ := nameParts_eq_iff.1 hpart
    obtain rfl : part = name := by simpa using hname
    exact hpoint part (List.mem_singleton_self part)
  · intro hpoint
    rw [nameParts_of_notMem hpoint, List.length_singleton]

end Sql

/-! ## Names that cannot be written -/

theorem isNoPath_iff {name : String} : IsNoPath name ↔ "" ∈ nameParts name := by
  rw [IsNoPath, or_iff_right_iff_imp]
  rintro rfl
  simp [Sql.nameParts_of_notMem]

theorem liftName_eq_ok_iff {α : Type} {result : Except Sql.NameError α} {a : α} :
    liftName result = .ok a ↔ result = .ok a := by
  cases result <;> simp [liftName, Except.mapError]

theorem liftName_eq_error_iff {α : Type} {result : Except Sql.NameError α} {e : Error} :
    liftName result = .error e ↔
      ∃ fault, result = .error fault ∧ e = .compilation (.badName fault) := by
  cases result <;> simp [liftName, Except.mapError, eq_comm]

namespace Sql

theorem nameError?_eq_none_iff {name : String} : nameError? name = none ↔ "" ∉ nameParts name := by
  unfold nameError?
  by_cases hname : name = ""
  · subst hname
    simp [nameParts_of_notMem]
  · by_cases hpart : "" ∈ nameParts name <;> simp [hname, hpart]

theorem nameError?_eq_none_iff_not_isNoPath {name : String} :
    nameError? name = none ↔ ¬IsNoPath name := by
  rw [nameError?_eq_none_iff, isNoPath_iff]

theorem exists_member_iff {name : String} : (∃ f, member name = .ok f) ↔ ¬IsNoPath name := by
  simp [member_eq, written_eq_ok_iff, nameError?_eq_none_iff_not_isNoPath]

theorem NameError.message_malformed (name : String) :
    (malformed name).message = "malformed identifier '" ++ name ++ "'" := rfl

/-- The text of an error tells which one it is, and so which name it is about. -/
theorem NameError.message_injective : Function.Injective NameError.message := by
  have hne (name : String) : empty.message ≠ (malformed name).message := by
    intro h
    have hlength := congrArg String.length h
    have hempty : empty.message.length = 16 := rfl
    have hmalformed : "malformed identifier '".length = 22 := rfl
    rw [message_malformed, String.length_append, String.length_append] at hlength
    omega
  intro e e' h
  cases e with
  | empty =>
    cases e' with
    | empty => rfl
    | malformed name => exact absurd h (hne name)
  | malformed name =>
    cases e' with
    | empty => exact absurd h.symm (hne name)
    | malformed name' =>
      rw [message_malformed, message_malformed, String.append_left_inj, String.append_right_inj] at h
      rw [h]

theorem eq_of_nameError?_eq_some {name name' : String} {fault : NameError}
    (h : nameError? name = some fault) (h' : nameError? name' = some fault) : name = name' := by
  unfold nameError? at h h'
  grind

theorem nameError?_eq_some_iff {name : String} {fault : NameError} :
    nameError? name = some fault ↔ IsNoPath name ∧ fault.message = complaint name := by
  by_cases hname : name = ""
  · have hempty : complaint name = NameError.empty.message := if_pos hname
    rw [hempty, NameError.message_injective.eq_iff]
    simp [nameError?, IsNoPath, hname, eq_comm]
  · have hmalformed : complaint name = (NameError.malformed name).message := by
      rw [complaint, if_neg hname, NameError.message_malformed]
      rfl
    rw [hmalformed, NameError.message_injective.eq_iff]
    simp [nameError?, IsNoPath, hname, eq_comm]

end Sql

end TableAtlas
