import TableAtlas.Proofs.Sql.Paths

/-!
# Quoted names and where they end

A quoted name tells where it ends: two backticks inside of it are one of the name, and the first that
stands alone closes it. So the name and the text behind it are found without knowing what that text is,
as long as it begins with no backtick. A path is read in the same way, part by part.

Main statement: `quoting_invertible`, what is read is what was quoted and the other way round, so no two
names are quoted alike and no two paths are written alike.
-/

namespace TableAtlas.Sql

/-! ## Names -/

/-- The inside of a quoted name up to the backtick that closes it, and the text behind; `none` if no
backtick closes it. -/
def takeInside : List Char → Option (List Char × List Char)
  | [] => none
  | c :: rest =>
    if c = backtick then
      match rest with
      | [] => some ([], [])
      | d :: behind =>
        if d = backtick then (takeInside behind).map (Prod.map (backtick :: ·) id)
        else some ([], d :: behind)
    else (takeInside rest).map (Prod.map (c :: ·) id)

/-- The quoted name that begins a text, and the text behind. -/
def takeName : List Char → Option (String × List Char)
  | [] => none
  | c :: rest => if c = backtick then (takeInside rest).map (Prod.map String.ofList id) else none

theorem map_prodMap_eq_some_iff {α β γ : Type} {o : Option (α × γ)} {f : α → β} {b : β} {c : γ} :
    o.map (Prod.map f id) = some (b, c) ↔ ∃ a, o = some (a, c) ∧ f a = b := by
  simp [Option.map_eq_some_iff]

theorem takeInside_cons_of_ne {c : Char} (h : c ≠ backtick) (rest : List Char) :
    takeInside (c :: rest) = (takeInside rest).map (Prod.map (c :: ·) id) := by
  rw [takeInside.eq_def]
  exact if_neg h

theorem takeInside_doubleBackticks (name : List Char) {rest : List Char}
    (h : rest.head? ≠ some backtick) :
    takeInside (doubleBackticks name ++ backtick :: rest) = some (name, rest) := by
  induction name with
  | nil =>
    cases rest with
    | nil => simp [doubleBackticks, takeInside]
    | cons d behind =>
      have hd : d ≠ backtick := by simpa using h
      simp [doubleBackticks, takeInside, hd]
  | cons c name ih =>
    by_cases hc : c = backtick
    · simp [doubleBackticks, takeInside, hc, ih]
    · simp [doubleBackticks, takeInside_cons_of_ne hc, hc, ih]

theorem eq_of_takeInside {cs name rest : List Char} (h : takeInside cs = some (name, rest)) :
    cs = doubleBackticks name ++ backtick :: rest ∧ rest.head? ≠ some backtick := by
  -- The text ends, ends with a backtick, goes on with a doubled one, a closing one or another character.
  fun_induction takeInside cs generalizing name with
  | case1 => cases h
  | case2 =>
    cases h
    simp [doubleBackticks]
  | case3 behind ih =>
    obtain ⟨inner, hbehind, rfl⟩ := map_prodMap_eq_some_iff.1 h
    obtain ⟨rfl, hrest⟩ := ih hbehind
    exact ⟨by simp [doubleBackticks], hrest⟩
  | case4 d behind hd =>
    cases h
    exact ⟨rfl, by simpa using hd⟩
  | case5 c behind hc ih =>
    obtain ⟨inner, hbehind, rfl⟩ := map_prodMap_eq_some_iff.1 h
    obtain ⟨rfl, hrest⟩ := ih hbehind
    exact ⟨by simp [doubleBackticks, hc], hrest⟩

/-- A name is read just if it stands quoted in front of what is left, and no further backtick follows. -/
theorem takeName_eq_some_iff {cs rest : List Char} {name : String} :
    takeName cs = some (name, rest) ↔
      cs = quoteName name.toList ++ rest ∧ rest.head? ≠ some backtick := by
  have hquoted : quoteName name.toList ++ rest =
      backtick :: (doubleBackticks name.toList ++ backtick :: rest) := by
    simp [quoteName]
  constructor
  · intro h
    cases cs with
    | nil => cases h
    | cons c behind =>
      simp only [takeName, Option.ite_none_right_eq_some, map_prodMap_eq_some_iff] at h
      obtain ⟨rfl, inner, hinside, rfl⟩ := h
      obtain ⟨rfl, hrest⟩ := eq_of_takeInside hinside
      exact ⟨by simp [quoteName], hrest⟩
  · rintro ⟨rfl, hrest⟩
    rw [hquoted, takeName, if_pos rfl, takeInside_doubleBackticks _ hrest]
    simp

/-- A name of backticks only, in front of a point. -/
example : takeName "``````.`x`".toList = some ("``", ".`x`".toList) := by decide +kernel

/-! ## Paths -/

theorem length_of_takeName {cs rest : List Char} {name : String}
    (h : takeName cs = some (name, rest)) : rest.length < cs.length := by
  rw [(takeName_eq_some_iff.1 h).1, List.length_append]
  simp [quoteName]

/-- The quoted names that begin a text, with points between them, and the text behind. -/
def takePath (cs : List Char) : Option (List String × List Char) :=
  match _ : takeName cs with
  | none => none
  | some (name, '.' :: behind) => (takePath behind).map (Prod.map (name :: ·) id)
  | some (name, rest) => some ([name], rest)
termination_by cs.length
decreasing_by
  have hlength := length_of_takeName ‹takeName cs = _›
  rw [List.length_cons] at hlength
  omega

theorem chars_memberLexemes_singleton (part : String) :
    (memberLexemes [part]).chars = quoteName part.toList := by
  simp [memberLexemes, Fragment.join, Lexeme.chars]

theorem chars_memberLexemes_cons_cons (part next : String) (parts : List String) :
    (memberLexemes (part :: next :: parts)).chars =
      quoteName part.toList ++ '.' :: (memberLexemes (next :: parts)).chars := by
  simp [memberLexemes, Fragment.join, Lexeme.chars]

/-- Text that goes on with neither a name nor a path in front of it. -/
def EndsPath (rest : List Char) : Prop :=
  rest.head? ≠ some backtick ∧ rest.head? ≠ some '.'

theorem takePath_of_point {cs behind : List Char} {name : String}
    (h : takeName cs = some (name, '.' :: behind)) :
    takePath cs = (takePath behind).map (Prod.map (name :: ·) id) := by
  rw [takePath, h]
  rfl

theorem takePath_of_no_point {cs rest : List Char} {name : String}
    (h : takeName cs = some (name, rest)) (hpoint : rest.head? ≠ some '.') :
    takePath cs = some ([name], rest) := by
  rw [takePath, h]
  split
  · next hnone => cases hnone
  · next hsome =>
    cases hsome
    exact absurd rfl hpoint
  · next hsome =>
    cases hsome
    rfl

theorem takePath_memberLexemes {parts : List String} (hne : parts ≠ []) {rest : List Char}
    (hrest : EndsPath rest) :
    takePath ((memberLexemes parts).chars ++ rest) = some (parts, rest) := by
  induction parts with
  | nil => exact absurd rfl hne
  | cons part parts ih =>
    cases parts with
    | nil =>
      rw [chars_memberLexemes_singleton]
      exact takePath_of_no_point (takeName_eq_some_iff.2 ⟨rfl, hrest.1⟩) hrest.2
    | cons next parts =>
      -- Behind the point stands no name of its own but the rest of the path.
      have hpoint : some '.' ≠ some backtick := by decide
      rw [chars_memberLexemes_cons_cons, List.append_assoc, List.cons_append,
        takePath_of_point (takeName_eq_some_iff.2 ⟨rfl, hpoint⟩), ih (by simp)]
      rfl

theorem eq_of_takePath {cs rest : List Char} {parts : List String}
    (h : takePath cs = some (parts, rest)) :
    parts ≠ [] ∧ cs = (memberLexemes parts).chars ++ rest ∧ EndsPath rest := by
  fun_induction takePath cs generalizing parts with
  | case1 => cases h
  | case2 cs name behind hname ih =>
    obtain ⟨later, hbehind, rfl⟩ := map_prodMap_eq_some_iff.1 h
    obtain ⟨hne, rfl, hrest⟩ := ih hbehind
    obtain ⟨next, later, rfl⟩ := List.exists_cons_of_ne_nil hne
    refine ⟨by simp, ?_, hrest⟩
    rw [(takeName_eq_some_iff.1 hname).1, chars_memberLexemes_cons_cons]
    simp
  | case3 cs name behind hpoint hname =>
    cases h
    obtain ⟨rfl, hback⟩ := takeName_eq_some_iff.1 hname
    refine ⟨by simp, by rw [chars_memberLexemes_singleton], hback, fun hhead => ?_⟩
    obtain ⟨later, hlater⟩ := List.head?_eq_some_iff.1 hhead
    exact hpoint later hlater

theorem takePath_eq_some_iff {cs rest : List Char} {parts : List String} :
    takePath cs = some (parts, rest) ↔
      parts ≠ [] ∧ cs = (memberLexemes parts).chars ++ rest ∧ EndsPath rest := by
  constructor
  · exact eq_of_takePath
  · rintro ⟨hne, rfl, hrest⟩
    exact takePath_memberLexemes hne hrest

/-! ## Reading back -/

theorem takeName_toList_eq_some_iff {text name rest : String} :
    takeName text.toList = some (name, rest.toList) ↔
      text = escapeName name ++ rest ∧ rest.toList.head? ≠ some backtick := by
  rw [takeName_eq_some_iff, ← String.toList_inj]
  simp [escapeName, Fragment.text, Lexeme.chars]

theorem map_text_member_eq_ok_iff {name text : String} :
    (member name).map Fragment.text = .ok text ↔
      "" ∉ nameParts name ∧ text.toList = (memberLexemes (nameParts name)).chars := by
  have htext (f : Fragment) : f.text = text ↔ text.toList = f.chars := by
    rw [← String.toList_inj, eq_comm]
    simp [Fragment.text]
  simp [map_eq_ok_iff, member_eq, written_eq_ok_iff, nameError?_eq_none_iff, memberText, htext]

theorem map_text_member_eq_error_iff {name : String} {fault : NameError} :
    (member name).map Fragment.text = .error fault ↔ nameError? name = some fault := by
  simp only [member_eq, written, List.findSome?_singleton]
  cases nameError? name <;> simp [Except.map]

theorem map_text_member_eq_ok_iff_takePath {name text : String} :
    (member name).map Fragment.text = .ok text ↔
      ∃ parts, takePath text.toList = some (parts, []) ∧
        (∀ part ∈ parts, part ≠ "" ∧ '.' ∉ part.toList) ∧ ".".intercalate parts = name := by
  rw [map_text_member_eq_ok_iff]
  constructor
  · rintro ⟨hempty, htext⟩
    obtain ⟨hne, hpoint, hname⟩ := nameParts_eq_iff.1 (rfl : nameParts name = _)
    have htake : takePath text.toList = some (nameParts name, []) :=
      takePath_eq_some_iff.2 ⟨hne, by simp [htext], by simp [EndsPath]⟩
    exact ⟨nameParts name, htake,
      fun part hpart => ⟨fun h => hempty (h ▸ hpart), hpoint part hpart⟩, hname⟩
  · rintro ⟨parts, htake, hparts, hname⟩
    obtain ⟨hne, htext, -⟩ := takePath_eq_some_iff.1 htake
    obtain rfl : nameParts name = parts :=
      nameParts_eq_iff.2 ⟨hne, fun part hpart => (hparts part hpart).2, hname⟩
    exact ⟨fun h => (hparts "" h).1 rfl, by simpa using htext⟩

theorem escapeName_injective : Function.Injective escapeName := by
  intro name name' h
  have hread (name : String) : takeName (escapeName name).toList = some (name, "".toList) :=
    takeName_toList_eq_some_iff.2 ⟨by simp, by simp⟩
  have hsame := hread name'
  rw [← h, hread name, Option.some_inj] at hsame
  exact congrArg Prod.fst hsame

theorem map_text_member_injective :
    Function.Injective fun name => (member name).map Fragment.text := by
  intro name name' (hsame : (member name).map Fragment.text = (member name').map Fragment.text)
  cases hname : (member name).map Fragment.text with
  | ok text =>
    obtain ⟨parts, htake, -, rfl⟩ := map_text_member_eq_ok_iff_takePath.1 hname
    obtain ⟨parts', htake', -, rfl⟩ := map_text_member_eq_ok_iff_takePath.1 (hsame ▸ hname)
    cases htake.symm.trans htake'
    rfl
  | error fault =>
    exact eq_of_nameError?_eq_some (map_text_member_eq_error_iff.1 hname)
      (map_text_member_eq_error_iff.1 (hsame ▸ hname))

/-- Reading a text gives a name and the text behind just if it is the quoted name with that text, which
does not begin with a backtick. A name is written as a path unless it is empty or has an empty part, and
then as the text from which its parts are read. So quoting names and writing paths are injective, the
errors of names that are no paths included. -/
theorem quoting_invertible :
    (∀ text name rest : String, takeName text.toList = some (name, rest.toList) ↔
      text = escapeName name ++ rest ∧ rest.toList.head? ≠ some backtick) ∧
    (∀ name, (∃ text, (member name).map Fragment.text = .ok text) ↔
      name ≠ "" ∧ "" ∉ nameParts name) ∧
    (∀ name text, (member name).map Fragment.text = .ok text ↔
      ∃ parts, takePath text.toList = some (parts, []) ∧
        (∀ part ∈ parts, part ≠ "" ∧ '.' ∉ part.toList) ∧ ".".intercalate parts = name) ∧
    Function.Injective escapeName ∧
    Function.Injective fun name => ((member name).map Fragment.text).mapError NameError.message := by
  refine ⟨fun _ _ _ => takeName_toList_eq_some_iff, fun name => ?_,
    fun _ _ => map_text_member_eq_ok_iff_takePath, escapeName_injective,
    (mapError_injective NameError.message_injective).comp map_text_member_injective⟩
  rw [← not_or, ← IsNoPath, ← exists_member_iff]
  simp [map_eq_ok_iff]

end TableAtlas.Sql
