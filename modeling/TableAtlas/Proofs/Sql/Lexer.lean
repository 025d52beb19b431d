import TableAtlas.Sql.Fragment
import Mathlib.Data.List.Chain

/-!
# Reading quoted text

A reader of SQL text that knows of quotes only. It goes from left to right: a backtick opens a quoted
name, two backticks inside of it are one backtick of the name, and the next single backtick closes it.
Every other character stands for itself.

Main statement: `lex_text`, a legible fragment is what reading its text gives. Legible means that no
backtick stands outside of quotes and that no two names touch, since the backticks between touching
names would be read as one of a longer name.
-/

namespace TableAtlas.Sql

/-- Where a reader stands; characters of a name are kept with the last one first. -/
inductive LexState
  | outside
  | inside (seen : List Char)
  /-- After a backtick inside of quotes, which ends the name unless another one follows. -/
  | closing (seen : List Char)

/-- The name of the characters that were read. -/
def seenName (seen : List Char) : Lexeme :=
  .name (String.ofList seen.reverse)

namespace LexState

/-- The state after one more character, and the lexemes that are complete with it. -/
def step : LexState → Char → LexState × Fragment
  | outside, c => if c = backtick then (inside [], []) else (outside, [.char c])
  | inside seen, c => if c = backtick then (closing seen, []) else (inside (c :: seen), [])
  | closing seen, c =>
    if c = backtick then (inside (c :: seen), []) else (outside, [seenName seen, .char c])

/-- The lexemes that are complete at the end of the text, `none` if a quote is still open. -/
def finish : LexState → Option Fragment
  | outside => some []
  | inside _ => none
  | closing seen => some [seenName seen]

/-- Reads the rest of a text. -/
def read : LexState → List Char → Option Fragment
  | state, [] => state.finish
  | state, c :: rest => ((state.step c).1.read rest).map ((state.step c).2 ++ ·)

end LexState

/-- The lexemes of a text, `none` if a quote is left open at its end. -/
def lex (text : String) : Option Fragment :=
  LexState.outside.read text.toList

/-! ## One lexeme -/

namespace LexState

theorem read_outside_cons {c : Char} (h : c ≠ backtick) (rest : List Char) :
    outside.read (c :: rest) = (outside.read rest).map (.char c :: ·) := by
  simp [read, step, h]

theorem read_inside_doubleBackticks (seen cs rest : List Char) :
    (inside seen).read (doubleBackticks cs ++ rest) = (inside (cs.reverse ++ seen)).read rest := by
  induction cs generalizing seen with
  | nil => rfl
  | cons c cs ih =>
    by_cases h : c = backtick
    · subst h
      simp [doubleBackticks, read, step, ih]
    · simp [doubleBackticks, read, step, h, ih]

theorem read_outside_quoteName (cs rest : List Char) :
    outside.read (quoteName cs ++ rest) = (closing cs.reverse).read rest := by
  have h := read_inside_doubleBackticks [] cs (backtick :: rest)
  simp only [List.append_nil] at h
  simp [quoteName, read, step, h]

theorem read_closing (cs : List Char) {rest : List Char} (h : rest.head? ≠ some backtick) :
    (closing cs.reverse).read rest =
      (outside.read rest).map (.name (String.ofList cs) :: ·) := by
  cases rest with
  | nil => simp [read, finish, seenName]
  | cons c rest =>
    have hc : c ≠ backtick := by simpa using h
    simp [read, step, hc, seenName, Function.comp_def]

end LexState

/-! ## Legible fragments -/

namespace Lexeme

def isName : Lexeme → Bool
  | char _ => false
  | name _ => true

/-- A character outside of quotes. -/
def char? : Lexeme → Option Char
  | char c => some c
  | name _ => none

/-- What stands inside of quotes. -/
def name? : Lexeme → Option String
  | char _ => none
  | name s => some s

end Lexeme

namespace Fragment

/-- No backtick stands outside of quotes, and no two names touch. -/
structure Legible (f : Fragment) : Prop where
  noBacktick : Lexeme.char backtick ∉ f
  apart : f.IsChain fun a b => a.isName = false ∨ b.isName = false

theorem legible_nil : Legible [] := ⟨by simp, .nil⟩

theorem legible_char_cons {c : Char} {f : Fragment} :
    Legible (.char c :: f) ↔ c ≠ backtick ∧ Legible f := by
  constructor
  · rintro ⟨hback, hapart⟩
    rw [List.mem_cons, not_or] at hback
    exact ⟨fun h => hback.1 (by rw [h]), hback.2, hapart.tail⟩
  · rintro ⟨hc, hback, hapart⟩
    refine ⟨?_, List.isChain_cons.2 ⟨fun _ _ => .inl rfl, hapart⟩⟩
    simp only [List.mem_cons, Lexeme.char.injEq, not_or]
    exact ⟨Ne.symm hc, hback⟩

theorem legible_name_cons {s : String} {f : Fragment} :
    Legible (.name s :: f) ↔ (∀ l ∈ f.head?, l.isName = false) ∧ Legible f := by
  constructor
  · rintro ⟨hback, hapart⟩
    obtain ⟨hhead, htail⟩ := List.isChain_cons.1 hapart
    refine ⟨fun l hl => ?_, fun h => hback (List.mem_cons_of_mem _ h), htail⟩
    simpa [Lexeme.isName] using hhead l hl
  · rintro ⟨hhead, hback, hapart⟩
    exact ⟨by simpa using hback, List.isChain_cons.2 ⟨fun l hl => .inr (hhead l hl), hapart⟩⟩

theorem legible_plain_append {s : String} (h : backtick ∉ s.toList) {f : Fragment} :
    Legible (plain s ++ f) ↔ Legible f := by
  unfold plain
  generalize s.toList = cs at h
  induction cs with
  | nil => rfl
  | cons c cs ih =>
    rw [List.mem_cons, not_or] at h
    rw [List.map_cons, List.cons_append, legible_char_cons, ih h.2]
    exact and_iff_right (Ne.symm h.1)

theorem head?_chars_ne_backtick {f : Fragment} (hf : Legible f)
    (h : ∀ l ∈ f.head?, l.isName = false) : f.chars.head? ≠ some backtick := by
  match f with
  | [] => simp
  | .char c :: rest => simpa [Lexeme.chars] using (legible_char_cons.1 hf).1
  | .name s :: rest => exact absurd (h (.name s) rfl) (by simp [Lexeme.isName])

theorem read_chars {f : Fragment} (h : Legible f) :
    LexState.outside.read f.chars = some f := by
  induction f with
  | nil => rfl
  | cons l f ih =>
    cases l with
    | char c =>
      obtain ⟨hc, hf⟩ := legible_char_cons.1 h
      rw [chars_cons, Lexeme.chars, List.singleton_append, LexState.read_outside_cons hc, ih hf]
      rfl
    | name s =>
      obtain ⟨hhead, hf⟩ := legible_name_cons.1 h
      rw [chars_cons, Lexeme.chars, LexState.read_outside_quoteName,
        LexState.read_closing _ (head?_chars_ne_backtick hf hhead), ih hf]
      simp

/-- Reading the text of a legible fragment gives the fragment. -/
theorem lex_text {f : Fragment} (h : Legible f) : lex f.text = some f := by
  rw [lex, text, String.toList_ofList]
  exact read_chars h

end Fragment

end TableAtlas.Sql
