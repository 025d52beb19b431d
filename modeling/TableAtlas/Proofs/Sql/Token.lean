import TableAtlas.Plan.Vocabulary
import TableAtlas.Proofs.Sql.Lexer
import TableAtlas.Proofs.Sql.Rendering

/-!
# Tokens

A text made of tokens is made of quoted names and of words. A word holds no text of its own: it is one
of a fixed set, or a number. So whatever a token list is built from, the strings in it stand inside of
quotes. If words keep the names apart, the text is read back to the very same tokens (`lex_spell`).
-/

namespace TableAtlas.Sql

open Fragment (plain join Legible)

/-- What may stand outside of quotes. -/
inductive Word
  | selecting
  | source
  | conditions
  | also
  | grouping
  | ordering
  | limit
  | offset
  | naming
  | comma
  | point
  | blank
  | newline
  | opening
  | closing
  | everything
  | placeholder
  | function (f : AggregateFunction)
  | operator (o : Operator)
  | direction (d : Direction)
  | number (n : UInt64)
  deriving DecidableEq, Repr

namespace Word

def text : Word → String
  | selecting => "SELECT "
  | source => "FROM "
  | conditions => "WHERE "
  | also => " AND "
  | grouping => "GROUP BY "
  | ordering => "ORDER BY "
  | limit => "LIMIT "
  | offset => "OFFSET "
  | naming => " AS "
  | comma => ", "
  | point => "."
  | blank => " "
  | newline => "\n"
  | opening => "("
  | closing => ")"
  | everything => "*"
  | placeholder => "?"
  | function f => f.word
  | operator o => o.word
  | direction d => d.keyword
  | number n => toString n.toNat

theorem isDigit_of_mem_text_number {n : UInt64} {c : Char} (h : c ∈ (number n).text.toList) :
    c.isDigit := by
  rw [text, Nat.toString_eq_repr, Nat.toList_repr] at h
  exact Nat.isDigit_of_mem_toDigits (by decide) (by decide) h

theorem repr_injective : Function.Injective Nat.repr := by
  intro m n h
  have hdigits : Nat.toDigits 10 m = Nat.toDigits 10 n := by
    rw [← Nat.toList_repr, ← Nat.toList_repr, h]
  have hread := congrArg (fun digits => Nat.ofDigitChars 10 digits 0) hdigits
  simpa [Nat.ofDigitChars_toDigits] using hread

theorem text_ne_nil (w : Word) : w.text.toList ≠ [] := by
  cases w with
  | number n =>
    rw [text, Nat.toString_eq_repr]
    simp
  | function f => cases f <;> decide
  | operator o => cases o <;> decide
  | direction d => cases d <;> decide
  | _ => decide

theorem backtick_notMem_text (w : Word) : backtick ∉ w.text.toList := by
  cases w with
  | number n =>
    intro h
    exact absurd (isDigit_of_mem_text_number h) (by decide)
  | function f => cases f <;> decide
  | operator o => cases o <;> decide
  | direction d => cases d <;> decide
  | _ => decide

theorem question_notMem_text {w : Word} (h : w ≠ placeholder) : '?' ∉ w.text.toList := by
  cases w with
  | placeholder => exact absurd rfl h
  | number n =>
    intro h
    exact absurd (isDigit_of_mem_text_number h) (by decide)
  | function f => cases f <;> decide
  | operator o => cases o <;> decide
  | direction d => cases d <;> decide
  | _ => decide

end Word

inductive Token
  | word (w : Word)
  | name (s : String)
  deriving DecidableEq, Repr

namespace Token

def isName : Token → Bool
  | word _ => false
  | name _ => true

def word? : Token → Option Word
  | word w => some w
  | name _ => none

def name? : Token → Option String
  | word _ => none
  | name s => some s

def lexemes : Token → Fragment
  | word w => plain w.text
  | name s => [.name s]

end Token

/-- The text of tokens. -/
def spell (ts : List Token) : Fragment :=
  ts.flatMap Token.lexemes

@[simp] theorem spell_nil : spell [] = [] := rfl

@[simp] theorem spell_cons (t : Token) (ts : List Token) : spell (t :: ts) = t.lexemes ++ spell ts :=
  rfl

@[simp] theorem spell_append (ts us : List Token) : spell (ts ++ us) = spell ts ++ spell us := by
  simp [spell]

/-! ## Names that words keep apart -/

/-- No two names touch. -/
def Apart (ts : List Token) : Prop :=
  ts.IsChain fun a b => a.isName = false ∨ b.isName = false

@[simp] theorem apart_nil : Apart [] := .nil

@[simp] theorem apart_singleton (t : Token) : Apart [t] := .singleton t

@[simp] theorem apart_word_cons {w : Word} {ts : List Token} : Apart (.word w :: ts) ↔ Apart ts := by
  rw [Apart, List.isChain_cons]
  exact and_iff_right fun _ _ => .inl rfl

/-- A word splits tokens in two parts that do not depend on each other. -/
@[simp] theorem apart_append_word_cons {w : Word} {ts us : List Token} :
    Apart (ts ++ .word w :: us) ↔ Apart ts ∧ Apart us := by
  rw [Apart, List.isChain_append]
  constructor
  · rintro ⟨hts, hus, -⟩
    exact ⟨hts, apart_word_cons.1 hus⟩
  · rintro ⟨hts, hus⟩
    refine ⟨hts, apart_word_cons.2 hus, fun a _ b hb => ?_⟩
    obtain rfl : Token.word w = b := by simpa using hb
    exact .inr rfl

@[simp] theorem apart_name_word_cons {s : String} {w : Word} {ts : List Token} :
    Apart (.name s :: .word w :: ts) ↔ Apart ts := by
  have h : Apart ([.name s] ++ .word w :: ts) ↔ Apart [.name s] ∧ Apart ts :=
    apart_append_word_cons
  simpa using h

/-- Tokens that may follow a name. -/
def WordLed (ts : List Token) : Prop :=
  ∀ t ∈ ts.head?, t.isName = false

theorem wordLed_nil : WordLed [] := by simp [WordLed]

theorem wordLed_word_cons (w : Word) (ts : List Token) : WordLed (.word w :: ts) := by
  simp [WordLed, Token.isName]

theorem WordLed.append {ts us : List Token} (hts : WordLed ts) (hus : WordLed us) :
    WordLed (ts ++ us) := by
  cases ts with
  | nil => exact hus
  | cons t ts => exact hts

theorem Apart.append {ts us : List Token} (hts : Apart ts) (hus : Apart us) (hled : WordLed us) :
    Apart (ts ++ us) :=
  List.isChain_append.2 ⟨hts, hus, fun _ _ u hu => .inr (hled u hu)⟩

/-- The tokens of each piece, with a word between each two pieces. -/
def separated (w : Word) (pieces : List (List Token)) : List Token :=
  List.intercalate [.word w] pieces

@[simp] theorem separated_nil (w : Word) : separated w [] = [] := rfl

@[simp] theorem separated_singleton (w : Word) (piece : List Token) :
    separated w [piece] = piece := by
  simp [separated]

@[simp] theorem separated_cons_cons (w : Word) (piece next : List Token)
    (pieces : List (List Token)) :
    separated w (piece :: next :: pieces) = piece ++ .word w :: separated w (next :: pieces) := by
  simp [separated]

theorem apart_separated {w : Word} {pieces : List (List Token)} (h : ∀ piece ∈ pieces, Apart piece) :
    Apart (separated w pieces) := by
  induction pieces with
  | nil => exact apart_nil
  | cons piece pieces ih =>
    have hpiece := h piece List.mem_cons_self
    have hrest := ih fun other hother => h other (List.mem_cons_of_mem _ hother)
    cases pieces with
    | nil => simpa using hpiece
    | cons next pieces =>
      rw [separated_cons_cons, apart_append_word_cons]
      exact ⟨hpiece, hrest⟩

theorem spell_separated (w : Word) (pieces : List (List Token)) :
    spell (separated w pieces) = join w.text (pieces.map spell) := by
  induction pieces with
  | nil => rfl
  | cons piece pieces ih =>
    cases pieces with
    | nil => simp [join]
    | cons next pieces =>
      rw [separated_cons_cons, spell_append, spell_cons, ih]
      simp [join, Token.lexemes]

theorem mem_separated {w : Word} {pieces : List (List Token)} {t : Token}
    (h : t ∈ separated w pieces) : t = .word w ∨ ∃ piece ∈ pieces, t ∈ piece := by
  induction pieces with
  | nil => simp at h
  | cons piece pieces ih =>
    cases pieces with
    | nil => exact .inr ⟨piece, List.mem_cons_self, by simpa using h⟩
    | cons next pieces =>
      rw [separated_cons_cons, List.mem_append, List.mem_cons] at h
      rcases h with h | h | h
      · exact .inr ⟨piece, List.mem_cons_self, h⟩
      · exact .inl h
      · exact (ih h).imp_right fun ⟨other, hother, ht⟩ => ⟨other, List.mem_cons_of_mem _ hother, ht⟩

/-- A qualified name, each part in quotes of its own. -/
def memberTokens (name : String) : List Token :=
  separated .point ((nameParts name).map fun part => [.name part])

theorem apart_memberTokens (name : String) : Apart (memberTokens name) := by
  refine apart_separated fun piece hpiece => ?_
  obtain ⟨part, -, rfl⟩ := List.mem_map.1 hpiece
  exact apart_singleton _

theorem spell_memberTokens (name : String) : spell (memberTokens name) = memberText name := by
  rw [memberTokens, spell_separated, List.map_map]
  rfl

theorem nameParts_append_point {first : String} (h : '.' ∉ first.toList) (rest : String) :
    nameParts (first ++ "." ++ rest) = first :: nameParts rest := by
  have hlist : (first ++ "." ++ rest).toList = first.toList ++ '.' :: rest.toList := by simp
  rw [nameParts, hlist, List.splitOn_append_cons_self_of_not_mem h]
  simp [nameParts]

theorem memberTokens_append_point {first : String} (h : '.' ∉ first.toList) (rest : String) :
    memberTokens (first ++ "." ++ rest) = .name first :: .word .point :: memberTokens rest := by
  obtain ⟨part, parts, hparts⟩ := List.exists_cons_of_ne_nil (nameParts_ne_nil rest)
  rw [memberTokens, nameParts_append_point h, memberTokens, hparts]
  simp

/-! ## Reading tokens back -/

theorem head?_spell_word_cons (w : Word) (ts : List Token) :
    ∀ l ∈ (spell (.word w :: ts)).head?, l.isName = false := by
  obtain ⟨c, cs, h⟩ := List.exists_cons_of_ne_nil w.text_ne_nil
  rw [spell_cons, Token.lexemes, plain, h]
  intro l hl
  obtain rfl : Lexeme.char c = l := by simpa using hl
  rfl

theorem legible_spell {ts : List Token} (h : Apart ts) : Legible (spell ts) := by
  induction ts with
  | nil => exact Fragment.legible_nil
  | cons t ts ih =>
    have hts := ih (List.IsChain.tail h)
    cases t with
    | word w => exact (Fragment.legible_plain_append w.backtick_notMem_text).2 hts
    | name s =>
      refine Fragment.legible_name_cons.2 ⟨?_, hts⟩
      match ts with
      | [] => simp
      | .word w :: ts => exact head?_spell_word_cons w ts
      | .name other :: ts =>
        have := (List.isChain_cons_cons.1 h).1
        simp [Token.isName] at this

/-- The text of tokens whose names are kept apart is read back to them. -/
theorem lex_spell {ts : List Token} (h : Apart ts) : lex (spell ts).text = some (spell ts) :=
  Fragment.lex_text (legible_spell h)

/-! ## Names and words among tokens -/

/-- The names of tokens, in order. -/
def quotedNames (ts : List Token) : List String :=
  ts.filterMap Token.name?

@[simp] theorem quotedNames_nil : quotedNames [] = [] := rfl

@[simp] theorem quotedNames_word_cons (w : Word) (ts : List Token) :
    quotedNames (.word w :: ts) = quotedNames ts := rfl

@[simp] theorem quotedNames_name_cons (s : String) (ts : List Token) :
    quotedNames (.name s :: ts) = s :: quotedNames ts := rfl

@[simp] theorem quotedNames_append (ts us : List Token) :
    quotedNames (ts ++ us) = quotedNames ts ++ quotedNames us := by
  simp [quotedNames]

@[simp] theorem quotedNames_separated (w : Word) (pieces : List (List Token)) :
    quotedNames (separated w pieces) = pieces.flatMap quotedNames := by
  induction pieces with
  | nil => rfl
  | cons piece pieces ih =>
    cases pieces with
    | nil => simp
    | cons next pieces =>
      rw [separated_cons_cons, quotedNames_append, quotedNames_word_cons, ih]
      rfl

@[simp] theorem quotedNames_memberTokens (name : String) :
    quotedNames (memberTokens name) = nameParts name := by
  simp [memberTokens, List.flatMap_map]

theorem filterMap_name?_spell (ts : List Token) :
    (spell ts).filterMap Lexeme.name? = quotedNames ts := by
  induction ts with
  | nil => rfl
  | cons t ts ih =>
    rw [spell_cons, List.filterMap_append, ih]
    cases t with
    | word w =>
      have hword : (plain w.text).filterMap Lexeme.name? = [] := by
        simp [plain, Lexeme.name?]
      rw [Token.lexemes, hword]
      rfl
    | name s => rfl

theorem filterMap_char?_spell (ts : List Token) :
    (spell ts).filterMap Lexeme.char? =
      (ts.filterMap Token.word?).flatMap fun w => w.text.toList := by
  induction ts with
  | nil => rfl
  | cons t ts ih =>
    rw [spell_cons, List.filterMap_append, ih]
    cases t with
    | word w =>
      have hword : (plain w.text).filterMap Lexeme.char? = w.text.toList := by
        rw [plain, List.filterMap_map]
        exact List.filterMap_some
      rw [Token.lexemes, hword]
      rfl
    | name s => rfl

end TableAtlas.Sql
