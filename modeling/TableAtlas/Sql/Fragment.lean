/-!
# Fragments of SQL text

A piece of SQL text is a list of lexemes: characters that stand for themselves, and names that are
written between backticks. A backtick inside a name is written twice, so a name may hold any
characters.
-/

namespace TableAtlas.Sql

inductive Lexeme
  /-- A character outside of quotes. -/
  | char (c : Char)
  /-- A quoted name. -/
  | name (s : String)
  deriving DecidableEq, Repr

/-- The character that opens and closes a quoted name. -/
def backtick : Char := '\x60'

/-- The inside of a quoted name. -/
def doubleBackticks : List Char → List Char
  | [] => []
  | c :: rest =>
    if c = backtick then backtick :: backtick :: doubleBackticks rest
    else c :: doubleBackticks rest

def quoteName (cs : List Char) : List Char :=
  backtick :: doubleBackticks cs ++ [backtick]

def Lexeme.chars : Lexeme → List Char
  | char c => [c]
  | name s => quoteName s.toList

abbrev Fragment := List Lexeme

namespace Fragment

/-- Text that is taken over as it is. -/
def plain (s : String) : Fragment :=
  s.toList.map .char

def chars (f : Fragment) : List Char :=
  f.flatMap Lexeme.chars

def text (f : Fragment) : String :=
  String.ofList f.chars

/-- Fragments with the same text between each two. -/
def join (separator : String) (fs : List Fragment) : Fragment :=
  List.intercalate (plain separator) fs

@[simp] theorem chars_nil : chars [] = [] := rfl

@[simp] theorem chars_cons (l : Lexeme) (f : Fragment) : chars (l :: f) = l.chars ++ chars f := rfl

@[simp] theorem chars_append (f g : Fragment) : chars (f ++ g) = chars f ++ chars g := by
  simp [chars]

@[simp] theorem chars_plain (s : String) : chars (plain s) = s.toList := by
  simp [chars, plain, List.flatMap_map, Lexeme.chars]

@[simp] theorem text_plain (s : String) : text (plain s) = s := by
  simp [text]

end Fragment

/-- The text of a quoted name. -/
def escapeName (s : String) : String :=
  Fragment.text [.name s]

end TableAtlas.Sql
