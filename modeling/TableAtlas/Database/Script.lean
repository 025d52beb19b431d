import TableAtlas.Database.Run

/-!
# Scripted databases

A database that plays its answers from a script. Each entry of the script answers the statements whose
text holds the pattern of the entry, as often as the entry allows; later entries go before earlier
ones. A statement that no entry answers has no rows.
-/

namespace TableAtlas

structure ScriptEntry where
  pattern : String
  reply : Reply
  /-- How many more statements the entry answers; without bound if absent. -/
  remaining : Option Nat := none

/-- The entries, the last added first. -/
abbrev Script := List ScriptEntry

namespace Script

/-- The pattern occurs in the text. -/
def occursIn (pattern : List Char) : List Char → Bool
  | [] => pattern.isEmpty
  | c :: rest => pattern.isPrefixOf (c :: rest) || occursIn pattern rest

def add (script : Script) (entry : ScriptEntry) : Script :=
  entry :: script

/-- The script of entries in the order in which they were added. -/
def ofList (entries : List ScriptEntry) : Script :=
  entries.reverse

def answer (sql : List Char) : Script → Reply × Script
  | [] => (.ok [], [])
  | entry :: rest =>
    if entry.remaining ≠ some 0 ∧ occursIn entry.pattern.toList sql then
      (entry.reply, { entry with remaining := entry.remaining.map (· - 1) } :: rest)
    else
      let (reply, rest) := answer sql rest
      (reply, entry :: rest)

def source : Program.Source Script where
  answer script statement := answer statement.sql.toList script

end Script

end TableAtlas
