import TableAtlas.Configuration.Codec
import TableAtlas.Error
import TableAtlas.Json.Reader

/-!
# Configuration documents

Reads a server's configuration from a text or from a file. What is read is also checked.
-/

namespace TableAtlas

namespace Configuration

/-- The configuration itself if nothing in it is blank. -/
def validate (c : Configuration) : Except Error Configuration :=
  match c.blank? with
  | some part => .error (.configuration (.blank part))
  | none => .ok c

end Configuration

namespace ServerConfiguration

def ofText (text : String) : Except Error ServerConfiguration := do
  let (document, ended) := Json.readDocument (Text.toBytes text)
  match Codec.decodeText ServerConfiguration.codec document ended with
  | .error problem => throw (.configuration (.invalidDocument problem))
  | .ok c =>
    discard c.database.validate
    return c

/-- Reads the document at a path, seen from a working folder. -/
def load (files : FileTree) (workingFolder : List String) (path : String) :
    Except Error ServerConfiguration :=
  match files.readText workingFolder path with
  | .error fault => .error (.configuration (.unreadable path fault))
  | .ok text => ofText text

end ServerConfiguration

end TableAtlas
