import TableAtlas.Text.Percent

/-!
# Reading files

A tree of folders and files, and the outcome of reading the text at a path in it. A path is resolved
name by name from the working folder, or from the root if it begins with a slash. A path that holds
the character zero is refused as a whole, and so is one that is too long; a single name that is too
long is refused only where it would be looked up in a folder. Lengths are counted in bytes.
-/

namespace TableAtlas

inductive FileTree
  | file (content : List UInt8)
  | folder (entries : List (String × FileTree))
  deriving Inhabited

/-- Why a file cannot be read as text. -/
inductive FileFault
  | zeroInPath
  | nameTooLong
  | notFound
  | notAFolder
  | isFolder
  | notText
  deriving DecidableEq, Repr

def FileFault.message : FileFault → String
  | zeroInPath => "file name contained an unexpected NUL byte"
  | nameTooLong => "File name too long (os error 36)"
  | notFound => "No such file or directory (os error 2)"
  | notAFolder => "Not a directory (os error 20)"
  | isFolder => "Is a directory (os error 21)"
  | notText => "stream did not contain valid UTF-8"

namespace FileTree

/-- The most bytes a name in a folder has. -/
def longestName : Nat := 255

/-- The most bytes a path has. -/
def longestPath : Nat := 4095

/-- The nodes on the way from a node up to the root, the node first. -/
abbrev Trail := List FileTree

/-- Goes from a folder to one of its entries, to itself or to its parent. -/
def step (trail : Trail) (name : String) : Except FileFault Trail :=
  match trail with
  | [] | .file _ :: _ => .error .notAFolder
  | .folder entries :: above =>
    if name = "" ∨ name = "." then .ok trail
    else if name = ".." then .ok (if above.isEmpty then trail else above)
    else if longestName < name.utf8ByteSize then .error .nameTooLong
    else
      match entries.find? (·.1 = name) with
      | some (_, node) => .ok (node :: trail)
      | none => .error .notFound

/-- Goes from name to name, and stops at the first that cannot be entered. -/
def walk (trail : Trail) : List String → Except FileFault Trail
  | [] => .ok trail
  | name :: rest => do walk (← step trail name) rest

/-- The bytes at a path, seen from a working folder given by its path from the root. -/
def readBytes (root : FileTree) (workingFolder : List String) (path : String) :
    Except FileFault (List UInt8) := do
  if path.toList.contains '\x00' then throw .zeroInPath
  if path = "" then throw .notFound
  if longestPath < path.utf8ByteSize then throw .nameTooLong
  let start ← if path.toList.head? = some '/' then .ok [root] else walk [root] workingFolder
  let trail ← walk start ((path.toList.splitOn '/').map String.ofList)
  match trail with
  | .file content :: _ => return content
  | _ => throw .isFolder

def readText (root : FileTree) (workingFolder : List String) (path : String) :
    Except FileFault String := do
  match Text.ofBytes? (← readBytes root workingFolder path) with
  | some text => return text
  | none => throw .notText

end FileTree

end TableAtlas
