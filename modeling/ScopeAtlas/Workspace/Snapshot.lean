import ScopeAtlas.Settings.Sources
import ScopeAtlas.Syntax.Stored
import ScopeAtlas.Workspace.Survey

/-!
# Snapshots

A snapshot is a workspace as data: its files, and for every source file the syntax
tree that a parser made of it.  A tree belongs to a language and to the bytes of a
file, so files with the same content in the same language share one.
-/

namespace ScopeAtlas.Workspace

open ScopeAtlas.Data ScopeAtlas.Files ScopeAtlas.Language ScopeAtlas.Settings ScopeAtlas.Syntax

/-- The value of a hexadecimal digit. -/
def hexDigit? (c : Char) : Option Nat :=
  if '0' ≤ c ∧ c ≤ '9' then some (c.toNat - '0'.toNat)
  else if 'a' ≤ c ∧ c ≤ 'f' then some (c.toNat - 'a'.toNat + 10)
  else if 'A' ≤ c ∧ c ≤ 'F' then some (c.toNat - 'A'.toNat + 10)
  else none

/-- Bytes written with two hexadecimal digits each. -/
def unhex? : List Char → Option (List UInt8)
  | [] => some []
  | [_] => none
  | high :: low :: rest => do
      let high ← hexDigit? high
      let low ← hexDigit? low
      let later ← unhex? rest
      return UInt8.ofNat (high * 16 + low) :: later

/-- The bytes of a file: a text, or a table that holds them in hexadecimal digits. -/
def bytesOf? : Value → Option ByteArray
  | .text content => some content.toUTF8
  | value => do
      let written ← value.get? "hex"
      let digits ← written.text?
      let bytes ← unhex? digits.toList
      return ⟨bytes.toArray⟩

/-- A file, or for null an empty directory. -/
def entryOf? : Value → Option Entry
  | .null => some (.directory [])
  | value => (bytesOf? value).map Entry.file

/-- A disk that holds one empty directory, which is also the one relative paths are seen from. -/
def emptyDisk (root : Path) : FileTree :=
  { top := (Entry.directory []).put root.parts [], here := root }

/-- Adds a file that is stored as its path and its content. -/
def addStored? (files : FileTree) : Value → Option FileTree
  | .list [.text path, content] =>
      (entryOf? content).map (files.add (files.here.child path))
  | _ => none

/-- The disk on which a list of stored files lies below a directory. -/
def diskOf? (root : Path) (stored : List Value) : Option FileTree :=
  stored.foldlM addStored? (emptyDisk root)

/-- What a parser made of a file. -/
inductive Parsed where
  | tree (root : Node)
  | crash

/-- A parsed file: its language, its bytes and what was made of them. -/
structure ParsedFile where
  language : String
  content : ByteArray
  parsed : Parsed

/-- What a parser made of a file, as it is stored. -/
def Parsed.ofValue? : Value → Option Parsed
  | .text "crash" => some .crash
  | value => (Node.ofValue? value).map Parsed.tree

/-- The parsed files of a disk; a tree without a source file belongs to none. -/
def parsedFiles? (files : FileTree) (registry : Registry) (trees : List (String × Value)) :
    Option (List ParsedFile) :=
  trees.foldlM (fun found (path, stored) => do
    let parsed ← Parsed.ofValue? stored
    match registry.languageForPath path, files.bytes? (files.here.child path) with
    | .ok language, some content =>
        return { language := language, content := content, parsed := parsed } :: found
    | _, _ => return found) []

/-- Parses by looking the tree up. -/
def storedParser (parsed : List ParsedFile) : Parser := fun language content =>
  match parsed.find? fun file =>
      file.language == language && file.content.data == content.data with
  | some { parsed := .tree root, .. } => .ok root
  | some { parsed := .crash, .. } => .error "parser crashed"
  | none => .error "no syntax tree"

/-- A workspace as data. -/
structure Snapshot where
  surroundings : Surroundings
  parsed : List ParsedFile

/-- The environment, whose values are texts. -/
def environmentOf? (value : Value) : Option (List (String × String)) := do
  let entries ← value.table?
  entries.mapM fun (name, content) => do return (name, ← content.text?)

/-- Reads a snapshot: the directory it shows, the home directory of the user, the environment,
the files and the trees. -/
def Snapshot.ofValue? (registry : Registry) (value : Value) : Option Snapshot := do
  let root ← (← value.get? "root").text?
  let home ← (← value.get? "home").text?
  let environment ← environmentOf? ((value.get? "env").getD (.table []))
  let stored ← ((value.get? "files").getD (.list [])).list?
  let files ← diskOf? (Path.ofString root) stored
  let trees ← ((value.get? "trees").getD (.table [])).table?
  let parsed ← parsedFiles? files registry trees
  return {
    surroundings := { files := files, home := home, environment := environment }
    parsed := parsed }

end ScopeAtlas.Workspace
