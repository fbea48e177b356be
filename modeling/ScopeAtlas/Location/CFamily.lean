import ScopeAtlas.Data.Json
import ScopeAtlas.Location.Manifest
import ScopeAtlas.Location.Specifier
import ScopeAtlas.Text.ShellWords

/-!
# Locating C and C++ headers

A header is looked for beside the including file and then in the include
directories: those of the compile commands, the root of the project and the
usual directories below it.
-/

namespace ScopeAtlas.Location.CFamily

open ScopeAtlas.Data ScopeAtlas.Files ScopeAtlas.Text

/-- The headers of the C standard library. -/
def standardHeaders : List String :=
  ["assert.h", "complex.h", "ctype.h", "errno.h", "fenv.h", "float.h", "inttypes.h", "iso646.h",
    "limits.h", "locale.h", "math.h", "setjmp.h", "signal.h", "stdalign.h", "stdarg.h",
    "stdatomic.h", "stdbool.h", "stddef.h", "stdint.h", "stdio.h", "stdlib.h", "stdnoreturn.h",
    "string.h", "tgmath.h", "threads.h", "time.h", "uchar.h", "wchar.h", "wctype.h"]

/-- The headers of the C++ standard library. -/
def standardLibraryHeaders : List String :=
  ["algorithm", "any", "array", "atomic", "bitset", "cassert", "cctype", "cerrno", "cfenv",
    "cfloat", "chrono", "cinttypes", "climits", "clocale", "cmath", "codecvt", "complex",
    "condition_variable", "csetjmp", "csignal", "cstdarg", "cstddef", "cstdint", "cstdio",
    "cstdlib", "cstring", "ctime", "cuchar", "cwchar", "cwctype", "deque", "exception",
    "execution", "filesystem", "forward_list", "fstream", "functional", "future",
    "initializer_list", "iomanip", "ios", "iosfwd", "iostream", "istream", "iterator", "limits",
    "list", "locale", "map", "memory", "memory_resource", "mutex", "new", "numeric", "optional",
    "ostream", "queue", "random", "ratio", "regex", "scoped_allocator", "set", "shared_mutex",
    "span", "sstream", "stack", "stdexcept", "streambuf", "string", "string_view", "syncstream",
    "system_error", "thread", "tuple", "type_traits", "typeindex", "typeinfo", "unordered_map",
    "unordered_set", "utility", "valarray", "variant", "vector", "version"]

/-! ## Manifests -/

/-- The directory that an include option names, seen from the directory of the command.  Another
option, and nothing, name none. -/
def includeDir (files : FileTree) (directory : Path) (value : String) :
    Except Fault (List Path) := do
  if value.isEmpty || startsWith "-" value then return []
  if startsWith "/" value then return [Path.ofString value]
  return [← files.resolve (directory.child value)]

/-- The value of a bare option: the next argument, which must be a text unless it is empty. -/
def nextArgument : List Value → Except Fault String
  | next :: _ => if next.isEmpty then .ok "" else textOr .textExpected next
  | [] => .ok ""

/-- The include directories among arguments, either in one word with the option or in the next
word. -/
def argumentDirs (files : FileTree) (directory : Path) : List Value → Except Fault (List Path)
  | [] => .ok []
  | argument :: rest => do
      let argument ← textOr .textExpected argument
      let found ←
        if startsWith "-I" argument then
          let joined := dropChars 2 argument
          if joined.isEmpty then includeDir files directory (← nextArgument rest)
          else includeDir files directory joined
        else pure []
      return found ++ (← argumentDirs files directory rest)

/-- The include directories when a table stands in place of the arguments: its keys are the
arguments, but the argument after a bare option cannot be had. -/
def keyDirs (files : FileTree) (directory : Path) : List String → Except Fault (List Path)
  | [] => .ok []
  | key :: rest => do
      let found ←
        if startsWith "-I" key then
          let joined := dropChars 2 key
          if joined.isEmpty then if rest.isEmpty then pure [] else throw .placeMissing
          else includeDir files directory joined
        else pure []
      return found ++ (← keyDirs files directory rest)

/-- The words of a command, which must be a text. -/
def commandWords (command : Value) : Except Fault (List Value) := do
  let line ← textOr .textExpected command
  match ShellWords.words line with
  | .ok words => return words.map .text
  | .error _ => throw .commandRefused

/-- The arguments of a compile command: given as such, or the words of the command line. -/
def argumentsOf (command : List (String × Value)) : Except Fault Value :=
  let arguments := (command.lookup "arguments").getD .null
  if arguments.isEmpty then
    .list <$> commandWords ((command.lookup "command").getD (.text ""))
  else .ok arguments

/-- The directory in which a command is run. -/
def directoryOf (root : Path) (command : List (String × Value)) : Except Fault Path :=
  let directory := (command.lookup "directory").getD .null
  if directory.isEmpty then .ok root else Path.ofString <$> textOr .itemRefused directory

/-- The include directories of one compile command. -/
def includeDirs (files : FileTree) (root : Path) (command : List (String × Value)) :
    Except Fault (List Path) := do
  let arguments ← argumentsOf command
  let directory ← directoryOf root command
  match arguments with
  | .list items => argumentDirs files directory items
  | .table entries => keyDirs files directory (entries.map Prod.fst)
  | .text _ => return []
  | _ => throw .itemsExpected

/-- Adds paths that are not there yet. -/
def addNewPaths (known new : List Path) : List Path :=
  new.foldl (fun known path => if known.contains path then known else known ++ [path]) known

/-- The distinct include directories of a file of compile commands, in order. -/
def commandIncludeDirs (files : FileTree) (root : Path) (text : String) :
    Except Fault (List Path) := do
  match ← Json.parse? text with
  | some (.list commands) =>
      let dirs ← commands.flatMapM fun command =>
        match command with
        | .table entries => includeDirs files root entries
        | _ => .ok []
      return addNewPaths [] dirs
  | _ => return []

/-- The root and the usual include directories below it. -/
def usualIncludeDirs (files : FileTree) (root : Path) : Except PathFault (List Path) := do
  return root ::
    (← files.directoriesAmong (["include", "src", "lib", "third_party"].map root.child))

/-- Reads a file of compile commands. -/
def readManifest (files : FileTree) (root : Path) (text : String) : Except Fault Manifest := do
  let dirs ← commandIncludeDirs files root text
  return { sourceDirs := addNewPaths dirs (← usualIncludeDirs files root) }

/-- The manifest of a project without compile commands. -/
def plainManifest (files : FileTree) (root : Path) : Except Fault Manifest := do
  return { sourceDirs := ← usualIncludeDirs files root }

/-- The project with one more include directory. -/
def addIncludeDir (project : Project) (path : Path) : Except PathFault Project := do
  let full ←
    if path.isAbsolute then pure path else project.files.resolve (project.root.join path)
  return { project with manifest :=
    { project.manifest with sourceDirs := addNewPaths project.manifest.sourceDirs [full] } }

/-! ## Headers -/

/-- The header, or the namespace, belongs to the standard library. -/
def isBuiltin (name : String) : Bool :=
  name == "std" || startsWith "std::" name ||
    standardHeaders.contains (afterLast "/" name) ||
    standardLibraryHeaders.contains (afterLast "/" name)

/-- The specifier can name a file: it has an ending or a directory. -/
def looksLikeHeader (specifier : String) : Bool :=
  contains "." (afterLast "/" specifier) || contains "/" specifier

/-- The class of a specifier.  What looks like a file is taken for a header of the project. -/
def classify (specifier : String) : ImportClass :=
  if isBuiltin specifier then .builtin
  else if contains "::" specifier || !looksLikeHeader specifier then .unknown
  else if startsWith "/" specifier then .absolute
  else .relative

/-- The file of a header. -/
def locate? (project : Project) (specifier : String) (current : Path) :
    Except PathFault (Option Path) := do
  let files := project.files
  match classify specifier with
  | .absolute => files.firstFile? [Path.ofString specifier]
  | .relative =>
      let dirs ←
        if project.manifest.sourceDirs.isEmpty then usualIncludeDirs files project.root
        else pure project.manifest.sourceDirs
      files.firstResolved? (((project.absolute current).parent :: dirs).map fun directory =>
        (directory.child specifier).normal)
  | _ => return none

end ScopeAtlas.Location.CFamily
