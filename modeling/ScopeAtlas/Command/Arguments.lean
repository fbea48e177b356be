import ScopeAtlas.Data.Display
import ScopeAtlas.Text.Blank
import ScopeAtlas.Text.Letter
import ScopeAtlas.Text.Similarity
import ScopeAtlas.Text.Split

/-!
# The command line

What a user can ask for, how it is spelt, and what is said when it is not
understood.  Options may stand before and after the operand of a command; options
before the command belong to the program itself.
-/

namespace ScopeAtlas.Command

open ScopeAtlas.Data ScopeAtlas.Text

/-- The parts of the program that have a help page. -/
inductive Page where
  | overview
  | analyze
  | scopes
deriving Repr, DecidableEq, Inhabited

/-- What a user asks for. -/
inductive Action where
  | version
  | help (page : Page)
  | analyze (path : String) (asJson noInverse noContains listUnresolved : Bool)
  | scopes (file : String) (asJson : Bool)
deriving Repr, DecidableEq

/-- Why a command line is not understood. -/
inductive Misuse where
  /-- Nothing is asked for. -/
  | nothingAsked
  /-- The command line of a page is not understood. -/
  | onPage (page : Page) (reason : String)
  /-- An option is given a value. -/
  | valueGiven (option : String)
  /-- An operand holds a null character. -/
  | nullCharacter
deriving Repr, DecidableEq

namespace Page

/-- The words that lead to a page. -/
def words : Page → String
  | .overview => ""
  | .analyze => " analyze"
  | .scopes => " scopes"

/-- What follows the words of a page. -/
def operands : Page → String
  | .overview => " [OPTIONS] COMMAND [ARGS]..."
  | .analyze => " [OPTIONS] [PATH]"
  | .scopes => " [OPTIONS] FILE"

def usage (program : String) (page : Page) : String :=
  "Usage: " ++ program ++ page.words ++ page.operands ++ "\n"

/-- What a page says below the usage. -/
def body : Page → List String
  | .overview =>
      ["  scopegraph - Scope extraction and relationship graphs for source trees.",
        "",
        "Options:",
        "  --version      Show the version and exit.",
        "  -v, --verbose  Enable debug logging",
        "  --help         Show this message and exit.",
        "",
        "Commands:",
        "  analyze  Extract scopes and resolve relationships for a project.",
        "  scopes   Extract and list the scopes of FILE."]
  | .analyze =>
      ["  Extract scopes and resolve relationships for a project.",
        "",
        "  PATH is the project root (default: current directory).",
        "",
        "Options:",
        "  --json         Output as JSON",
        "  --no-inverse   Skip mirrored inverse edges",
        "  --no-contains  Skip CONTAINS edges",
        "  --unresolved   List unresolved references",
        "  --help         Show this message and exit."]
  | .scopes =>
      ["  Extract and list the scopes of FILE.",
        "",
        "  Config is loaded from the current directory.",
        "",
        "Options:",
        "  --json  Output as JSON",
        "  --help  Show this message and exit."]

/-- The text of a page. -/
def text (program : String) (page : Page) : String :=
  page.usage program ++ "\n" ++ String.intercalate "\n" page.body ++ "\n"

/-- The long options of a page. -/
def options : Page → List String
  | .overview => ["--version", "--verbose", "--help"]
  | .analyze => ["--json", "--no-inverse", "--no-contains", "--unresolved", "--help"]
  | .scopes => ["--json", "--help"]

/-- The short options of a page, with the long options they stand for. -/
def shortOptions : Page → List (Char × String)
  | .overview => [('v', "--verbose")]
  | _ => []

end Page

/-- What is said about a word that is not known, with the known words that are close to it. -/
def unknownWord (noun word : String) (known : List String) : String :=
  let start := "No such " ++ noun ++ " " ++ Display.quoted word ++ "."
  match (closeWords word known).map Display.quoted with
  | [] => start
  | [close] => start ++ " Did you mean " ++ close ++ "?"
  | close => start ++ " (Did you mean one of: " ++ Display.commas close ++ "?)"

/-- The options and the operands of a command line. -/
structure Words where
  options : List String := []
  operands : List String := []

/-- The long options that a cluster of short ones stands for. -/
def shortCluster (page : Page) : List Char → Except Misuse (List String)
  | [] => .ok []
  | c :: rest =>
      match page.shortOptions.lookup c with
      | some option => (shortCluster page rest).map (option :: ·)
      | none => .error (.onPage page (unknownWord "option" (String.ofList ['-', c]) []))

/-- The long options that a word stands for. -/
def optionsOf (page : Page) (word : String) : Except Misuse (List String) :=
  if startsWith "--" word then
    let name := beforeFirst "=" word
    if !page.options.contains name then
      .error (.onPage page (unknownWord "option" name page.options))
    else if name == word then .ok [name]
    else .error (.valueGiven name)
  else shortCluster page (word.toList.drop 1)

/-- Sorts words into options and operands.  Two dashes end the options, and where operands end
them too, all later words are operands. -/
def sortWords (page : Page) (operandEnds : Bool) : List String → Except Misuse Words
  | [] => .ok {}
  | word :: rest =>
      if word == "--" then .ok { operands := rest }
      else if startsWith "-" word && 1 < word.length then do
        let options ← optionsOf page word
        let later ← sortWords page operandEnds rest
        return { later with options := options ++ later.options }
      else if operandEnds then .ok { operands := word :: rest }
      else do
        let later ← sortWords page operandEnds rest
        return { later with operands := word :: later.operands }

/-- The complaint about operands that are too many. -/
def tooMany (page : Page) (extra : List String) : Misuse :=
  .onPage page <| "Got unexpected extra argument" ++ (if extra.length == 1 then "" else "s") ++
    " (" ++ String.intercalate " " extra ++ ")"

/-- What the operand of a command must be. -/
inductive Expected where
  | directory
  | file
deriving Repr, DecidableEq

/-- How the disk answers for an operand. -/
structure Disk where
  isFile : String → Bool
  isDirectory : String → Bool

/-- What is wrong with an operand, if anything. -/
def operandFlaw? (disk : Disk) (expected : Expected) (operand : String) : Option String :=
  let shown := Display.quoted operand
  match expected with
  | .directory =>
      if disk.isFile operand then some ("Directory " ++ shown ++ " is a file.")
      else if disk.isDirectory operand then none
      else some ("Directory " ++ shown ++ " does not exist.")
  | .file =>
      if disk.isFile operand then none
      else if disk.isDirectory operand then some ("File " ++ shown ++ " is a directory.")
      else some ("File " ++ shown ++ " does not exist.")

/-- Checks the operand of a command, and that no others follow. -/
def checkOperand (disk : Disk) (page : Page) (expected : Expected) (label operand : String)
    (extra : List String) : Except Misuse String :=
  if contains "\x00" operand then .error .nullCharacter
  else match operandFlaw? disk expected operand with
  | some flaw => .error (.onPage page ("Invalid value for '" ++ label ++ "': " ++ flaw))
  | none => if extra.isEmpty then .ok operand else .error (tooMany page extra)

/-- Reads the words after `analyze`. -/
def readAnalyze (disk : Disk) (words : List String) : Except Misuse Action := do
  let sorted ← sortWords .analyze false words
  if sorted.options.contains "--help" then return .help .analyze
  let path ← checkOperand disk .analyze .directory "[PATH]" (sorted.operands.headD ".")
    (sorted.operands.drop 1)
  let has := sorted.options.contains
  return .analyze path (has "--json") (has "--no-inverse") (has "--no-contains")
    (has "--unresolved")

/-- Reads the words after `scopes`. -/
def readScopes (disk : Disk) (words : List String) : Except Misuse Action := do
  let sorted ← sortWords .scopes false words
  if sorted.options.contains "--help" then return .help .scopes
  match sorted.operands with
  | [] => throw (.onPage .scopes "Missing argument 'FILE'.")
  | file :: extra =>
      let file ← checkOperand disk .scopes .file "FILE" file extra
      return .scopes file (sorted.options.contains "--json")

/-- The words at the beginning, sorted, and what the options among them ask for on their own. -/
def readOverview (words : List String) : Except Misuse (Words × Option Action) := do
  let sorted ← sortWords .overview true words
  match sorted.options.find? fun option => option == "--version" || option == "--help" with
  | some option => return (sorted, some (if option == "--version" then .version else .help .overview))
  | none => return (sorted, none)

/-- The word begins like an option: with neither a letter nor a digit. -/
def looksLikeOption (word : String) : Bool := word.toList.head?.any (!isAlphanumeric ·)

/-- What is asked for by a word that is no command.  One that looks like an option is read again as
such, with all that follow it. -/
def readUnknown (words : List String) : Except Misuse Action := do
  let name := words.headD ""
  let asked ← if looksLikeOption name then (·.2) <$> readOverview words else pure none
  match asked with
  | some action => return action
  | none => throw (.onPage .overview (unknownWord "command" name ["analyze", "scopes"]))

/-- Reads a command line. -/
def readWords (disk : Disk) (words : List String) : Except Misuse Action := do
  if words.isEmpty then throw .nothingAsked
  let (sorted, asked) ← readOverview words
  match asked, sorted.operands with
  | some action, _ => return action
  | none, [] => throw (.onPage .overview "Missing command.")
  | none, name :: rest =>
      if name == "analyze" then readAnalyze disk rest
      else if name == "scopes" then readScopes disk rest
      else readUnknown (name :: rest)

/-- What is said about a command line that is not understood. -/
def Misuse.message (program : String) : Misuse → String
  | .nothingAsked => Page.text program .overview
  | .onPage page reason =>
      page.usage program ++ "Try '" ++ program ++ page.words ++ " --help' for help.\n\nError: " ++
        reason ++ "\n"
  | .valueGiven option => "Error: Option " ++ Display.quoted option ++ " does not take a value.\n"
  | .nullCharacter => ""

end ScopeAtlas.Command
