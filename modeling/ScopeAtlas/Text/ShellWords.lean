/-!
# Command lines

A command line is cut into words at white space.  A backslash takes the next
character as it is, single quotes take everything as it is, and between double
quotes a backslash is dropped only before a quote or another backslash.
-/

namespace ScopeAtlas.Text.ShellWords

/-- Why a command line cannot be cut into words. -/
inductive Flaw where
  /-- A quote is not closed. -/
  | openQuote
  /-- A backslash ends the line. -/
  | danglingEscape
deriving Repr, DecidableEq

/-- Where in a command line the next character stands. -/
inductive State where
  /-- Between two words. -/
  | between
  /-- In a word. -/
  | word
  /-- Between quotes of the given kind. -/
  | quoted (mark : Char)
  /-- After a backslash outside quotes. -/
  | escaped
  /-- After a backslash between double quotes. -/
  | escapedInQuotes
deriving Repr, DecidableEq

/-- White space between words. -/
def isSpace (c : Char) : Bool := c == ' ' || c == '\t' || c == '\r' || c == '\n'

def isQuote (c : Char) : Bool := c == '"' || c == '\''

/-- Puts a finished word, given backwards, in front of the later words. -/
def emit (word : List Char) (later : Except Flaw (List String)) : Except Flaw (List String) :=
  later.map (String.ofList word.reverse :: ·)

/-- The words from a state on; `word` holds the current word backwards. -/
def wordsFrom : State → (word : List Char) → List Char → Except Flaw (List String)
  | .between, _, [] => .ok []
  | .word, word, [] => emit word (.ok [])
  | .quoted _, _, [] => .error .openQuote
  | .escaped, _, [] => .error .danglingEscape
  | .escapedInQuotes, _, [] => .error .danglingEscape
  | .between, _, c :: rest =>
      if isSpace c then wordsFrom .between [] rest
      else if c == '\\' then wordsFrom .escaped [] rest
      else if isQuote c then wordsFrom (.quoted c) [] rest
      else wordsFrom .word [c] rest
  | .word, word, c :: rest =>
      if isSpace c then emit word (wordsFrom .between [] rest)
      else if c == '\\' then wordsFrom .escaped word rest
      else if isQuote c then wordsFrom (.quoted c) word rest
      else wordsFrom .word (c :: word) rest
  | .quoted mark, word, c :: rest =>
      if c == mark then wordsFrom .word word rest
      else if c == '\\' && mark == '"' then wordsFrom .escapedInQuotes word rest
      else wordsFrom (.quoted mark) (c :: word) rest
  | .escaped, word, c :: rest => wordsFrom .word (c :: word) rest
  | .escapedInQuotes, word, c :: rest =>
      if c == '"' || c == '\\' then wordsFrom (.quoted '"') (c :: word) rest
      else wordsFrom (.quoted '"') (c :: '\\' :: word) rest

/-- The words of a command line. -/
def words (line : String) : Except Flaw (List String) := wordsFrom .between [] line.toList

end ScopeAtlas.Text.ShellWords
