/-!
# Words of a command line

A command line is cut into words at blanks. Apostrophes keep everything between them as it is;
between quotation marks a backslash keeps the next quotation mark or backslash; elsewhere it keeps
any next character. Nothing else is special.
-/

namespace GoBindings.CommandLine

/-- Why a command line has no words. -/
inductive WordsError where
  /-- A quote is not closed. -/
  | openQuote
  /-- A backslash has nothing after it. -/
  | danglingEscape
  deriving DecidableEq, Repr

/-- The wording of the failure. -/
def WordsError.message : WordsError → String
  | .openQuote => "No closing quotation"
  | .danglingEscape => "No escaped character"

/-- Where a reader stands. -/
inductive Mode where
  /-- Between words. -/
  | between
  /-- In a word, outside quotes. -/
  | inWord
  /-- Between quotes, in a word. -/
  | quoted (quote : Char)
  /-- After a backslash, in a word outside quotes. -/
  | escape
  /-- After a backslash between quotation marks. -/
  | quotedEscape
  deriving DecidableEq, Repr

/-- The blanks that separate words. -/
def isBlank (c : Char) : Bool := c == ' ' || c == '\t' || c == '\r' || c == '\n'

/-- The words from a mode on; `word` holds the characters of the current word, last one first. -/
def wordsFrom : Mode → List Char → List Char → Except WordsError (List (List Char))
  | .between, _, [] => .ok []
  | .inWord, word, [] => .ok [word.reverse]
  | .quoted _, _, [] => .error .openQuote
  | .escape, _, [] => .error .danglingEscape
  | .quotedEscape, _, [] => .error .danglingEscape
  | .between, _, c :: rest =>
    if isBlank c then wordsFrom .between [] rest
    else if c = '\\' then wordsFrom .escape [] rest
    else if c = '\'' || c = '"' then wordsFrom (.quoted c) [] rest
    else wordsFrom .inWord [c] rest
  | .inWord, word, c :: rest =>
    if isBlank c then (wordsFrom .between [] rest).map (word.reverse :: ·)
    else if c = '\\' then wordsFrom .escape word rest
    else if c = '\'' || c = '"' then wordsFrom (.quoted c) word rest
    else wordsFrom .inWord (c :: word) rest
  | .quoted quote, word, c :: rest =>
    if c = quote then wordsFrom .inWord word rest
    else if c = '\\' && quote = '"' then wordsFrom .quotedEscape word rest
    else wordsFrom (.quoted quote) (c :: word) rest
  | .escape, word, c :: rest => wordsFrom .inWord (c :: word) rest
  | .quotedEscape, word, c :: rest =>
    if c = '"' || c = '\\' then wordsFrom (.quoted '"') (c :: word) rest
    else wordsFrom (.quoted '"') (c :: '\\' :: word) rest

/-- The words of a command line. -/
def words (command : String) : Except WordsError (List String) :=
  (wordsFrom .between [] command.toList).map (List.map String.ofList)

end GoBindings.CommandLine
