/-!
# Words for symbols

A value made of a symbol alone has no letters to name it by, so each common symbol has a word.
-/

namespace GoBindings

/-- The symbols that have a word. -/
def symbolWords : List (String × String) :=
  [("$", "Dollar"), ("^", "Caret"), ("|", "Pipe"), ("=", "Equal"), ("*", "Star"), ("-", "Minus"),
   ("&", "Ampersand"), ("%", "Percent"), ("#", "Hash"), ("@", "At"), ("!", "Exclamation"),
   ("+", "Plus"), (":", "Colon"), (";", "Semicolon"), (">", "Greater_Than"), ("<", "Less_Than"),
   (".", "Period"), ("_", "Underscore"), ("?", "Question_Mark"), (",", "Comma"), ("'", "Quote"),
   ("\"", "Double_Quote"), ("/", "Slash"), ("\\", "Back_Slash"), ("(", "Left_Parenthesis"),
   (")", "Right_Parenthesis"), ("\x7b", "Left_Curly_Bracket"), ("\x7d", "Right_Curly_Bracket"),
   ("[", "Left_Square_Bracket"), ("]", "Right_Square_Bracket"), ("~", "Tilde"),
   ("\x60", "Backtick"), ("<=", "Less_Than_Or_Equal_To"), (">=", "Greater_Than_Or_Equal_To"),
   ("!=", "Not_Equal")]

/-- The word for a value that is a symbol. -/
def symbolName (value : String) : Option String := symbolWords.lookup value

end GoBindings
