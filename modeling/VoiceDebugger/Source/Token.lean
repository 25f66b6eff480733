/-!
The tokens of Python source, with their places.

Columns count bytes of the encoded line. Layout tokens and the end of the source have no column of
their own; the count of bytes read so far stands in for it where a message needs one.
-/

namespace VoiceDebugger.Source

inductive TokenKind where
  | name
  | keyword
  | number
  | string
  | operator
  | newline
  | indent
  | dedent
  | finish
  | stray
  deriving Repr, BEq, DecidableEq

/-- A token: its kind and text, where it starts and ends, how many brackets are open behind it, and
how many bytes of its last line were read when it was made. -/
structure Token where
  kind : TokenKind
  text : String
  line : Nat
  column : Option Nat
  endLine : Nat
  endColumn : Nat
  level : Nat
  reached : Nat
  deriving Repr

/-- A bracket that is still open. -/
structure OpenBracket where
  bracket : Char
  line : Nat
  column : Nat
  deriving Repr

/-- Where a fault lies: a byte offset that is still to be turned into characters of its line, or a
final column. -/
inductive Place where
  | bytes (line : Nat) (offset : Nat)
  | exact (line : Int) (column : Int)
  deriving Repr

/-- Why no further token can be made. -/
inductive Stop where
  /-- A malformed token, with the message for it. -/
  | malformed (place : Place) (message : String)
  /-- The text ends inside brackets or behind a line continuation. -/
  | endOfText (line reached : Nat)
  /-- A line goes back to an indentation that no open block has. -/
  | badDedent (line reached : Nat)
  /-- Tabs and spaces cannot be compared. -/
  | mixedTabs (line : Nat)
  /-- Blocks are nested too deeply. -/
  | tooDeep (line : Nat)
  /-- Something follows a line continuation; `offset` counts bytes from where the line was begun. -/
  | afterContinuation (line offset : Nat)
  deriving Repr

/-- The tokens of a text up to its end or to the first place where none can be made, and the
brackets that are open there, innermost first. -/
structure TokenStream where
  tokens : Array Token
  stop : Option Stop
  brackets : List OpenBracket

def keywords : List String :=
  ["False", "None", "True", "and", "as", "assert", "async", "await", "break", "class", "continue",
    "def", "del", "elif", "else", "except", "finally", "for", "from", "global", "if", "import", "in",
    "is", "lambda", "nonlocal", "not", "or", "pass", "raise", "return", "try", "while", "with",
    "yield"]

end VoiceDebugger.Source
