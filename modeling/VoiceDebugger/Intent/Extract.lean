import VoiceDebugger.Intent.Kind
import VoiceDebugger.Number.Read
import VoiceDebugger.Pattern.Basic
import VoiceDebugger.Text.Lines
import VoiceDebugger.Text.Lower

/-!
What a text names: a symbol, a file, a function, a line, a scope, a language.
-/

namespace VoiceDebugger

open Pattern

def quote : Pattern := .one (.oneOf ['"', '\''])

/-- The first thing that one of some patterns keeps. -/
def firstFound (patterns : List Pattern) (text : List Char) : Option String :=
  patterns.findSome? (·.firstKept? text)

/-- The phrasings that name a symbol, then words that look like one: quoted, with an inner capital,
or with underscores. Letters match in either case here as well. -/
def symbolPatterns : List Pattern := [
  all [.edge, phrases ["find", "show", "where", "locate"], gap, phrases? ["is", "are", "the"], gap?,
    .keep word, gap, phrases ["defined", "declared", "used", "modified", "changed"]],
  all [.edge, phrases ["where", "show"], gap, phrases? ["is", "are", "does"], gap?, .keep word, gap,
    phrases? ["get", "gets", "is"], gap?, phrases ["defined", "used", "modified", "set"]],
  all [.edge, phrases ["references", "uses", "calls", "occurrences"], gap, phrases ["of", "to"], gap,
    .keep word],
  all [.edge, phrases ["symbol", "variable", "function", "class"], gap,
    phrases? ["named", "called"], gap?, .keep word],
  all [.edge, phrases ["track", "trace", "follow"], gap, phrases? ["the "], phrases? ["symbol "],
    .keep word],
  all [.edge, phrases ["all uses of", "all references to"], gap, .keep word],
  all [.edge, phrase "definition of", gap, .keep word],
  all [quote, .keep word, quote],
  all [.edge, .keep (all [some1 .anyLetter, .one .anyLetter, word]), .edge],
  all [.edge, .keep (all [some1 .anyLetter, .one (.only '_'), some1 .anyLetterOrScore]), .edge]]

/-- Words that are never taken for a symbol. -/
def commonWords : List String :=
  ["this", "that", "the", "is", "are", "get", "gets", "file", "code", "where", "show", "find", "all"]

def symbolIn (text : List Char) : Option String :=
  symbolPatterns.findSome? fun p =>
    match p.firstKept? text with
    | some s => if commonWords.contains (Text.lower s) then none else some s
    | none => none

def fileEndings : List String :=
  ["py", "js", "ts", "java", "cpp", "c", "h", "jsx", "tsx", "json", "yaml", "yml", "md"]

def filePatterns : List Pattern := [
  all [.edge, .keep (all [word, .one (.only '.'), phrases fileEndings]), .edge],
  all [phrases ["file", "script"], gap, phrases? ["named", "called"], gap?, maybe quote, .keep word,
    maybe quote],
  all [phrases ["in", "from"], gap, maybe quote,
    .keep (all [word, .one (.only '.'), phrases ["py", "js", "ts", "java"]]), maybe quote]]

def fileIn (text : List Char) : Option String :=
  firstFound filePatterns text

def linePatterns : List Pattern := [
  all [.edge, phrase "line ", .keep (some1 .digit), .edge],
  all [.edge, phrase "at line ", .keep (some1 .digit), .edge],
  all [.edge, phrase "on line ", .keep (some1 .digit), .edge],
  all [.edge, .one (.only ':'), .keep (some1 .digit), .edge]]

/-- The line that a text names, unless its number is too long. -/
def lineIn (text : List Char) : Except Number.IntegerFault (Option Int) :=
  match firstFound linePatterns text with
  | none => .ok none
  | some s => (Number.readInt s).map some

def functionPatterns : List Pattern := [
  all [.edge, phrase "function ", phrases? ["named", "called"], gap?, .keep word],
  all [.edge, phrase "method ", phrases? ["named", "called"], gap?, .keep word],
  all [.edge, phrase "def ", .keep word],
  all [.edge, .keep word, phrase " function"]]

def functionIn (text : List Char) : Option String :=
  firstFound functionPatterns text

/-- Whether a text in lower case holds one of some words, anywhere. -/
def mentions (words : List String) (text : List Char) : Bool :=
  let low := Text.lowerFrom [] text
  words.any fun w => Text.occursIn w.toList low

def scopeIn (text : List Char) : SymbolScope :=
  if mentions ["modified", "changed", "written", "set", "assigned", "updated"] text then .writes
  else if mentions ["read", "accessed", "used", "referenced"] text then .reads
  else if mentions ["defined", "declared", "created"] text then .declarations
  else .all

def languageIn (text : List Char) : Language :=
  if mentions ["python", ".py", "pytest", "django", "flask"] text then .python
  else if mentions ["javascript", "js", ".js", "node", "npm", "react"] text then .javascript
  else if mentions ["typescript", "ts", ".ts", "tsx"] text then .typescript
  else if mentions ["java", ".java", "spring", "maven"] text then .java
  else .python

/-! ### Words that look like files or symbols -/

/-- Drop quotes at both ends. -/
def unquote (s : String) : String :=
  let isQuote (c : Char) : Bool := c == '"' || c == '\''
  String.ofList ((s.toList.dropWhile isQuote).reverse.dropWhile isQuote).reverse

/-- The language of a file by its ending. -/
def languageOfFile (file : String) : String :=
  let endsWith (e : String) : Bool := e.toList.isSuffixOf file.toList
  if endsWith ".py" then "python"
  else if endsWith ".js" || endsWith ".ts" then "javascript"
  else if endsWith ".java" then "java"
  else "unknown"

/-- The first word that holds the ending of a source file, with its language. -/
def fileWord? (text : String) : Option (String × String) :=
  let found := (Text.words text).find? fun w =>
    [".py", ".js", ".java"].any fun e => Text.contains w e
  found.map fun w => (unquote w, languageOfFile w)

/-- The word behind the first `where`, `find` or `symbol` that has one. -/
def symbolWord? : List String → Option String
  | w :: next :: rest =>
    if ["where", "find", "symbol"].contains w then some (unquote next)
    else symbolWord? (next :: rest)
  | _ => none

end VoiceDebugger
