import VoiceDebugger.Intent.Kind
import VoiceDebugger.Pattern.Basic

/-!
How users phrase what they ask for.
-/

namespace VoiceDebugger

open Pattern

/-- The phrasings of an intent, with a weight. -/
structure Phrasing where
  intent : IntentKind
  weight : Nat
  patterns : List Pattern

def pointer? : Pattern := phrases? ["this", "the", "that"]

/-- A word that may have lost its apostrophe. -/
def contracted (front back : String) : Pattern :=
  all [phrase front, maybe (.one (.only '\'')), phrase back]

def findErrorsPhrasing : Phrasing where
  intent := .findErrors
  weight := 3
  patterns := [
    all [.edge, phrases ["find", "show", "check", "detect", "locate", "search"], gap,
      phrases? ["for "], phrases? ["all "], phrases? ["syntax", "runtime", "logical", "type"], gap?,
      phrases ["error", "bug", "issue", "problem", "mistake"]],
    all [.edge, anyOf [contracted "what" "s", phrase "whats"], gap,
      phrases ["wrong", "broken", "the error", "the issue", "the problem"]],
    all [.edge, phrases ["check", "validate", "verify", "lint", "analyze"], gap, phrases? ["this "],
      phrases ["code", "file", "script"]],
    all [.edge, phrases ["debug", "diagnose", "troubleshoot"]],
    all [.edge, phrases ["any", "got", "have"], gap, phrases ["error", "bug", "issue", "problem"]],
    all [.edge, anyOf [phrase "why is this", all [contracted "why isn" "t", phrase " this"]], gap,
      phrases ["working", "running"]],
    all [.edge, phrases ["syntax", "type", "runtime"], phrase " check"]]

def findSymbolPhrasing : Phrasing where
  intent := .findSymbol
  weight := 3
  patterns := [
    all [.edge, phrases ["find", "show", "locate", "search", "where"], gap,
      phrases? ["is", "are", "the"], gap?, word, gap,
      phrases ["defined", "declared", "used", "called", "modified", "changed", "written", "read"]],
    all [.edge, phrases ["where", "show me"], gap, phrases? ["is", "are", "does", "do"], gap?, word,
      gap, phrases? ["get", "gets", "is"], gap?,
      phrases ["defined", "declared", "used", "modified", "changed", "set", "assigned"]],
    all [.edge, phrases ["show", "find", "list"], gap, phrases? ["all "],
      phrases ["uses", "usages", "references", "calls", "occurrences"], phrase " of"],
    all [.edge, phrases ["show me all", "find all"], gap,
      phrases ["uses", "references", "occurrences"]],
    all [.edge, phrases ["go to", "jump to", "navigate to"], gap, phrases? ["the "],
      phrases ["definition", "declaration"], phrase " of"],
    all [.edge, phrases ["what", "which"], gap, phrases ["file", "files", "line", "lines"], gap,
      phrases ["use", "uses", "reference", "references", "call", "calls"]],
    all [.edge, phrases ["track", "trace", "follow"], gap, phrases? ["the "],
      phrases ["symbol", "variable", "function"]],
    all [.edge, phrases ["where", "locate"], gap, word, gap,
      phrases ["function", "variable", "class"]],
    all [.edge, phrase "show references to"]]

def explainCodePhrasing : Phrasing where
  intent := .explainCode
  weight := 2
  patterns := [
    all [.edge,
      anyOf [phrase "explain", phrase "describe", phrase "tell me", phrase "what does",
        contracted "what" "s"],
      gap, pointer?, gap?,
      phrases ["code", "function", "class", "method", "script", "file", "line"]],
    all [.edge, phrases ["how does", "how is"], gap, pointer?, gap?,
      phrases ["work", "working", "function", "operate"]],
    all [.edge, anyOf [phrase "what is", contracted "what" "s"], gap, pointer?, gap?,
      phrases ["doing", "for", "about"]],
    all [.edge, phrases ["help me understand", "can you explain", "walk me through"]],
    all [.edge, phrases ["summarize", "summary of"], gap, pointer?, gap?,
      phrases ["code", "function", "class"]],
    all [.edge, phrases ["break down", "break it down"]]]

def explainTracePhrasing : Phrasing where
  intent := .explainTrace
  weight := 3
  patterns := [
    all [.edge, phrases ["explain", "analyze", "interpret", "decode"], gap, pointer?, gap?,
      phrases ["error", "exception", "stack trace", "traceback"]],
    all [.edge, phrases ["what caused", "why did"], gap, pointer?, gap?,
      phrases ["error", "exception", "crash", "fail"]],
    all [.edge, phrases ["why is it", "why am i getting"], gap, pointer?, gap?,
      phrases ["error", "exception"]],
    all [.edge, phrase "what does this error mean"],
    all [.edge, phrases ["root cause", "what went wrong"]],
    all [.edge, phrases ["stack trace", "traceback"], gap, phrases ["analysis", "explanation"]]]

def runTestsPhrasing : Phrasing where
  intent := .runTests
  weight := 2
  patterns := [
    all [.edge, phrases ["run", "execute", "start", "perform"], gap, phrases? ["the "],
      phrases? ["unit "], phrases ["test", "tests", "testing"]],
    all [.edge, phrases ["test this", "test the"], gap, phrases ["code", "file", "function", "class"]],
    all [.edge, phrases ["run pytest", "run jest", "run mocha", "run unittest"]],
    all [.edge, phrase "check if tests pass"],
    all [.edge, phrase "verify with tests"]]

def proposeFixPhrasing : Phrasing where
  intent := .proposeFix
  weight := 2
  patterns := [
    all [.edge, phrases ["fix", "correct", "repair", "resolve", "solve"], gap, pointer?, gap?,
      phrases ["error", "bug", "issue", "problem", "code"]],
    all [.edge, phrases ["how do i fix", "how to fix", "how can i fix"]],
    all [.edge, phrases ["suggest", "propose", "recommend"], gap, phrases? ["a "],
      phrases ["fix", "solution", "correction"]],
    all [.edge, phrases ["make it work", "get it working"]],
    all [.edge, phrases ["auto fix", "quick fix"]],
    all [.edge, phrase "repair ", phrases ["this", "the"]]]

def formatFilePhrasing : Phrasing where
  intent := .formatFile
  weight := 2
  patterns := [
    all [.edge, phrases ["format", "prettify", "beautify", "clean up"], gap,
      phrases? ["this", "the", "that", "my"], gap?, phrases ["code", "file"]],
    all [.edge, phrases? ["make it "], phrases ["prettier", "cleaner", "readable"]],
    all [.edge, phrases ["auto format", "reformat"]],
    all [.edge, phrases? ["apply "], phrases ["code style", "style guide"]],
    all [.edge, phrase "prettify", .edge],
    all [.edge, phrase "beautify", .edge]]

def renameSymbolPhrasing : Phrasing where
  intent := .renameSymbol
  weight := 2
  patterns := [
    all [.edge, phrases ["rename", "change"], gap, word, gap, phrases ["to", "into"], gap, word],
    all [.edge, phrases ["refactor", "update"], gap, word, gap, phrases ["to", "into", "name"]],
    all [.edge, phrases ["call it", "name it"], gap, word, phrase " instead"],
    all [.edge, phrase "change ", word, phrase " to ", word]]

/-- Requests to go somewhere. -/
def navigateToPhrasing : Phrasing where
  intent := .navigateTo
  weight := 2
  patterns := [
    all [.edge, phrases ["go to", "jump to", "navigate to", "open", "show me"], gap,
      phrases ["line", "file", "function", "class"]],
    all [.edge, phrases ["take me to", "bring me to"]],
    all [.edge, phrase "open the file ", word]]

def applyFixPhrasing : Phrasing where
  intent := .applyFix
  weight := 1
  patterns := [
    all [.edge, phrases ["apply", "implement", "use", "accept"], gap,
      phrases? ["the", "this", "that"], gap?, phrases ["fix", "patch", "change", "solution"]],
    all [.edge,
      anyOf [all [phrase "yes", maybe (.one (.only ',')), phrase " fix it"], phrase "go ahead",
        phrase "do it", phrase "make the change"]]]

/-- All phrasings, in the order in which they are tried. -/
def phrasings : List Phrasing :=
  [findErrorsPhrasing, findSymbolPhrasing, explainCodePhrasing, explainTracePhrasing,
    runTestsPhrasing, proposeFixPhrasing, formatFilePhrasing, renameSymbolPhrasing,
    navigateToPhrasing, applyFixPhrasing]

end VoiceDebugger
