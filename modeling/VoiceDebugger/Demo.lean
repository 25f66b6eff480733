import VoiceDebugger.Intent.Parse
import VoiceDebugger.Router.Route

/-!
A tour of what the program can do, printed step by step.
-/

namespace VoiceDebugger.Demo

open VoiceDebugger.Action

/-- A line across the screen. -/
def ruler : String :=
  String.ofList (List.replicate 60 '=')

/-- A thin line across the screen. -/
def thinRuler : String :=
  String.ofList (List.replicate 60 '─')

def banner : Action Unit :=
  sayAll ["\n" ++ ruler, "  🎙️  EchoDebug CLI Demo", "  Voice-Controlled AI Debugger",
    ruler ++ "\n"]

def part (title : String) : Action Unit :=
  sayAll ["\n" ++ thinRuler, s!"  {title}", thinRuler]

/-- Do something for each item in order. -/
def forEach {α : Type} (f : α → Action Unit) : List α → Action Unit
  | [] => pure ()
  | a :: rest => do
    f a
    forEach f rest

/-- Show a part of an intent that is there and not empty. -/
def showGiven (label : String) (value : Option CodeText) : Action Unit :=
  match given? value with
  | some s => say (label ++ s.shown)
  | none => pure ()

def showIntent (sentence : String) : Action Unit := do
  say s!"\n💬 Command: '{sentence}'"
  let i ← parseIntent sentence .null
  sayAll [s!"   Intent: {i.kind.name}", s!"   Confidence: {Number.text i.confidence}"]
  showGiven "   File: " i.entities.file
  showGiven "   Symbol: " i.entities.symbol

def intents : Action Unit := do
  part "1. Intent Parsing"
  forEach showIntent ["find all syntax errors in main.py",
    "explain what the parse_intent function does", "where is FastAPI imported", "run tests"]

def indexing : Action Unit := do
  part "2. Code Indexing"
  say "\n📚 Building code index..."
  let stats ← rebuildShared true
  sayAll [s!"   ✓ Indexed {stats.filesIndexed} files",
    s!"   ✓ Found {stats.symbolsFound} symbols", s!"   ✓ Completed in {Number.fixed 2 0}s"]

def shown (v : Json) (name : String) : String :=
  ((v.get? name).getD .null).display

def showHit (hit : Json) : Action Unit := do
  let kind := shown hit "kind"
  let file := shown hit "file"
  let line := shown hit "line"
  say s!"   • {kind} in {file}:{line}"
  match hit.get? "signature" with
  | some signature => if signature.truthy then say s!"     {signature.display}"
  | none => pure ()

def showSymbol (name : String) : Action Unit := do
  say s!"\n🔍 Searching for: '{name}'"
  let hits := (← findSymbols name (.str "python") true).toJson
  if hits.isEmpty then say "   Not found"
  else
    say s!"   Found {hits.length} location(s):"
    forEach showHit (hits.take 3)

def symbols : Action Unit := do
  part "3. Symbol Search"
  forEach showSymbol ["parse_intent", "FastAPI", "IntentType"]

def brokenFile : String := "test_errors.py"

def brokenSource : String :=
  "\n".intercalate [
    "",
    "def broken_function()",
    "    x = 1",
    "    y = 2",
    "    return x + z  # z is not defined",
    "    ",
    "class MyClass",
    "    def __init__(self):",
    "        pass",
    ""]

def showFinding (finding : Json) : Action Unit := do
  let line := shown finding "line"
  let message := shown finding "message"
  say s!"   • Line {line}: {message}"

def errors : Action Unit := do
  part "4. Error Detection"
  putFile brokenFile (Text.encode brokenSource)
  say s!"\n🔍 Checking '{brokenFile}' for errors..."
  let report ← findErrors (.str brokenFile) (.str "python")
  if !report.errors.isEmpty then
    say s!"\n   ❌ Found {report.errors.length} error(s):"
    forEach showFinding (report.errors.take 5)
  if !report.warnings.isEmpty then
    say s!"\n   ⚠️  Found {report.warnings.length} warning(s):"
    forEach showFinding (report.warnings.take 3)
  dropFile brokenFile

def routedSentence : String := "find where parse_intent is defined"

def routing : Action Unit := do
  part "5. Intent Routing"
  registerShared
  say "\n🎯 Testing intent routing..."
  let parsed ← parseIntent routedSentence .null
  sayAll [s!"\n💬 Command: '{routedSentence}'", s!"   Intent: {parsed.kind.name}"]
  let i ← ofOutcome (Intent.ofJson parsed.toJson)
  let outcome ← (← get).router.route i true
  say s!"   Status: {outcome.status}"
  match outcome with
  | .answered _ (.arr (first :: rest)) =>
    say s!"   Found {rest.length + 1} location(s)"
    let file ← ofLoose (first.getOr "file" .null)
    let line ← ofLoose (first.getOr "line" .null)
    say s!"   First: {file.display}:{line.display}"
  | _ => pure ()

def showSearch (query : String) : Action Unit := do
  say s!"\n🔍 Searching for: '{query}'"
  let s ← get
  match searchLines s.location s.root query (suffixOf? "python") with
  | [] => pure ()
  | first :: rest =>
    let preview := String.ofList (first.preview.toList.take 60)
    sayAll [s!"   Found {rest.length + 1} match(es)", s!"   First: {first.file}:{first.line}",
      s!"   Preview: {preview}..."]

def searching : Action Unit := do
  part "6. Code Search"
  forEach showSearch ["FastAPI", "def ", "import"]

def parts : Action Unit := do
  intents
  indexing
  symbols
  errors
  routing
  searching
  sayAll ["\n" ++ ruler, "  ✅ All demos completed successfully!", ruler ++ "\n", "Next steps:",
    "  1. Add OPENAI_API_KEY to backend/.env for GPT-4 integration",
    "  2. Start the API server: python backend/main.py",
    "  3. Test with: python test_phase2_3.py",
    "  4. Build VS Code extension for full experience\n"]

def run : Action Unit := do
  banner
  if ← hasKey then say "✓ OpenAI API key detected - Using GPT-4 for intent parsing"
  else
    sayAll ["⚠️  No OpenAI API key - Using keyword-based intent parsing",
      "   Set OPENAI_API_KEY in .env to enable GPT-4\n"]
  match ← attempt parts with
  | .ok _ => pure ()
  | .error f => say s!"\n❌ Demo error: {f.message}"

end VoiceDebugger.Demo
