import VoiceDebugger.Api.Request
import VoiceDebugger.Intent.Parse
import VoiceDebugger.Router.Route
import VoiceDebugger.Speech
import VoiceDebugger.Trace

/-!
What the service answers.

A request that is malformed is refused; what fails behind that is reported as an internal error.
-/

namespace VoiceDebugger

open VoiceDebugger.Action

/-- Turn any failure into an internal error. -/
def guarded (a : Action Json) : Action Json := do
  match ← attempt a with
  | .ok v => return v
  | .error f => fail (.request f.message)

def greeting : Json :=
  .obj [("message", .str "EchoDebug API"), ("status", .str "running")]

/-- Prepare the service: set the handlers, and build the index unless one was read. -/
def startService : Action Json := do
  registerShared
  let i ← sharedIndex
  if i.builtAt.isNone then
    let _ ← rebuildShared false
  return .null

/-- Write a sound down. -/
def answerSpeech (r : SpeechRequest) : Action Json := do
  return .obj [("text", .str (← transcribeSound r.audio.shown r.format.shown))]

/-- Write a sound file down. -/
def answerSpeechFile (r : SpeechFileRequest) : Action Json := do
  return .obj [("text", .str (← transcribeFile r.path.shown))]

def answerIntent (r : IntentRequest) : Action Json := do
  return (← parseIntent r.text.shown r.contextValue).toJson

def answerRoute (r : IntentRequest) : Action Json := do
  let i ← checkedIntent r.text.shown r.contextValue
  let router := (← get).router
  return (← router.route i true).toJson

def answerSearch (r : SearchRequest) : Action Json := do
  let s ← get
  let hits := searchLines s.location s.root r.query (suffixOf? r.language.shown)
  return .obj [("results", .arr (hits.map LineHit.toJson))]

def answerSymbol (r : SymbolRequest) : Action Json := do
  let hits ← findSymbols r.name (.str r.language) true
  return .obj [("symbols", .arr hits.toJson)]

def answerRun (r : RunRequest) : Action Json := do
  return (← runCommand r.command.shown r.envValue (.int r.timeout)).toJson

def answerTrace (r : TraceRequest) : Action Json :=
  ofOutcome (explainTrace r.trace.shown)

def nothingToFix : Json :=
  proposal "# No errors found" "File has no detected errors" "low"

/-- Propose how to mend the first error of a file. -/
def answerFix (r : FixRequest) : Action Json := do
  let report ← findErrors (.str r.file) (.str "python")
  match report.errors with
  | [] => return nothingToFix
  | first :: _ => generateFix r.file.shown first

/-- Changes are not applied. -/
def answerApply (_ : ApplyRequest) : Json :=
  .obj [
    ("ok", .bool false),
    ("files_changed", .arr []),
    ("message", .str "Apply fix not yet implemented")]

/-- Bring the shared index up to date. -/
def answerBuild (force : Bool) : Action Json := do
  let stats ← rebuildShared force
  return .obj [("status", .str "success"), ("stats", stats.toJson)]

/-- Describe the shared index. -/
def answerStats : Action Json := do
  let i ← sharedIndex
  let (names, total) := i.counts
  let files ← ofLoose i.files.length
  return .obj [
    ("last_indexed", Json.ofString? (i.builtAt.map (·.text))),
    ("total_symbols", .int total),
    ("unique_symbols", .int names),
    ("files_indexed", .int files)]

def answerFileSymbols (file : Json) : Action Json := do
  let i ← sharedIndex
  return .obj [("file", file), ("symbols", .arr ((i.inFile file).map Record.toJson))]

def answerReferences (name : Json) : Action Json := do
  let i ← sharedIndex
  let found ← match name with
    | .str s => pure (i.referencesOf s)
    | .arr _ | .obj _ => fail (.loose (.unhashable name.kindName))
    | _ => pure []
  return .obj [("symbol", name), ("references", .arr (found.map Reference.toJson))]

def answerLint (file language : Json) : Action Json := do
  return (← findErrors file language).toJson

/-! ### Endpoints -/

/-- What the service can be asked. -/
inductive Endpoint where
  | start
  | greet
  | speech
  | speechFile
  | intent
  | route
  | search
  | symbol
  | run
  | trace
  | fix
  | apply
  | build
  | stats
  | fileSymbols
  | references
  | lint
  deriving Repr, BEq, DecidableEq

namespace Endpoint

def find? (method path : String) : Option Endpoint :=
  match method, path with
  | "EVENT", "startup" => some .start
  | "GET", "/" => some .greet
  | "POST", "/stt" => some .speech
  | "POST", "/stt/file" => some .speechFile
  | "POST", "/intent" => some .intent
  | "POST", "/intent/route" => some .route
  | "POST", "/search" => some .search
  | "POST", "/symbols" => some .symbol
  | "POST", "/run" => some .run
  | "POST", "/explain-trace" => some .trace
  | "POST", "/propose-fix" => some .fix
  | "POST", "/apply-fix" => some .apply
  | "POST", "/index/build" => some .build
  | "GET", "/index/stats" => some .stats
  | "GET", "/symbols/file/\x7bfile_path:path\x7d" => some .fileSymbols
  | "GET", "/symbols/\x7bsymbol_name\x7d/references" => some .references
  | "POST", "/lint" => some .lint
  | _, _ => none

/-- The parameters of an endpoint that takes no body: the needed ones, and those with defaults. -/
def parameters : Endpoint → List String × List String
  | .build => ([], ["force"])
  | .fileSymbols => (["file_path"], [])
  | .references => (["symbol_name"], [])
  | .lint => (["file"], ["lang"])
  | _ => ([], [])

/-- The name of an endpoint in messages about its parameters. -/
def title : Endpoint → String
  | .start => "startup_event()"
  | .greet => "root()"
  | .build => "build_index()"
  | .stats => "get_index_stats()"
  | .fileSymbols => "get_file_symbols()"
  | .references => "get_symbol_references()"
  | .lint => "lint_file()"
  | _ => ""

def checkArguments (e : Endpoint) (arguments : List (CodeText × Json)) : Except LooseFault Unit :=
  let (needed, more) := e.parameters
  let known := (needed ++ more).map CodeText.ofString
  match arguments.find? fun a => !known.contains a.1 with
  | some (name, _) => .error (.unexpectedArgument e.title name.shown)
  | none =>
    let missing := needed.filter fun (n : String) => (Json.field? n arguments).isNone
    if missing.isEmpty then .ok () else .error (.missingArguments e.title missing)

def withBody {α : Type} (read : Json → Except Failure α) (body : Json) (answer : α → Action Json) :
    Action Json := do
  let r ← ofOutcome (read body)
  guarded (answer r)

def withArguments (e : Endpoint) (arguments : List (CodeText × Json)) (answer : Action Json) :
    Action Json := do
  ofLoose (e.checkArguments arguments)
  answer

def answer (e : Endpoint) (body : Json) (arguments : List (CodeText × Json)) : Action Json :=
  let argument (name : String) (default : Json) : Json :=
    (Json.field? name arguments).getD default
  match e with
  | .start => withArguments e arguments startService
  | .greet => withArguments e arguments (return greeting)
  | .speech => withBody SpeechRequest.ofJson body answerSpeech
  | .speechFile => withBody SpeechFileRequest.ofJson body answerSpeechFile
  | .intent => withBody IntentRequest.ofJson body answerIntent
  | .route => withBody IntentRequest.ofJson body answerRoute
  | .search => withBody SearchRequest.ofJson body answerSearch
  | .symbol => withBody SymbolRequest.ofJson body answerSymbol
  | .run => withBody RunRequest.ofJson body answerRun
  | .trace => withBody TraceRequest.ofJson body answerTrace
  | .fix => withBody FixRequest.ofJson body answerFix
  | .apply => withBody ApplyRequest.ofJson body fun r => return answerApply r
  | .build => withArguments e arguments (guarded (answerBuild (argument "force" .null).truthy))
  | .stats => withArguments e arguments (guarded answerStats)
  | .fileSymbols =>
    withArguments e arguments (guarded (answerFileSymbols (argument "file_path" .null)))
  | .references =>
    withArguments e arguments (guarded (answerReferences (argument "symbol_name" .null)))
  | .lint =>
    withArguments e arguments
      (guarded (answerLint (argument "file" .null) (argument "lang" (.str "python"))))

end Endpoint

end VoiceDebugger
