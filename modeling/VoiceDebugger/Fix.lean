import VoiceDebugger.Json.Reader
import VoiceDebugger.Search
import VoiceDebugger.Session.Action

/-!
Asking a chat model to mend a fault in a file, and short advice without one.
-/

namespace VoiceDebugger

open VoiceDebugger.Action

def proposal (diff rationale risk : String) : Json :=
  .obj [("diff", .str diff), ("rationale", .str rationale), ("risk_level", .str risk)]

def keylessProposal : Json :=
  proposal "# OpenAI API key required for fix generation"
    "Set OPENAI_API_KEY in .env to enable AI-powered fixes" "unknown"

def failedProposal (f : Failure) : Json :=
  proposal s!"# Error generating fix: {f.message}" "Fix generation failed" "unknown"

/-- How many lines before and behind a fault the model is shown. -/
def fixMargin : Int := 5

/-- The lines around a fault whose place may be any value. A place that is not an integer in form is
good only where the ends of the file decide. -/
def linesAround (lines : List (List Char)) (place : Json) :
    Except LooseFault (List (List Char)) :=
  match place with
  | .float x =>
    let margin : Float := 5
    match Number.ofInt? lines.length with
    | some count =>
      if x - margin > 0 || x + margin < count then .error .notSliceable else .ok lines
    | none => .error .notSliceable
  | _ =>
    match place.integer? with
    | some n =>
      .ok (slice lines (max 0 (n - fixMargin)) (min (lines.length : Int) (n + fixMargin)))
    | none => .error (.badOperands "-" place.kindName "int")

/-- The question about a fault. -/
def fixPrompt (file : String) (place message : Json) (code : List Char) : String :=
  "\n".intercalate [
    "Fix this Python code error:",
    "",
    s!"File: {file}",
    s!"Line {place.display}: {message.display}",
    "",
    "Code context:",
    "```python",
    String.ofList code,
    "```",
    "",
    "Provide:",
    "1. A unified diff showing the fix",
    "2. Brief explanation of what was wrong",
    "3. Risk level (low/medium/high)",
    "",
    "Output as JSON:",
    "\x7b",
    "  \"diff\": \"unified diff format\",",
    "  \"rationale\": \"explanation\",",
    "  \"risk_level\": \"low|medium|high\"",
    "\x7d",
    ""]

/-- What the model is told to be. -/
def fixRole : String :=
  "You are a code fixing assistant. Generate minimal, safe fixes."

/-- The value that a reply of a chat model writes. -/
def replyValue : Option String → Except Failure Json
  | none => .error (.loose (.notReadable Json.null.kindName))
  | some s => (Json.parseString s).mapError Failure.unreadable

def askForFix (file : String) (fault : Json) : Action Json := do
  let lines := linesOf (← readText file)
  let place ← ofLoose (fault.getOr "line" (.int 1))
  let code ← ofLoose (linesAround lines place)
  let message ← ofLoose (fault.getOr "message" (.str "Unknown error"))
  let reply ← chat {
    messages := [⟨"system", fixRole⟩, ⟨"user", fixPrompt file place message code.flatten⟩] }
  ofOutcome (replyValue reply)

def generateFix (file : String) (fault : Json) : Action Json := do
  if ← hasKey then
    match ← attempt (askForFix file fault) with
    | .ok v => return v
    | .error f => return failedProposal f
  else return keylessProposal

def adviceOn (message : String) : Option String :=
  let low := Text.lower message
  let holds (w : String) : Bool := Text.contains low w
  if holds "undefined" || holds "not defined" then
    some "Check if the variable is imported or defined before use"
  else if holds "syntax error" then some "Check for missing colons, parentheses, or brackets"
  else if holds "indentation" then some "Fix indentation to match Python style (4 spaces)"
  else if holds "type" then some "Check type annotations and ensure types match"
  else none

def suggestFix (fault : Json) : Except LooseFault (Option String) := do
  match ← fault.getOr "message" (.str "") with
  | .str message => return adviceOn message.shown
  | v => .error (.noMember v.kindName "lower")

end VoiceDebugger
