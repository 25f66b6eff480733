import VoiceDebugger.Recorder.Basic

/-!
The simple recorder: record on request, write down, execute. Its sound file is always removed.
-/

namespace VoiceDebugger.Recorder.Simple

open VoiceDebugger.Action

def recordSound : Action (List Float) := do
  sayAll ["\n🎙️  GET READY...", "   Recording will start in 3 seconds...", "   3...", "   2...",
    "   1...", "\n🔴 RECORDING NOW - SPEAK!", "   (Recording for 5 seconds)"]
  let samples ← record (seconds * sampleRate)
  write (String.join ((countDown seconds).map fun i => s!"   {i} seconds left...\r"))
  say "\n\n✅ Recording complete!"
  let level ← peakOf samples
  say s!"   Audio level: {Number.fixed 3 level}"
  if level < 0.01 then say "   ⚠️  Very quiet! Speak louder next time"
  return samples

def typeInstead : Action Json := do
  say "   💡 Type what you said instead:"
  return .str (← askTrimmed "   > ")

def showTranscript (text : Json) : Action Unit :=
  sayAll ["\n" ++ ruler, "  💬 WHISPER TRANSCRIPTION:", ruler, s!"\n  \"{text.display}\"\n", ruler]

/-- Use the answer of the service; where it has none, ask. -/
def useAnswer (r : Response) : Action Json := do
  if r.status == 200 then
    let text ← replyField (← ofOutcome r.value) "text" (.str "")
    showTranscript text
    return text
  else if r.status == 500 && Text.contains r.text "insufficient_quota" then
    sayAll ["   ⚠️  No OpenAI credits remaining", "   💡 Falling back to manual input...",
      "\n" ++ ruler, "  💬 TYPE WHAT YOU SAID:", ruler]
    let text ← askTrimmed "\n  > "
    say ruler
    return .str text
  else
    say s!"   ❌ Error {r.status}"
    typeInstead

/-- Let the service write the saved sound down; if that fails, ask. -/
def transcribeSaved (path : String) : Action Json := do
  let sending : Action Json := do
    useAnswer (← post (serverUrl ++ "/stt/file") (fileBody (.str path)))
  match ← attempt sending with
  | .ok text => return text
  | .error f =>
    say s!"   ❌ Error: {f.message}"
    typeInstead

/-- Save a recording and write it down. The file is removed whatever happens. -/
def saveAndTranscribe (samples : List Float) : Action Json := do
  let path ← fullPath soundFile
  saveSound path soundFile samples
  sayAll ["\n💾 Saved audio file", "📤 Sending to Whisper API..."]
  let outcome ← attempt (transcribeSaved path)
  removeSound soundFile
  ofOutcome outcome

def showResult (result : Json) : Action Unit := do
  say "\n✅ Done!"
  sayField "   Intent: " result "intent" .null
  sayField "   Status: " result "status" .null
  match ← replyField result "result" .null with
  | .arr (first :: rest) =>
    say s!"   Found {rest.length + 1} result(s)"
    let file ← replyField first "file" .null
    let line ← replyField first "line" .null
    say s!"   First: {file.display}:{line.display}"
  | _ => pure ()

def execute (text : Json) : Action Unit := do
  if text.truthy then
    say "\n⚡ Executing command..."
    let sending : Action Unit := do
      let r ← post (serverUrl ++ "/intent/route") (textBody text)
      if r.status == 200 then showResult (← ofOutcome r.value)
      else say s!"   ❌ Error: {r.status}"
    match ← attempt sending with
    | .ok _ => pure ()
    | .error f => say s!"   ❌ Error: {f.message}"

/-- One turn: record and execute, or end. -/
def turn : Action Bool := do
  write "\n> "
  let choice ← askChoice ""
  if choice == "q" then
    say "\n👋 Goodbye!"
    return false
  else if choice == "r" || choice == "" then
    let text ← saveAndTranscribe (← recordSound)
    execute text
    return true
  else
    say "   Type 'r' to record or 'q' to quit"
    return true

def run : Action Unit := do
  sayAll ["\n" ++ ruler, "  🎙️  EchoDebug Simple Voice Recorder", ruler]
  match ← serverStatus with
  | none => say "\n❌ Cannot connect to server!"
  | some false => sayAll ["\n❌ Server not running!", "   Start with: python backend/main.py"]
  | some true =>
    say "\n✅ Server is running"
    say (if ← hasKey then "✅ Whisper enabled" else "⚠️  No API key - Whisper disabled")
    sayAll ["\n" ++ ruler, "\nInstructions:", "  1. Type 'r' and press ENTER to record",
      "  2. Type 'q' and press ENTER to quit", ruler]
    repeatStep turn

end VoiceDebugger.Recorder.Simple
