import VoiceDebugger.Recorder.Basic

/-!
The plain recorder: recordings of a fixed length, intent and result shown.
-/

namespace VoiceDebugger.Recorder.Plain

open VoiceDebugger.Action

def dots (duration : Int) : String :=
  repeated duration.toNat "🔴 "

def recordSound (duration : Int) : Action (List Float) := do
  sayAll [s!"\n🎙️  Recording for {duration} seconds...", "   Speak your command now!"]
  write "\n   "
  let samples ← record (duration * sampleRate)
  write (dots duration)
  say "\n\n   ✓ Recording complete!"
  let level ← peakOf samples
  if level < 0.01 then say "   ⚠️  Warning: Very low audio detected. Speak louder!"
  else if level > 0.8 then say "   ⚠️  Warning: Audio might be clipping. Speak softer!"
  else say s!"   ✓ Audio level good ({Number.fixed 2 level})"
  return samples

/-- Save a recording; the path of the file is the result. -/
def save (samples : List Float) (path : String) : Action String := do
  let full ← fullPath path
  saveSound full path samples
  return full

/-- Let the service write a sound file down. -/
def transcribe (path : Json) : Action Json := do
  say "\n📤 Sending to Whisper API..."
  transcribeAtServer path

/-- Let the service tell the intent of a text. -/
def parse (text : Json) : Action Json := do
  say "\n🧠 Parsing intent..."
  exchange "/intent" (textBody text) fun v => return v

def execute (text : Json) : Action Json := do
  say "\n⚡ Executing command..."
  exchange "/intent/route" (textBody text) fun v => return v

/-- Record for two seconds and look at what came in. -/
def tryMicrophone : Action Bool := do
  let samples ← record (2 * sampleRate)
  write ("   " ++ dots 2)
  let level ← peakOf samples
  sayAll ["\n\n   ✓ Microphone working!", s!"   Audio level: {Number.fixed 3 level}"]
  if level < 0.001 then
    sayAll ["   ⚠️  No sound detected. Check:", "      - Microphone is plugged in",
      "      - Microphone permissions are granted", "      - Correct input device is selected"]
    return false
  else
    say "   ✓ Sound detected - microphone is working!"
    return true

def testMicrophone : Action Bool := do
  sayAll ["\n🎤 Testing microphone...", "   Recording 2 seconds of audio..."]
  match ← attempt tryMicrophone with
  | .ok works => return works
  | .error f =>
    sayAll [s!"\n   ❌ Microphone error: {f.message}",
      "   Make sure you have a microphone connected"]
    return false

def showIntent (intent : Json) : Action Unit := do
  if intent.truthy then
    say ("   Intent: " ++ (← ofLoose (fieldOf "intent" intent)).display)
    say ("   Confidence: " ++ (← ofLoose (fieldOf "confidence" intent)).display)

/-- What is shown of a result: of a list, two items. -/
def shownPart : Json → Json
  | .arr items => .arr (items.take 2)
  | v => v

def showResult (result : Json) : Action Unit := do
  if result.truthy then
    say "\n✅ Result:"
    sayField "   Status: " result "status" .null
    let value ← replyField result "result" .null
    if value.truthy then say s!"   {(shownPart value).indented 6 0}"

/-- The text of a recording: from the service, or typed. -/
def textOf (whisper : Bool) (path : String) : Action Json := do
  if whisper then transcribe (.str path)
  else
    say "\n📝 Mock transcription (add API key for real Whisper)"
    return .str (← askTrimmed "   Type your command: ")

/-- One turn: record and execute, or end. The sound file stays where nothing was understood. -/
def turn (whisper : Bool) : Action Bool := do
  sayAll ["\n" ++ thinRuler, "Press ENTER to start recording (or 'q' to quit)"]
  if (← askChoice "> ") == "q" then
    say "\n👋 Goodbye!"
    return false
  else
    let path ← save (← recordSound seconds) soundFile
    let text ← textOf whisper path
    if !text.truthy then
      say "   ❌ No text received"
      return true
    else
      sayAll ["\n" ++ ruler, "  💬 TRANSCRIPTION", ruler, s!"\n  \"{text.display}\"\n", ruler]
      showIntent (← parse text)
      showResult (← execute text)
      removeSound soundFile
      return true

def run : Action Unit := do
  sayAll ["\n" ++ ruler, "  🎙️  EchoDebug Voice Recorder", ruler]
  match ← serverStatus with
  | none => sayAll ["\n❌ Cannot connect to server!", "   Start with: python backend/main.py"]
  | some false => sayAll ["\n❌ Server not running!", "   Start with: python backend/main.py"]
  | some true =>
    say "\n✓ Server is running"
    if ← testMicrophone then
      let whisper ← hasKey
      if whisper then say "\n✓ OpenAI API key detected - Whisper enabled\n"
      else
        sayAll ["\n⚠️  No OpenAI API key detected", "   Voice transcription will use mock data",
          "   Add OPENAI_API_KEY to backend/.env for real Whisper\n"]
      repeatStep (turn whisper)
    else
      sayAll ["\n❌ Microphone test failed!", "   Fix microphone issues and try again"]

end VoiceDebugger.Recorder.Plain
