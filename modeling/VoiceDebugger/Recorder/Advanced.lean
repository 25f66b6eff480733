import VoiceDebugger.Recorder.Basic

/-!
The advanced recorder: devices, a test of the microphone, and statistics of the sound.
-/

namespace VoiceDebugger.Recorder.Advanced

open VoiceDebugger.Action

/-- Take a chunk of sound, with what the device says about it. -/
def takeChunk (chunk : List Float) (status : Json) : Action Unit := do
  if status.truthy then warn s!"Status: {status.display}"
  showChunk chunk

/-- Record with a picture of the sound; nothing may come in. -/
def recordSound (duration : Int) : Action (Option (List Float)) := do
  sayAll [s!"\n🎙️  Recording for {duration} seconds...",
    "   Watch the bars - they show your voice level!",
    "   Speak clearly into your microphone...\n"]
  let chunks ← listenShown duration
  say "\n\n   ✓ Recording complete!"
  if chunks.isEmpty then
    say "   ❌ No audio captured!"
    return none
  else
    let samples := chunks.flatten
    let level ← peakOf samples
    sayAll ["\n   📊 Audio Statistics:", s!"      Max volume: {Number.fixed 3 level}",
      s!"      Avg volume: {Number.fixed 3 (meanLevel samples)}"]
    if level < 0.01 then say "      ⚠️  Very low audio! Speak louder or check microphone"
    else if level > 0.9 then say "      ⚠️  Audio clipping! Speak softer or reduce mic gain"
    else say "      ✓ Audio level is good!"
    return some samples

/-- Save a recording; the path of the file is the result. -/
def save (samples : List Float) (path : String) : Action String := do
  saveSound path path samples
  say s!"\n   💾 Saved to {path}"
  return path

/-- Let the service write a sound file down. -/
def transcribe (path : Json) : Action Json := do
  say "\n📤 Sending to Whisper API..."
  transcribeAtServer path

def showResult (result : Json) : Action Json := do
  say "\n✅ Result:"
  sayField "   Status: " result "status" .null
  sayField "   Intent: " result "intent" .null
  let value ← replyField result "result" .null
  match value with
  | .arr [] => pure ()
  | .arr (first :: rest) =>
    sayAll [s!"   Found {rest.length + 1} result(s)", s!"   First: {first.indented 6 0}"]
  | _ => if value.truthy then say s!"   {value.indented 6 0}"
  return result

def execute (text : Json) : Action Json := do
  say s!"\n⚡ Executing: '{text.display}'"
  exchange "/intent/route" (textBody text) showResult

/-- Listen for three seconds and look at what came in. -/
def tryMicrophone : Action Bool := do
  let chunks ← listenShown 0
  say "\n\n   ✓ Microphone test complete!"
  if chunks.isEmpty then
    say "   ❌ No audio captured!"
    return false
  else
    let level ← peakOf chunks.flatten
    if level < 0.001 then
      sayAll ["   ❌ No sound detected!", "      Check:", "      • Microphone is connected",
        "      • Microphone permissions granted", "      • Correct input device selected"]
      return false
    else
      say s!"   ✓ Sound detected! (level: {Number.fixed 3 level})"
      return true

def testMicrophone : Action Bool := do
  sayAll ["\n🎤 Testing microphone...", "   Say something for 3 seconds...",
    "   Watch the bars to see if your voice is detected!\n"]
  match ← attempt tryMicrophone with
  | .ok works => return works
  | .error f =>
    say s!"\n   ❌ Error: {f.message}"
    return false

/-- The part of a device that a listing needs. -/
def needed {α : Type} (name : String) : Option α → Action α
  | some a => return a
  | none => fail (.loose (.missingKey name))

def listFrom (number : Nat) : List Device → Action Unit
  | [] => pure ()
  | d :: rest => do
    let inputs ← needed "max_input_channels" d.inputs
    if inputs > 0 then
      let mark := if (← get).defaultDevice == number then " (DEFAULT)" else ""
      let name ← needed "name" d.name
      say s!"   [{number}] {name}{mark}"
      say s!"       Channels: {inputs}"
    listFrom (number + 1) rest

def listDevices : Action Unit := do
  say "\n🔊 Available Audio Devices:"
  listFrom 0 (← get).devices

/-- The text of a recording: from the service, or typed. -/
def textOf (whisper : Bool) (path : String) : Action Json := do
  if whisper then transcribe (.str path)
  else
    say "\n📝 Mock mode - type your command:"
    return .str (← askTrimmed "   > ")

/-- Save, write down and execute a recording. The sound file stays where nothing was understood. -/
def useSound (whisper : Bool) (samples : List Float) : Action Unit := do
  let path ← save samples soundFile
  let text ← textOf whisper path
  if !text.truthy then say "   ❌ No text received"
  else
    sayAll ["\n" ++ ruler, "  💬 TRANSCRIPTION", ruler, s!"\n  \"{text.display}\"\n", ruler]
    let _ ← execute text
    removeSound soundFile

/-- One turn: record and execute, test, list, or end. -/
def turn (whisper : Bool) : Action Bool := do
  sayAll ["\n" ++ thinRuler, "Commands:", "  [ENTER] - Record voice command",
    "  [t]     - Test microphone again", "  [d]     - List audio devices", "  [q]     - Quit"]
  let choice ← askChoice "\n> "
  if choice == "q" then
    say "\n👋 Goodbye!"
    return false
  else if choice == "t" then
    let _ ← testMicrophone
    return true
  else if choice == "d" then
    listDevices
    return true
  else
    match ← recordSound seconds with
    | none => return true
    | some samples =>
      useSound whisper samples
      return true

def run : Action Unit := do
  sayAll ["\n" ++ ruler, "  🎙️  EchoDebug Advanced Voice Recorder",
    "  Real-time audio visualization", ruler]
  match ← serverStatus with
  | none => sayAll ["\n❌ Cannot connect to server!", "   Start with: python backend/main.py"]
  | some false => sayAll ["\n❌ Server not running!", "   Start with: python backend/main.py"]
  | some true =>
    say "\n✓ Server is running"
    listDevices
    if ← testMicrophone then
      let whisper ← hasKey
      if whisper then say "\n✓ OpenAI API key detected - Whisper enabled\n"
      else
        sayAll ["\n⚠️  No OpenAI API key - using mock transcription",
          "   Add OPENAI_API_KEY to backend/.env for Whisper\n"]
      repeatStep (turn whisper)
    else say "\n❌ Microphone test failed!"

end VoiceDebugger.Recorder.Advanced
