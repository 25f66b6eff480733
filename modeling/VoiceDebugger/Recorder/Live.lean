import VoiceDebugger.Recorder.Basic

/-!
The live recorder: a picture of the sound while it comes in, and the transcript in a box.
-/

namespace VoiceDebugger.Recorder.Live

open VoiceDebugger.Action

def typeOut (text : Json) : Action Unit := do
  let chars ← ofLoose text.iterate
  say (String.join (chars.map Json.display))

/-- Record with a picture of the sound; nothing may come in. -/
def recordSound (duration : Int) : Action (Option (List Float)) := do
  sayAll [s!"\n🎙️  Recording for {duration} seconds...",
    "   Speak clearly into your microphone...\n"]
  let chunks ← listenShown duration
  say "\n\n   ✓ Recording complete!"
  if chunks.isEmpty then return none
  else
    let samples := chunks.flatten
    let level ← peakOf samples
    if level < 0.01 then say "      ⚠️  Very low audio! Speak louder"
    else if level > 0.9 then say "      ⚠️  Audio clipping! Speak softer"
    else say s!"      ✓ Audio level good ({Number.fixed 3 level})"
    return some samples

/-- Save a recording; the path of the file is the result. -/
def save (samples : List Float) (path : String) : Action String := do
  let full ← fullPath path
  saveSound full path samples
  return full

/-- Let the service write a sound file down. -/
def transcribe (path : Json) : Action Json := do
  sayAll ["\n📤 Sending to Whisper API...", "   Processing audio..."]
  transcribeAtServer path

/-! ### The box around a transcript -/

def emptyRow : String := "║" ++ repeated 58 " " ++ "║"

def boxTop : List String :=
  ["\n╔" ++ repeated 58 "=" ++ "╗",
    "║" ++ repeated 20 " " ++ "💬 TRANSCRIPTION" ++ repeated 22 " " ++ "║",
    "╠" ++ repeated 58 "=" ++ "╣",
    emptyRow]

def boxBottom : List String :=
  [emptyRow, "╚" ++ repeated 58 "=" ++ "╝"]

def wordsOf : Json → Action (List String)
  | .str s => return Text.words s.shown
  | v => fail (.loose (.noMember v.kindName "split"))

/-- How many characters a row holds. -/
def rowWidth : Nat := 54

def row (line : String) : String :=
  "║ " ++ padTo 56 line ++ " ║"

/-- The rows of words. A word goes to the row that is being filled if it fits behind it. -/
def rowsFrom (line : String) : List String → List String
  | [] => if (Text.strip line).isEmpty then [] else [row line]
  | w :: rest =>
    if line.length + w.length + 1 ≤ rowWidth then rowsFrom (line ++ w ++ " ") rest
    else row line :: rowsFrom ("  " ++ w ++ " ") rest

def showTranscript (text : Json) : Action Unit := do
  sayAll boxTop
  sayAll (rowsFrom "  " (← wordsOf text))
  sayAll boxBottom

/-- The rest of a row of which some characters are taken, and its end. -/
def rowEnd (taken : Nat) : String :=
  repeated (rowWidth - taken) " " ++ " ║\n"

def rowStart : String := "║  "

/-- What is typed for words when some characters of the row are taken. -/
def typedFrom (taken : Nat) : List String → String
  | [] => rowEnd taken
  | w :: rest =>
    let broken := taken + w.length + 1 > rowWidth
    let turn := if broken then rowEnd taken ++ rowStart else ""
    let gap := if rest.isEmpty then "" else " "
    turn ++ w ++ gap ++ typedFrom ((if broken then 0 else taken) + w.length + 1) rest

def typeTranscript (text : Json) : Action Unit := do
  sayAll boxTop
  write rowStart
  write (typedFrom 0 (← wordsOf text))
  sayAll boxBottom

/-! ### Commands -/

def showResult (result : Json) : Action Json := do
  say "\n✅ Result:"
  sayField "   Status: " result "status" .null
  sayField "   Intent: " result "intent" .null
  let value ← replyField result "result" .null
  match value with
  | .arr [] => pure ()
  | .arr (first :: rest) =>
    let missing : Json := .str "N/A"
    sayAll [s!"   Found {rest.length + 1} result(s)", "\n   First result:"]
    sayField "   • File: " first "file" missing
    sayField "   • Line: " first "line" missing
    sayField "   • Kind: " first "kind" missing
  | _ => if value.truthy then say s!"   {value.indented 6 0}"
  return result

def execute (text : Json) : Action Json := do
  say "\n⚡ Executing command..."
  exchange "/intent/route" (textBody text) showResult

/-- The text of a recording: from the service, or typed. -/
def textOf (whisper : Bool) (path : String) : Action Json := do
  if whisper then transcribe (.str path)
  else
    say "\n📝 Mock mode - type your command:"
    return .str (← askTrimmed "   > ")

/-- Save, write down and execute a recording. The sound file stays where nothing was understood. -/
def useSound (whisper : Bool) (samples : List Float) : Action Unit := do
  let path ← save samples soundFile
  let text ← textOf whisper path
  if !text.truthy then say "   ❌ No text received"
  else
    typeTranscript text
    let _ ← execute text
    removeSound soundFile

/-- One turn: record and execute, or end. -/
def turn (whisper : Bool) : Action Bool := do
  sayAll ["\n" ++ thinRuler, "Press ENTER to start recording (or 'q' to quit)"]
  if (← askChoice "> ") == "q" then
    say "\n👋 Goodbye!"
    return false
  else
    match ← recordSound seconds with
    | none => return true
    | some samples =>
      useSound whisper samples
      return true

def run : Action Unit := do
  sayAll ["\n╔" ++ repeated 58 "=" ++ "╗",
    "║" ++ repeated 10 " " ++ "🎙️  EchoDebug Live Voice Recorder" ++ repeated 13 " " ++ "║",
    "║" ++ repeated 15 " " ++ "Real-time Transcription" ++ repeated 19 " " ++ "║",
    "╚" ++ repeated 58 "=" ++ "╝"]
  match ← serverStatus with
  | none => sayAll ["\n❌ Cannot connect to server!", "   Start with: python backend/main.py"]
  | some false => sayAll ["\n❌ Server not running!", "   Start with: python backend/main.py"]
  | some true =>
    say "\n✓ Server is running"
    let whisper ← hasKey
    say (if whisper then "\n✓ OpenAI API key detected - Whisper enabled"
      else "\n⚠️  No OpenAI API key - using mock transcription")
    repeatStep (turn whisper)

end VoiceDebugger.Recorder.Live
