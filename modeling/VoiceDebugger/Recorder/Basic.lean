import VoiceDebugger.Intent.Parse
import VoiceDebugger.Json.Printer
import VoiceDebugger.Recorder.Level

/-!
What the voice recorders share: recording, sound files, and the exchange with the service.
-/

namespace VoiceDebugger.Recorder

open VoiceDebugger.Action

/-- How many samples a second has. -/
def sampleRate : Nat := 16000

/-- How many seconds a recording lasts. -/
def seconds : Int := 5

def serverUrl : String := "http://localhost:8000"

def repeated (n : Nat) (s : String) : String :=
  String.join (List.replicate n s)

/-- A line across the screen. -/
def ruler : String := repeated 60 "="

/-- A thin line across the screen. -/
def thinRuler : String := repeated 60 "-"

def countDown (n : Int) : List Nat :=
  (List.range n.toNat).reverse.map (· + 1)

/-! ### Sound files -/

def soundFile : String := "temp_audio.wav"

/-- A path from the root of all files, with the steps up taken. -/
def absolutePath (location path : String) : String :=
  let whole := if path.toList.head? == some '/' then path else location ++ "/" ++ path
  "/" ++ "/".intercalate (placeOf whole)

/-- A path of this session from the root of all files. -/
def fullPath (path : String) : Action String := do
  return absolutePath (← get).location path

/-- Write a sound file with the next outcome of its writer. A part that was written before a failure
stays. -/
def putSound (path : String) : Action Unit := do
  match ← takeSound with
  | .written content => putFile path content
  | .broken message none => fail (.broken message)
  | .broken message (some part) =>
    putFile path part
    fail (.broken message)

/-- Save a recording; `shown` is how the path is given to the writer. -/
def saveSound (shown path : String) (samples : List Float) : Action Unit := do
  note (.writeSound shown samples.length sampleRate)
  putSound path

/-- Remove a sound file, if it is there. -/
def removeSound (path : String) : Action Unit := do
  if ← exists? path then dropFile path

/-- The greatest deflection of a recording, which must not be empty. -/
def peakOf (samples : List Float) : Action Float :=
  match peak? samples with
  | some x => return x
  | none => fail .emptyRecording

/-! ### The service -/

/-- Whether the service answers: yes, with a fault, or not at all. -/
def serverStatus : Action (Option Bool) := do
  match ← attempt fetch with
  | .ok r => return some (r.status == 200)
  | .error _ => return none

/-- Send a value to the service and use what comes back; faults are told and give null. -/
def exchange (path : String) (body : Json) (use : Json → Action Json) : Action Json := do
  let sending : Action Json := do
    let r ← post (serverUrl ++ path) body
    if r.status == 200 then use (← ofOutcome r.value)
    else
      say s!"   ❌ API error: {r.status}"
      return .null
  match ← attempt sending with
  | .ok v => return v
  | .error f =>
    say s!"   ❌ Error: {f.message}"
    return .null

def textBody (text : Json) : Json := .obj [("text", text)]

/-- The request about a sound file. -/
def fileBody (path : Json) : Json := .obj [("file_path", path)]

def replyField (v : Json) (name : String) (default : Json) : Action Json :=
  ofLoose (v.getOr name default)

def sayField (label : String) (v : Json) (name : String) (default : Json) : Action Unit := do
  say (label ++ (← replyField v name default).display)

/-- Let the service write a sound file down. -/
def transcribeAtServer (path : Json) : Action Json :=
  exchange "/stt/file" (fileBody path) fun v => replyField v "text" (.str "")

/-! ### The microphone -/

def showChunk (chunk : List Float) : Action Unit :=
  write (loudnessBar (loudness chunk))

def showChunks : List (List Float) → Action Unit
  | [] => pure ()
  | chunk :: rest => do
    showChunk chunk
    showChunks rest

def showRemaining (duration : Int) : Action Unit :=
  write (String.join ((countDown duration).map fun i => s!"\n   ⏱️  {i} seconds remaining..."))

/-- Listen for some seconds, with a picture of what comes in. -/
def listenShown (duration : Int) : Action (List (List Float)) := do
  let chunks ← listen
  showChunks chunks
  showRemaining duration
  return chunks

/-! ### Input -/

/-- The next line that is typed, without blanks at its ends. -/
def askTrimmed (prompt : String) : Action String := do
  return Text.strip (← ask prompt)

def askChoice (prompt : String) : Action String := do
  return Text.lower (← askTrimmed prompt)

/-- Repeat while a step asks for more. Every step takes a line of input or fails, so the lines at
the start bound the steps. -/
def repeatSteps (step : Action Bool) : Nat → Action Unit
  | 0 => pure ()
  | fuel + 1 => do
    if ← step then repeatSteps step fuel

/-- Repeat a step that takes a line of input. -/
def repeatStep (step : Action Bool) : Action Unit := do
  repeatSteps step ((← get).inputs.length + 1)

end VoiceDebugger.Recorder
