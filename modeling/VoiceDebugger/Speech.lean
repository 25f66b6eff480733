import VoiceDebugger.Session.Action
import VoiceDebugger.Speech.Base64
import VoiceDebugger.Text.Blank

/-!
From sound to text.
-/

namespace VoiceDebugger

open VoiceDebugger.Action

/-- The text that stands for a transcript where no service can be asked. -/
def sampleTranscript : String :=
  "find all syntax errors in main.py"

/-- The ending of the last part of a path, with its dot. Dots at the start of a name begin no
ending. -/
def extensionOf (path : String) : String :=
  let name := ((Text.splitOn '/' path).getLast?.getD "").toList
  let body := name.dropWhile (· == '.')
  if body.contains '.' then
    let tail := (body.reverse.takeWhile (· != '.')).reverse
    String.ofList ('.' :: tail)
  else ""

/-- What the service writes down, without blanks at the ends. -/
def trimmedTranscript (r : TranscriptRequest) : Action String := do
  match ← transcribe r with
  | some text => return Text.strip text
  | none => fail (.loose (.noMember Json.null.kindName "strip"))

def speechFailure {α : Type} (a : Action α) : Action α := do
  match ← attempt a with
  | .ok v => return v
  | .error f => fail (.speech f.message)

def sendTemporary (file : TemporaryFile) : Action String := do
  let content ← readTemporary file
  trimmedTranscript { extension := extensionOf file.path, content := content }

/-- Send written bytes as a sound file of a format, by way of a temporary file. -/
def sendSound (audio format : String) : Action String := do
  let content ← match Base64.decode audio.toList with
    | .ok content => pure content
    | .error f => fail (.unreadable f.message)
  let file ← makeTemporary s!".{format}" content
  thenAlways (sendTemporary file) (dropTemporary file)

def transcribeSound (audio format : String) : Action String := do
  if ← hasKey then speechFailure (sendSound audio format) else return sampleTranscript

def sendSoundFile (path : String) : Action String := do
  let content ← readFile path
  trimmedTranscript { extension := extensionOf path, content := content }

def transcribeFile (path : String) : Action String := do
  if ← hasKey then speechFailure (sendSoundFile path) else return sampleTranscript

end VoiceDebugger
