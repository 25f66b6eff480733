import VoiceDebugger.Failure
import VoiceDebugger.Session.Basic
import VoiceDebugger.Workspace.Content

/-!
Actions of a session. What an action did before it failed stays done.
-/

namespace VoiceDebugger

/-- An action changes the session and may fail. -/
abbrev Action (α : Type) := ExceptT Failure (StateM Session) α

namespace Action

def fail {α : Type} (f : Failure) : Action α :=
  throw f

/-- The outcome of an action, failure or not. -/
def attempt {α : Type} (a : Action α) : Action (Except Failure α) :=
  ExceptT.mk do
    let outcome ← a.run
    return .ok outcome

def ofOutcome {α : Type} (e : Except Failure α) : Action α :=
  match e with
  | .ok a => pure a
  | .error f => fail f

/-- The value of a loose use of values. -/
def ofLoose {α : Type} (e : Except LooseFault α) : Action α :=
  ofOutcome (e.mapError Failure.loose)

/-- Do something at last, whatever an action comes to. -/
def thenAlways {α : Type} (a : Action α) (last : Action Unit) : Action α := do
  let outcome ← attempt a
  last
  ofOutcome outcome

/-! ### Printing -/

def write (text : String) : Action Unit :=
  modify fun s => { s with output := s.output ++ text }

def say (line : String) : Action Unit :=
  write (line ++ "\n")

def sayAll : List String → Action Unit
  | [] => pure ()
  | line :: rest => do
    say line
    sayAll rest

/-- Print a line beside the output. -/
def warn (line : String) : Action Unit :=
  modify fun s => { s with errors := s.errors ++ line ++ "\n" }

/-- Print a text and take the next line that is typed. -/
def ask (prompt : String) : Action String := do
  write prompt
  let s ← get
  match s.inputs with
  | [] => fail .noInput
  | line :: rest =>
    set { s with inputs := rest }
    return line

/-! ### Services -/

def note (c : Call) : Action Unit :=
  modify fun s => { s with calls := s.calls ++ [c] }

/-- The failure of a service that has no answer ready. -/
def unanswered (service : String) : Failure :=
  .broken s!"no scripted {service}"

def hasKey : Action Bool := do
  return (← get).hasKey

/-- Ask a chat model; the content of its first choice is the answer. -/
def chat (r : ChatRequest) : Action (Option String) := do
  note (.chat r)
  let s ← get
  match s.chats with
  | [] => fail (unanswered "llm")
  | reply :: rest =>
    set { s with chats := rest }
    match reply with
    | .content text => return text
    | .noChoice => fail (.loose .indexRange)
    | .broken m => fail (.broken m)

/-- Ask for what a sound file says. -/
def transcribe (r : TranscriptRequest) : Action (Option String) := do
  note (.transcription r)
  let s ← get
  match s.transcripts with
  | [] => fail (unanswered "stt")
  | reply :: rest =>
    set { s with transcripts := rest }
    match reply with
    | .text text => return text
    | .broken m => fail (.broken m)

structure Response where
  status : Int
  body : Option Json
  text : String

def Response.value (r : Response) : Except Failure Json :=
  match r.body with
  | some v => .ok v
  | none => .error .noValue

def responseOf : HttpReply → Except Failure Response
  | .response status body text => .ok ⟨status, body, text⟩
  | .broken m => .error (.broken m)

/-- Send a value to a server. -/
def post (url : String) (body : Json) : Action Response := do
  note (.post url body)
  let s ← get
  match s.posts with
  | [] => fail (unanswered "http")
  | reply :: rest =>
    set { s with posts := rest }
    ofOutcome (responseOf reply)

def fetch : Action Response := do
  let s ← get
  match s.gets with
  | [] => fail (unanswered "http_get")
  | reply :: rest =>
    set { s with gets := rest }
    ofOutcome (responseOf reply)

def record (frames : Int) : Action (List Float) := do
  note (.record frames)
  let s ← get
  match s.recordings with
  | [] => fail (unanswered "rec")
  | reply :: rest =>
    set { s with recordings := rest }
    match reply with
    | .samples samples => return samples
    | .broken m => fail (.broken m)

/-- Open the microphone and take what it brings. -/
def listen : Action (List (List Float)) := do
  let s ← get
  match s.streams with
  | [] => return []
  | reply :: rest =>
    set { s with streams := rest }
    match reply with
    | .chunks chunks => return chunks
    | .broken m => fail (.broken m)

/-- What the next sound file comes to. -/
def takeSound : Action SoundReply := do
  let s ← get
  match s.sounds with
  | [] => fail (unanswered "write")
  | reply :: rest =>
    set { s with sounds := rest }
    return reply

/-! ### Commands -/

/-- What a command that ran has left. -/
structure ToolRun where
  output : String
  errors : String
  exit : Int

/-- How the run of a command can end. -/
inductive ToolOutcome where
  | done (run : ToolRun)
  | timeout
  | missing
  | broken (message : String)

def toolReply? (tool : String) : List (String × ToolReply) → Option ToolReply
  | [] => none
  | (name, reply) :: rest => if name == tool then some reply else toolReply? tool rest

def outcomeOf : ToolReply → ToolOutcome
  | .done output errors exit => .done ⟨output, errors, exit⟩
  | .timeout => .timeout
  | .missing => .missing
  | .broken m => .broken m

/-- Run a tool with arguments; one without a reply is missing. -/
def runTool (tool : String) (arguments : List Json) (timeout : Json) : Action ToolOutcome := do
  note (.tool (.str tool :: arguments) timeout)
  return outcomeOf ((toolReply? tool (← get).tools).getD .missing)

/-- Run a command line; one without a reply does nothing. -/
def runShell (command : String) (timeout : Json) (settings : List (Json × Json)) :
    Action ToolOutcome := do
  note (.shell command timeout settings)
  return outcomeOf ((toolReply? "shell" (← get).tools).getD (.done "" "" 0))

/-! ### Files -/

def exists? (path : String) : Action Bool := do
  return pathExists (← get).root path

def readFile (path : String) : Action (List UInt8) := do
  ofOutcome ((readBytes (← get).root path).mapError Failure.file)

def readText (path : String) : Action (List Char) := do
  let content ← readFile path
  ofOutcome ((textOf content).mapError Failure.undecodable)

def putFile (path : String) (content : List UInt8) : Action Unit := do
  let root ← ofOutcome ((writeFile (← get).root path content).mapError Failure.file)
  modify fun s => { s with root := root }

def dropFile (path : String) : Action Unit := do
  let root ← ofOutcome ((removeFile (← get).root path).mapError Failure.file)
  modify fun s => { s with root := root }

def makeTemporary (ending : String) (content : List UInt8) : Action TemporaryFile := do
  let s ← get
  let file : TemporaryFile := ⟨freeNumber s.temporary, ending, content⟩
  match file.fault? with
  | some fault => fail (.file fault)
  | none =>
    set { s with temporary := s.temporary ++ [file] }
    return file

def readTemporary (file : TemporaryFile) : Action (List UInt8) := do
  match (← get).temporary.find? (·.number == file.number) with
  | some found => return found.content
  | none => fail (.file (.missing file.path))

def dropTemporary (file : TemporaryFile) : Action Unit :=
  modify fun s => { s with temporary := s.temporary.filter (·.number != file.number) }

end Action

end VoiceDebugger
