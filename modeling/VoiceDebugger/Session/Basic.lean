import VoiceDebugger.Index.Basic
import VoiceDebugger.Router.Basic
import VoiceDebugger.Session.Service
import VoiceDebugger.Workspace.Temporary

/-!
A session: the workspace, what the program remembers, the answers that services have ready, and what
was asked and printed so far.
-/

namespace VoiceDebugger

/-- The state of a session. -/
structure Session where
  root : Folder := []
  clock : Timestamp
  apiKey : Option String := none
  tools : List (String × ToolReply) := []
  chats : List ChatReply := []
  transcripts : List TranscriptReply := []
  posts : List HttpReply := []
  gets : List HttpReply := []
  inputs : List String := []
  recordings : List RecordingReply := []
  streams : List StreamReply := []
  devices : List Device := []
  defaultDevice : Int := 0
  /-- The index that all requests share, once there is one. -/
  index : Option Index := none
  /-- The router that all requests share. -/
  router : Router := []
  calls : List Call := []
  output : String := ""
  errors : String := ""
  /-- The temporary files that are there. -/
  temporary : List TemporaryFile := []
  /-- Where the workspace is, from the root of all files. -/
  location : String := "/ws"
  /-- What the next sound files come to. -/
  sounds : List SoundReply := []

/-- The key that stands in a template and is none. -/
def templateKey : String := "your_api_key_here"

def Session.hasKey (s : Session) : Bool :=
  match s.apiKey with
  | some key => !key.isEmpty && key != templateKey
  | none => false

end VoiceDebugger
