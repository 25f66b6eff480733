import VoiceDebugger.Json.Basic

/-!
What the services and devices around a session are asked, and what they answer.
-/

namespace VoiceDebugger

/-- The answer of a command. -/
inductive ToolReply where
  | done (output errors : String) (exit : Int)
  | timeout
  | missing
  | broken (message : String)
  deriving Repr

/-- The answer of a chat model. -/
inductive ChatReply where
  | content (text : Option String)
  | noChoice
  | broken (message : String)
  deriving Repr

/-- The answer of the transcription service. -/
inductive TranscriptReply where
  | text (text : Option String)
  | broken (message : String)
  deriving Repr

/-- The answer of a server. -/
inductive HttpReply where
  | response (status : Int) (body : Option Json) (text : String)
  | broken (message : String)
  deriving Repr

/-- What a recording of a fixed length brings. -/
inductive RecordingReply where
  | samples (samples : List Float)
  | broken (message : String)
  deriving Repr

/-- What an open microphone brings, chunk by chunk. -/
inductive StreamReply where
  | chunks (chunks : List (List Float))
  | broken (message : String)
  deriving Repr

/-- What writing a sound file comes to: the bytes that the file holds, or a failure, behind which a
part of the file may be left. -/
inductive SoundReply where
  | written (content : List UInt8)
  | broken (message : String) (part : Option (List UInt8))
  deriving Repr

structure Device where
  name : Option String
  inputs : Option Int
  deriving Repr

structure ChatMessage where
  role : String
  content : String
  deriving Repr, BEq

/-- A question to a chat model. The answer has to be a JSON object. -/
structure ChatRequest where
  messages : List ChatMessage
  model : String := "gpt-4o-mini"
  temperature : Float := 0.3
  format : String := "json_object"
  deriving Repr

/-- A request to write down what a sound file says. -/
structure TranscriptRequest where
  extension : String
  content : List UInt8
  model : String := "whisper-1"
  language : String := "en"
  deriving Repr

/-- What was asked of the world around a session. -/
inductive Call where
  | tool (arguments : List Json) (timeout : Json)
  | shell (command : String) (timeout : Json) (settings : List (Json × Json))
  | chat (request : ChatRequest)
  | transcription (request : TranscriptRequest)
  | post (url : String) (body : Json)
  | record (frames : Int)
  | writeSound (path : String) (samples : Nat) (rate : Nat)
  deriving Repr

end VoiceDebugger
