import VoiceDebugger.Json.Loose
import VoiceDebugger.Number.Read
import VoiceDebugger.Text.Utf8
import VoiceDebugger.Workspace.Path

/-!
Why an action comes to no result.
-/

namespace VoiceDebugger

/-- One fault of one field, with where it lies, what is wrong and what kind of fault it is. -/
structure FieldFault where
  location : List String
  message : String
  kind : String
  context : List (String × String) := []
  deriving Repr, BEq

def FieldFault.text (f : FieldFault) : String :=
  let details := "; ".intercalate (s!"type={f.kind}" :: f.context.map fun (k, v) => s!"{k}={v}")
  let place := " -> ".intercalate f.location
  s!"{place}\n  {f.message} ({details})"

/-- Why an action fails. -/
inductive Failure where
  | file (fault : FileFault)
  | undecodable (fault : Text.Utf8Fault)
  | unreadable (message : String)
  | longInteger (digits : Nat)
  | badInteger (text : String)
  | loose (fault : LooseFault)
  | invalid (model : String) (faults : List FieldFault)
  /-- A service breaks down. -/
  | broken (message : String)
  /-- A service does not send a value. -/
  | noValue
  | noInput
  | speech (message : String)
  | search (message : String)
  | request (message : String)
  | unknownIntent (value : Json)
  | confidenceRange
  | emptyRecording
  | largeNumber
  | infiniteNumber
  deriving Repr

/-- The most characters of a text that a message about a number shows. -/
def shownChars : Nat := 200

def Failure.message : Failure → String
  | .file fault => fault.message
  | .undecodable fault => fault.message
  | .unreadable message => message
  | .longInteger digits => Number.longIntegerMessage digits
  | .badInteger text =>
    let shown := String.ofList ((Text.quoted text).toList.take shownChars)
    s!"invalid literal for int() with base 10: {shown}"
  | .loose fault => fault.message
  | .invalid model faults =>
    let count := faults.length
    let noun := if count == 1 then "error" else "errors"
    "\n".intercalate (s!"{count} validation {noun} for {model}" :: faults.map FieldFault.text)
  | .broken message => message
  | .noValue => "no json"
  | .noInput => "EOF when reading a line"
  | .speech message => s!"STT error: {message}"
  | .search message => s!"Search error: {message}"
  | .request message => message
  | .unknownIntent value => s!"{value.inner} is not a valid IntentType"
  | .confidenceRange => "Confidence must be between 0 and 1"
  | .emptyRecording => "zero-size array to reduction operation maximum which has no identity"
  | .largeNumber => "int too large to convert to float"
  | .infiniteNumber => "cannot convert float infinity to integer"

def Failure.ofInteger (text : String) : Number.IntegerFault → Failure
  | .tooLong digits => .longInteger digits
  | .malformed => .badInteger text

end VoiceDebugger
