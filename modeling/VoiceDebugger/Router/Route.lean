import VoiceDebugger.Command
import VoiceDebugger.Index.Shared
import VoiceDebugger.Intent.Basic
import VoiceDebugger.Lint

/-!
Answering intents.

An intent that changes code is not answered before it is confirmed.
-/

namespace VoiceDebugger

open VoiceDebugger.Action

def Entities.languageValue (e : Entities) : Json :=
  Json.ofString? (e.language.map (·.name))

/-- A text that is there and not empty. -/
def given? : Option CodeText → Option CodeText
  | some s => if s.isEmpty then none else some s
  | none => none

def answerSymbols (e : Entities) : Action Json := do
  let hits ← findSymbols (e.symbol.getD "") e.languageValue true
  return .arr hits.toJson

def answerErrors (e : Entities) : Action Json := do
  match given? e.file with
  | some file => return (← findErrors (.str file) e.languageValue).toJson
  | none =>
    return .obj [
      ("errors", .arr []),
      ("warnings", .arr []),
      ("message", .str "Please specify a file to check")]

/-- Name what would be explained. -/
def answerExplanation (e : Entities) : Json :=
  let target : CodeText := ((given? e.function).or (given? e.file)).getD "selection"
  .obj [("message", .str "Code explanation not yet implemented"), ("target", .str target)]

def testCommand? (e : Entities) : Option String :=
  match e.language with
  | some .python =>
    match given? e.file with
    | some file => some s!"pytest {file.shown} -v"
    | none => some "pytest -v"
  | some .javascript | some .typescript => some "npm test"
  | _ => none

/-- How long tests may take, in seconds. -/
def testTimeout : Json := .int 60

def answerTests (e : Entities) : Action Json := do
  match testCommand? e with
  | some command => return (← runCommand command .null testTimeout).toJson
  | none =>
    return .obj [
      ("message", .str s!"Test running not supported for {e.languageValue.display}")]

def Handler.answer (e : Entities) : Handler → Action Json
  | .symbols => answerSymbols e
  | .errors => answerErrors e
  | .explanation => return answerExplanation e
  | .tests => answerTests e
  | .fixed value => return value
  | .failing message => fail (.broken message)
  | .echo => return e.toJson

/-- What became of an intent. -/
inductive RouteOutcome where
  | unconfirmed (kind : IntentKind) (about : Entities)
  | unhandled (kind : IntentKind)
  | answered (kind : IntentKind) (value : Json)
  | failed (kind : IntentKind) (failure : Failure)

namespace RouteOutcome

def status : RouteOutcome → String
  | .unconfirmed .. => "confirmation_required"
  | .unhandled _ => "error"
  | .answered .. => "success"
  | .failed .. => "error"

def toJson (r : RouteOutcome) : Json :=
  let status : CodeText × Json := ("status", .str r.status)
  match r with
  | .unconfirmed kind about =>
    .obj [
      status,
      ("intent", .str kind.name),
      ("message", .str "This action will modify code. Confirm to proceed."),
      ("entities", about.toJson)]
  | .unhandled kind =>
    .obj [status, ("message", .str s!"No handler registered for intent: {kind.name}")]
  | .answered kind value => .obj [status, ("intent", .str kind.name), ("result", value)]
  | .failed kind failure =>
    .obj [status, ("intent", .str kind.name), ("message", .str failure.message)]

end RouteOutcome

def HandlerTable.routeBy {η : Type} {m : Type → Type} [Monad m]
    (call : η → Entities → m (Except Failure Json)) (r : HandlerTable η) (i : Intent)
    (confirm : Bool) : m RouteOutcome := do
  if i.kind.isDestructive && confirm then return .unconfirmed i.kind i.entities
  else
    match r.handler? i.kind with
    | none => return .unhandled i.kind
    | some h =>
      match ← call h i.entities with
      | .ok value => return .answered i.kind value
      | .error f => return .failed i.kind f

def Router.route (r : Router) (i : Intent) (confirm : Bool) : Action RouteOutcome :=
  r.routeBy (fun h about => attempt (h.answer about)) i confirm

/-- Set the handlers that the shared router has from the start. -/
def registerShared : Action Unit :=
  modify fun s => { s with router := s.router.registerDefaults }

end VoiceDebugger
