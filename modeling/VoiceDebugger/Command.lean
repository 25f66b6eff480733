import VoiceDebugger.Session.Action
import VoiceDebugger.Validation.Field

/-!
Running commands.
-/

namespace VoiceDebugger

open VoiceDebugger.Action

/-- The end of a command: its exit code and what it printed. -/
structure CommandResult where
  exit : Int
  output : String
  errors : String
  deriving Repr, BEq, DecidableEq

def CommandResult.toJson (r : CommandResult) : Json :=
  .obj [("exit", .int r.exit), ("stdout", .str r.output), ("stderr", .str r.errors)]

/-- The result of a command that did not come to its end. -/
def CommandResult.failed (message : String) : CommandResult :=
  ⟨-1, "", message⟩

/-- How long a command may take, in seconds. -/
def commandTimeout : Json := .int 20

/-- The pair of an item of a list of settings. -/
def variablePair (index : Nat) (v : Json) : Except LooseFault (Json × Json) :=
  match v.iterate with
  | .error _ => .error (.noElement index)
  | .ok [key, value] =>
    if Check.isKey key then .ok (key, value) else .error (.unhashable key.kindName)
  | .ok items => .error (.noPair index items.length)

def variablePairs : Nat → List Json → List (Json × Json) → Except LooseFault (List (Json × Json))
  | _, [], found => .ok found
  | index, v :: rest, found => do
    let (key, value) ← variablePair index v
    variablePairs (index + 1) rest (Check.setKey key value found)

/-- The settings that a value adds to the environment. -/
def variablesOf (env : Json) : Except LooseFault (List (Json × Json)) :=
  if !env.truthy then .ok []
  else
    match env with
    | .obj fields => .ok (fields.map fun (k, v) => (.str k, v))
    | _ => do variablePairs 0 (← env.iterate) []

/-- Run a command. Whatever goes wrong is told in its result. -/
def runCommand (command : String) (env : Json) (timeout : Json) : Action CommandResult := do
  match variablesOf env with
  | .error f => return .failed f.message
  | .ok settings =>
    match ← runShell command timeout settings with
    | .done run => return ⟨run.exit, run.output, run.errors⟩
    | .timeout => return .failed s!"Command timed out after {timeout.display} seconds"
    | .missing => return .failed (FileFault.missing "shell").message
    | .broken m => return .failed m

end VoiceDebugger
