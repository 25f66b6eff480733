import VoiceDebugger.Failure
import VoiceDebugger.Pattern.Basic

/-!
The places that a stack trace names.
-/

namespace VoiceDebugger

open Pattern

/-- A place that a trace names. Traces of one form give a column too. -/
inductive Frame where
  | quotedFile (file : String) (line : Int)
  | bracketed (file : String) (line column : Int)
  deriving Repr, BEq, DecidableEq

def Frame.toJson : Frame → Json
  | .quotedFile file line =>
    .obj [("file", .str file), ("line", .int line), ("language", .str "python")]
  | .bracketed file line column =>
    .obj [("file", .str file), ("line", .int line), ("column", .int column),
      ("language", .str "javascript")]

def quotedFrame : Pattern :=
  all [exactly "File \"", .keep (some1 (.butNot '"')), exactly "\", line ", .keep (some1 .digit)]

/-- A frame that gives file, line and column in brackets. -/
def bracketedFrame : Pattern :=
  all [exactly "(", .keep (some1 (.butNot ':')), exactly ":", .keep (some1 .digit), exactly ":",
    .keep (some1 .digit), exactly ")"]

def frameNumber (s : String) : Except Failure Int :=
  (Number.readInt s).mapError (Failure.ofInteger s)

/-- The frame of the parts that a pattern keeps. -/
def frameOf : List String → Except Failure (List Frame)
  | [file, line] => do return [.quotedFile file (← frameNumber line)]
  | [file, line, column] => do
    return [.bracketed file (← frameNumber line) (← frameNumber column)]
  | _ => .ok []

def framesOf : List (List String) → Except Failure (List Frame)
  | [] => .ok []
  | parts :: rest => do
    let f ← frameOf parts
    let fs ← framesOf rest
    return f ++ fs

/-- The frames of a trace: first those that quote their file, then those in brackets. -/
def framesIn (trace : List Char) : Except Failure (List Frame) := do
  let quoted ← framesOf (quotedFrame.findAll trace)
  let bracketed ← framesOf (bracketedFrame.findAll trace)
  return quoted ++ bracketed

def explainTrace (trace : String) : Except Failure Json := do
  let frames ← framesIn trace.toList
  return .obj [
    ("summary", .str "Stack trace analysis not yet implemented"),
    ("suspects", .arr (frames.map Frame.toJson)),
    ("root_cause", .null),
    ("suggestions", .arr [])]

def runDebugger : Json :=
  .obj [
    ("status", .str "not_implemented"),
    ("message", .str "Python debugger integration pending")]

end VoiceDebugger
