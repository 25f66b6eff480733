import VoiceDebugger.Demo
import VoiceDebugger.Recorder.Advanced
import VoiceDebugger.Recorder.Live
import VoiceDebugger.Recorder.Plain
import VoiceDebugger.Recorder.Simple

/-!
The command line: the tour or one of the recorders, in an empty workspace and without services. What
is typed comes from standard input.
-/

namespace VoiceDebugger

/-- The program of a name; the tour is run where no other is named. -/
def programOf : String → Action Unit
  | "simple" => Recorder.Simple.run
  | "plain" => Recorder.Plain.run
  | "live" => Recorder.Live.run
  | "advanced" => Recorder.Advanced.run
  | _ => Demo.run

def firstSession (lines : List String) : Session :=
  { clock := { year := 1970, month := 1, day := 1 }, inputs := lines }

partial def linesFrom (stream : IO.FS.Stream) : IO (List String) := do
  let line ← stream.getLine
  if line.isEmpty then return [] else return line :: (← linesFrom stream)

end VoiceDebugger

open VoiceDebugger in
/-- Run a program and print what it says. -/
def main (arguments : List String) : IO Unit := do
  let lines ← linesFrom (← IO.getStdin)
  let (outcome, s) := (programOf (arguments.headD "demo")).run.run (firstSession lines)
  IO.print s.output
  IO.eprint s.errors
  match outcome with
  | .ok _ => pure ()
  | .error f => IO.eprintln f.message
