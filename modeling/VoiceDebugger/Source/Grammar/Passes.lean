import VoiceDebugger.Source.Grammar.Parser

/-!
The two passes of a parse.

The first pass tells whether the tokens follow the grammar. If they do not, the second pass looks
for the reason with the rules for diagnosis switched on; if it finds none, the last token that the
first pass looked at is to blame. A malformed token further on outweighs every fault of the grammar.
-/

namespace VoiceDebugger.Source

def State.start (diagnosing : Bool) : State :=
  ⟨0, 0, diagnosing, ∅⟩

/-- A fault of the grammar, unless the tokens that were not looked at yet hold one that outweighs
it: a malformed token, or a bracket that was opened on an earlier line and is never closed. -/
def outweigh (i : Input) (s : State) (f : Fault) : Fault :=
  if f.ofTokens then f
  else
    match i.stop with
    | none => f
    | some (.malformed place message) => { place := place, message := message }
    | some _ =>
      match i.brackets, i.tokens[s.seen - 1]? with
      | b :: _, some t => if t.line > b.line then i.openFault b else f
      | _, _ => f

def unexplained (i : Input) (last : Token) (s : State) : Fault :=
  let here (message : String) : Fault :=
    match (Parser.raiseHere message : Parser Unit) i s with
    | .raise f _ => f
    | _ => i.faultAt last.line last.columnFromOne message
  match last.kind with
  | .indent => here "unexpected indent"
  | .dedent => here "unexpected unindent"
  | _ => outweigh i s (i.faultAt last.line last.columnFromOne "invalid syntax")

/-- Run a rule over a token stream. -/
def runPasses {α : Type} (start : Parser α) (i : Input) : Except Fault α :=
  match start i (State.start false) with
  | .ok a _ => .ok a
  | .raise f s => .error (outweigh i s f)
  | .fail s =>
    match i.tokens[s.seen - 1]? with
    | none => .error (i.faultAt 0 0 "error at start before reading any input")
    | some last =>
      match start i (State.start true) with
      | .raise f s => .error (outweigh i s f)
      | .ok _ s => .error (unexplained i last s)
      | .fail s => .error (unexplained i last s)

end VoiceDebugger.Source
