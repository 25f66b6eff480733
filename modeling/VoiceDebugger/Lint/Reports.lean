import VoiceDebugger.Failure
import VoiceDebugger.Json.Reader
import VoiceDebugger.Lint.Finding

/-!
Reading what the checkers print.

A report is taken over piece by piece; at the first piece that is malformed, reading stops, and what
was found before it stays.
-/

namespace VoiceDebugger

/-- Findings, and why reading stopped, if it did. -/
structure ReadReport where
  findings : Findings := {}
  fault : Option Failure := none

namespace ReadReport

/-- Read pieces until one is malformed. -/
def readAll {α : Type} (read : α → Except Failure Findings) : List α → ReadReport
  | [] => {}
  | a :: rest =>
    match read a with
    | .error f => { fault := some f }
    | .ok found =>
      let later := readAll read rest
      { later with findings := found ++ later.findings }

def failed (f : Failure) : ReadReport :=
  { fault := some f }

/-- The findings, with a remark on why reading stopped. -/
def close (checker source : String) (r : ReadReport) : Findings :=
  match r.fault with
  | none => r.findings
  | some f => r.findings ++ .warning (.remark s!"{checker} error: {f.message}" source)

end ReadReport

open ReadReport

/-- The finding of one item of the style checker's report. -/
def styleFinding (item : Json) : Except Failure Findings := do
  let get (name : String) (default : Json) : Except Failure Json :=
    (item.getOr name default).mapError Failure.loose
  let line ← get "line" (.int 0)
  let column ← get "column" (.int 0)
  let message ← get "message" (.str "")
  let kind ← get "type" (.str "")
  let symbol ← get "symbol" (.str "")
  let found := Finding.style line column message kind symbol
  if kind.same (.str "error") || kind.same (.str "fatal") then return .error found
  else return .warning found

def readStyleReport (text : String) : ReadReport :=
  if text.isEmpty then {}
  else
    match Json.parseString text with
    | .error m => failed (.unreadable m)
    | .ok v =>
      match v.iterate with
      | .error f => failed (.loose f)
      | .ok items => readAll styleFinding items

/-- Cut a line at the first separators, at most a number of times. -/
def cutAt (sep : Char) : Nat → List Char → List (List Char)
  | 0, cs => [cs]
  | n + 1, cs =>
    match cs.dropWhile (· != sep) with
    | [] => [cs]
    | _ :: rest => cs.takeWhile (· != sep) :: cutAt sep n rest

/-- The number of a place in the type checker's report; what is no number counts as zero. -/
def placeNumber (cs : List Char) : Except Failure Int :=
  if !cs.isEmpty && cs.all Text.isDigitForm then
    let s := String.ofList cs
    (Number.readInt s).mapError (Failure.ofInteger s)
  else .ok 0

/-- The finding of one line of the type checker's report. -/
def typingFinding (line : List Char) : Except Failure Findings :=
  if line.contains ':' && Text.occursIn "error:".toList line then
    match cutAt ':' 3 line with
    | [_, row, column, message] => do
      let row ← placeNumber row
      let column ← placeNumber column
      return .error (.typing row column (String.ofList (Text.trim message)))
    | _ => .ok {}
  else .ok {}

def readTypingReport (text : String) : ReadReport :=
  if text.isEmpty then {}
  else readAll typingFinding (Text.splitAtChar '\n' (Text.trim text.toList))

/-- The finding of one message of the script checker's report. -/
def scriptFinding (item : Json) : Except Failure Findings := do
  let get (name : String) (default : Json) : Except Failure Json :=
    (item.getOr name default).mapError Failure.loose
  let line ← get "line" (.int 0)
  let column ← get "column" (.int 0)
  let message ← get "message" (.str "")
  let rule ← get "ruleId" (.str "")
  let severity ← get "severity" .null
  let found := Finding.script line column message rule
  if severity.same (.int 2) then return .error found else return .warning found

/-- The messages of the files of a script report. Files are read until one has no messages to loop
over. -/
def scriptFiles : List Json → ReadReport
  | [] => {}
  | file :: rest =>
    match file.getOr "messages" (.arr []) with
    | .error f => failed (.loose f)
    | .ok messages =>
      match messages.iterate with
      | .error f => failed (.loose f)
      | .ok items =>
        let here := readAll scriptFinding items
        match here.fault with
        | some _ => here
        | none =>
          let later := scriptFiles rest
          { later with findings := here.findings ++ later.findings }

def readScriptReport (text : String) : ReadReport :=
  if text.isEmpty then {}
  else
    match Json.parseString text with
    | .error m => failed (.unreadable m)
    | .ok v =>
      match v.iterate with
      | .error f => failed (.loose f)
      | .ok items => scriptFiles items

end VoiceDebugger
