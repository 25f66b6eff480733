import VoiceDebugger.Fix
import VoiceDebugger.Intent.Basic
import VoiceDebugger.Intent.Detect
import VoiceDebugger.Intent.Extract
import VoiceDebugger.Intent.Prompt

/-!
From a sentence to an intent: by a chat model where one can be asked, else by phrasings.
-/

namespace VoiceDebugger

open VoiceDebugger.Action

def entitiesIn (text : List Char) : Except Number.IntegerFault Entities := do
  let line ← lineIn text
  return {
    file := (fileIn text).map CodeText.ofString
    symbol := (symbolIn text).map CodeText.ofString
    language := some (languageIn text)
    scope := some (scopeIn text)
    line := line
    function := (functionIn text).map CodeText.ofString }

def intentByPhrasing (text : String) : Except Failure Intent :=
  let chars := text.toList
  match entitiesIn chars with
  | .error f => .error (Failure.ofInteger text f)
  | .ok about =>
    let (kind, confidence) := detectIntent chars
    .ok { kind := kind, confidence := confidence, entities := about, rawText := some text }

/-! ### Context -/

/-- Whether a value has a name: as a field, an item, or part of a text. -/
def hasName (name : String) : Json → Except LooseFault Bool
  | .obj fields => .ok (Json.field? name fields).isSome
  | .arr items => .ok (items.any fun v => v.same (.str name))
  | .str s => .ok (Text.contains s.shown name)
  | v => .error (.notContainer v.kindName)

def fieldOf (name : String) : Json → Except LooseFault Json
  | .obj fields =>
    match Json.field? name fields with
    | some v => .ok v
    | none => .error (.missingKey name)
  | .arr _ => .error (.listIndex "str")
  | .str _ => .error (.textIndex "str")
  | v => .error (.notSubscriptable v.kindName)

def firstParts (n : Nat) : Json → Except LooseFault (List Json)
  | .arr items => .ok (items.take n)
  | .str s => .ok ((Json.charsOf s).take n)
  | .obj _ => .error (.unhashable "slice")
  | v => .error (.notSubscriptable v.kindName)

def textsFrom : Nat → List Json → Except LooseFault (List String)
  | _, [] => .ok []
  | index, .str s :: rest => do return s.shown :: (← textsFrom (index + 1) rest)
  | index, v :: _ => .error (.unjoinableItem index v.kindName)

/-- How many files of the context a chat model is told. -/
def toldFiles : Nat := 10

/-- The files of a context, as a chat model is told. -/
def filesText (context : Json) : Except LooseFault String := do
  if ← hasName "files" context then
    let files ← fieldOf "files" context
    let names ← textsFrom 0 (← firstParts toldFiles files)
    let shown := ", ".intercalate names
    return s!"\nAvailable files: {shown}"
  else return ""

/-- The current file of a context, as a chat model is told. -/
def currentText (context : Json) : Except LooseFault String := do
  if ← hasName "current_file" context then
    let file ← fieldOf "current_file" context
    return s!"\nCurrent file: {file.display}"
  else return ""

/-- A context, as a chat model is told. -/
def contextText (context : Json) : Except LooseFault String := do
  if context.truthy then return (← filesText context) ++ (← currentText context) else return ""

/-! ### Parsing -/

/-- The intent that a chat model gives for a sentence. -/
def intentByChat (text context : String) : Action Intent := do
  let reply ← chat {
    messages := [⟨"system", intentPrompt⟩, ⟨"user", s!"User command: {text}{context}"⟩] }
  let v ← ofOutcome (replyValue reply)
  ofOutcome (Intent.ofJson v)

/-- Ask a chat model; if that fails, go by the phrasing. -/
def intentByService (text : String) (context : Json) : Action Intent := do
  let context ← ofLoose (contextText context)
  match ← attempt (intentByChat text context) with
  | .ok i => return i
  | .error f =>
    say s!"LLM parsing error: {f.message}"
    ofOutcome (intentByPhrasing text)

def parseIntent (text : String) (context : Json) : Action Intent := do
  if ← hasKey then
    match ← attempt (intentByService text context) with
    | .ok i => return i
    | .error f =>
      say s!"LLM parsing failed, falling back to keyword matching: {f.message}"
      ofOutcome (intentByPhrasing text)
  else ofOutcome (intentByPhrasing text)

/-- The intent of a sentence, written as a value and checked once more. -/
def checkedIntent (text : String) (context : Json) : Action Intent := do
  let i ← parseIntent text context
  ofOutcome (Intent.ofJson i.toJson)

/-! ### Single entities -/

/-- The file that a sentence names as a word. -/
def fileEntity (text : String) : Json :=
  match fileWord? text with
  | some (file, language) => .obj [("file", .str file), ("language", .str language)]
  | none => .obj [("file", .null), ("language", .str "python")]

def symbolEntity (text : String) : Json :=
  .obj [
    ("symbol", Json.ofString? (symbolWord? (Text.words text))),
    ("scope", .str "all"),
    ("language", .str "python")]

/-- The code that a sentence is about is what is selected. -/
def codeEntity : Json :=
  .obj [("target", .str "selection"), ("language", .str "python")]

/-- The answer of a chat model to a free question. None is asked. -/
def chatPlaceholder : String :=
  "LLM response placeholder"

end VoiceDebugger
