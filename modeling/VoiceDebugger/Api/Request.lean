import VoiceDebugger.Validation.Field

/-!
The requests of the service, checked.
-/

namespace VoiceDebugger

open Check

def bodyFields (model : String) : Json → Except Failure (List (CodeText × Json))
  | .obj fields => .ok fields
  | v => .error (.loose (.notMapping s!"main.{model}()" v.kindName))

def textField (name : String) (fields : List (CodeText × Json)) : Checked CodeText :=
  required name (notNull text) [] fields

def textFieldOr (name default : String) (fields : List (CodeText × Json)) : Checked CodeText :=
  withDefault name default (notNull text) [] fields

/-- A request to write down a sound. -/
structure SpeechRequest where
  audio : CodeText
  format : CodeText

def SpeechRequest.ofJson (v : Json) : Except Failure SpeechRequest := do
  let fields ← bodyFields "STTRequest" v
  let checked := (textField "audio_data" fields).both (textFieldOr "format" "wav" fields)
  (checked.map fun (audio, format) => ⟨audio, format⟩).finish "STTRequest"

/-- A request to write down a sound file. -/
structure SpeechFileRequest where
  path : CodeText

def SpeechFileRequest.ofJson (v : Json) : Except Failure SpeechFileRequest := do
  let fields ← bodyFields "STTFileRequest" v
  ((textField "file_path" fields).map fun path => ⟨path⟩).finish "STTFileRequest"

/-- A sentence with its context. -/
structure IntentRequest where
  text : CodeText
  context : Option (List (CodeText × Json))

def IntentRequest.ofJson (v : Json) : Except Failure IntentRequest := do
  let fields ← bodyFields "IntentRequest" v
  let checked := (textField "text" fields).both
    (optional "context" (mappingOf anything) [] fields)
  (checked.map fun (text, context) => ⟨text, context⟩).finish "IntentRequest"

/-- Entries with each name once; a later entry wins and keeps the earlier place. -/
def distinctFields {α : Type} (toJson : α → Json) (entries : List (CodeText × α)) :
    List (CodeText × Json) :=
  entries.foldl (fun fields (name, a) => Json.setField name (toJson a) fields) []

def IntentRequest.contextValue (r : IntentRequest) : Json :=
  match r.context with
  | some entries => .obj (distinctFields id entries)
  | none => .null

structure SearchRequest where
  query : CodeText
  language : CodeText
  scope : CodeText

def SearchRequest.ofJson (v : Json) : Except Failure SearchRequest := do
  let fields ← bodyFields "SearchRequest" v
  let checked := (textField "query" fields).both
    ((textFieldOr "lang" "python" fields).both (textFieldOr "scope" "all" fields))
  (checked.map fun (query, language, scope) => ⟨query, language, scope⟩).finish "SearchRequest"

structure SymbolRequest where
  name : CodeText
  language : CodeText

def SymbolRequest.ofJson (v : Json) : Except Failure SymbolRequest := do
  let fields ← bodyFields "SymbolRequest" v
  let checked := (textField "name" fields).both (textFieldOr "lang" "python" fields)
  (checked.map fun (name, language) => ⟨name, language⟩).finish "SymbolRequest"

structure RunRequest where
  command : CodeText
  env : Option (List (CodeText × CodeText))
  timeout : Int

def RunRequest.ofJson (v : Json) : Except Failure RunRequest := do
  let fields ← bodyFields "RunRequest" v
  let checked := (textField "cmd" fields).both
    ((optional "env" (mappingOf (notNull text)) [] fields).both
      (withDefault "timeout" 20 (notNull integer) [] fields))
  (checked.map fun (command, env, timeout) => ⟨command, env, timeout⟩).finish "RunRequest"

def RunRequest.envValue (r : RunRequest) : Json :=
  match r.env with
  | some entries => .obj (distinctFields .str entries)
  | none => .null

structure TraceRequest where
  trace : CodeText
  snippets : Option (List CodeText)

def TraceRequest.ofJson (v : Json) : Except Failure TraceRequest := do
  let fields ← bodyFields "ExplainTraceRequest" v
  let checked := (textField "trace" fields).both
    (optional "snippets" (listOf (notNull text)) [] fields)
  (checked.map fun (trace, snippets) => ⟨trace, snippets⟩).finish "ExplainTraceRequest"

/-- A request to mend a file. -/
structure FixRequest where
  file : CodeText
  span : Option (List (CodeText × Int))
  goal : CodeText

def FixRequest.ofJson (v : Json) : Except Failure FixRequest := do
  let fields ← bodyFields "ProposeFixRequest" v
  let checked := (textField "file" fields).both
    ((optional "span" (mappingOf (notNull integer)) [] fields).both (textField "goal" fields))
  (checked.map fun (file, span, goal) => ⟨file, span, goal⟩).finish "ProposeFixRequest"

structure ApplyRequest where
  diff : CodeText

def ApplyRequest.ofJson (v : Json) : Except Failure ApplyRequest := do
  let fields ← bodyFields "ApplyFixRequest" v
  ((textField "diff" fields).map fun diff => ⟨diff⟩).finish "ApplyFixRequest"

end VoiceDebugger
