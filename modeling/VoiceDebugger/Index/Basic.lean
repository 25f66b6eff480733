import VoiceDebugger.Json.Loose
import VoiceDebugger.Symbol.Extract
import VoiceDebugger.Timestamp
import VoiceDebugger.Workspace.Path

/-!
An index of the symbols of a workspace.

What is read back from a saved index is not checked, so records and the table of files are loose
values.
-/

namespace VoiceDebugger

/-- A symbol as it is kept in an index. -/
structure Record where
  name : Json
  kind : Json
  file : Json
  line : Json
  column : Json := .int 0
  endLine : Json := .null
  scope : Json := .null
  language : Json := .str "python"
  signature : Json := .null
  documentation : Json := .null
  deriving Repr

def Symbol.record (s : Symbol) : Record where
  name := .str s.name
  kind := .str s.kind.word
  file := .str s.file
  line := .int s.line
  column := .int s.column
  endLine := Json.ofNat? s.endLine
  signature := Json.ofString? s.signature
  documentation := Json.ofString? s.documentation

def Record.toJson (r : Record) : Json :=
  .obj [
    ("name", r.name),
    ("kind", r.kind),
    ("file", r.file),
    ("line", r.line),
    ("column", r.column),
    ("end_line", r.endLine),
    ("scope", r.scope),
    ("language", r.language),
    ("signature", r.signature),
    ("docstring", r.documentation)]

def Record.fieldNames : List CodeText :=
  ["name", "kind", "file", "line", "column", "end_line", "scope", "language", "signature",
    "docstring"]

/-- The record of a value. The first four fields have to be there, and no others than the known ones
may be. -/
def Record.ofJson? : Json → Option Record
  | .obj fields =>
    if fields.all fun f => Record.fieldNames.contains f.1 then do
      let get (name : CodeText) (default : Json) : Json := (Json.field? name fields).getD default
      let name ← Json.field? "name" fields
      let kind ← Json.field? "kind" fields
      let file ← Json.field? "file" fields
      let line ← Json.field? "line" fields
      return ⟨name, kind, file, line, get "column" (.int 0), get "end_line" .null, get "scope" .null,
        get "language" (.str "python"), get "signature" .null, get "docstring" .null⟩
    else none
  | _ => none

/-- Where a symbol is referred to. -/
structure Reference where
  symbol : Json
  file : Json
  line : Json
  column : Json
  kind : Json
  context : Json
  deriving Repr

def Reference.toJson (r : Reference) : Json :=
  .obj [
    ("symbol", r.symbol),
    ("file", r.file),
    ("line", r.line),
    ("column", r.column),
    ("ref_type", r.kind),
    ("context", r.context)]

def Reference.needed : List String :=
  ["symbol", "file", "line", "column", "ref_type"]

def Reference.ofFields (fields : List (CodeText × Json)) : Except LooseFault Reference :=
  let callee := "Reference.__init__()"
  let known := ("context" :: Reference.needed).map CodeText.ofString
  match fields.find? fun f => !known.contains f.1 with
  | some (name, _) => .error (.unexpectedArgument callee name.shown)
  | none =>
    let missing := Reference.needed.filter fun (n : String) => (Json.field? n fields).isNone
    if !missing.isEmpty then .error (.missingArguments callee missing)
    else
      let get (name : CodeText) : Json := (Json.field? name fields).getD .null
      .ok ⟨get "symbol", get "file", get "line", get "column", get "ref_type", get "context"⟩

/-- An index of the folder at a path: records by name in the order in which names came, the digests
of files, references by name, and when it was built. -/
structure Index where
  base : String
  symbols : List (CodeText × List Record) := []
  files : Json := .obj []
  references : List (CodeText × List Reference) := []
  builtAt : Option Timestamp := none

def Index.empty (path : String) : Index :=
  { base := tidyPath path }

/-- Add to the list of a name; a new name goes to the end. -/
def addUnder {α : Type} (name : CodeText) (a : α) :
    List (CodeText × List α) → List (CodeText × List α)
  | [] => [(name, [a])]
  | (key, as) :: rest =>
    if key == name then (key, as ++ [a]) :: rest else (key, as) :: addUnder name a rest

/-- Set the list of a name; a new name goes to the end. -/
def setUnder {α : Type} (name : CodeText) (as : List α) :
    List (CodeText × List α) → List (CodeText × List α)
  | [] => [(name, as)]
  | (key, old) :: rest =>
    if key == name then (key, as) :: rest else (key, old) :: setUnder name as rest

def listUnder {α : Type} (name : CodeText) : List (CodeText × List α) → List α
  | [] => []
  | (key, as) :: rest => if key == name then as else listUnder name rest

namespace Index

def fileName : String := ".echodebug_index.json"

def savedAt (i : Index) : String :=
  joinPath i.base fileName

def ignores (path : String) : Bool :=
  holdsAny (ignoredNames ++ [fileName]) path

def add (i : Index) (s : Symbol) : Index :=
  { i with symbols := addUnder s.name s.record i.symbols }

/-- Keep a reference. The list of its name is made first. -/
def addReference (i : Index) (name : CodeText) (fields : List (CodeText × Json)) :
    Index × Except LooseFault Unit :=
  let known := i.references.any (·.1 == name)
  let i := if known then i else { i with references := setUnder name [] i.references }
  match Reference.ofFields fields with
  | .ok r => ({ i with references := addUnder name r i.references }, .ok ())
  | .error e => (i, .error e)

def referencesOf (i : Index) (name : CodeText) : List Reference :=
  listUnder name i.references

def records (i : Index) : List Record :=
  i.symbols.flatMap (·.2)

def inFile (i : Index) (file : Json) : List Record :=
  i.records.filter fun r => r.file.same file

/-- How many names have records, and how many records there are. -/
def counts (i : Index) : Nat × Nat :=
  (i.symbols.length, i.records.length)

end Index

end VoiceDebugger
