import VoiceDebugger.Index.Build
import VoiceDebugger.Json.Printer
import VoiceDebugger.Json.Reader

/-!
Saving an index and reading it back.
-/

namespace VoiceDebugger.Index

def toJson (i : Index) : Json :=
  .obj [
    ("last_indexed", Json.ofString? (i.builtAt.map (·.text))),
    ("files", i.files),
    ("symbols", .obj (i.symbols.map fun (name, records) =>
      (name, .arr (records.map Record.toJson))))]

def savedBytes (i : Index) : List UInt8 :=
  Text.encode (i.toJson.indented 2 0)

/-- Save an index. A place that cannot be written to is left as it is. -/
def save (root : Folder) (i : Index) : Folder :=
  match writeFile root i.savedAt i.savedBytes with
  | .ok root => root
  | .error _ => root

def readSaved (root : Folder) (i : Index) : Option Json :=
  match readBytes root i.savedAt with
  | .error _ => none
  | .ok content =>
    match textOf content with
    | .error _ => none
    | .ok text =>
      match Json.parse text with
      | .ok v => some v
      | .error _ => none

def recordsOf? : List Json → Option (List Record)
  | [] => some []
  | v :: rest => do
    let r ← Record.ofJson? v
    let rs ← recordsOf? rest
    return r :: rs

/-- The records in a value, if they are all well formed. -/
def recordsIn? (v : Json) : Option (List Record) :=
  v.iterate.toOption.bind recordsOf?

/-- Take records over name by name, up to the first that are malformed; tell whether all were
taken. -/
def takeSymbols (i : Index) : List (CodeText × Json) → Bool × Index
  | [] => (true, i)
  | (name, v) :: rest =>
    match recordsIn? v with
    | none => (false, i)
    | some records => takeSymbols { i with symbols := setUnder name records i.symbols } rest

/-- The table of files in a saved object. -/
def filesIn (fields : List (CodeText × Json)) : Json :=
  (Json.field? "files" fields).getD (.obj [])

/-- The time in a saved object. A value that counts as a no is none; one that is no time gives
nothing. -/
def timeIn? (fields : List (CodeText × Json)) : Option (Option Timestamp) :=
  let time := (Json.field? "last_indexed" fields).getD .null
  if !time.truthy then some none
  else
    match time with
    | .str s => (Timestamp.read? s.shown).map some
    | _ => none

/-- The records by name in a saved object, if they are an object. -/
def groupsIn? (fields : List (CodeText × Json)) : Option (List (CodeText × Json)) :=
  match (Json.field? "symbols" fields).getD (.obj []) with
  | .obj groups => some groups
  | _ => none

/-- Take over what a value holds: files, then the time, then the symbols. What was taken before a
fault stays. -/
def takeOver (i : Index) (fields : List (CodeText × Json)) : Bool × Index :=
  let i := { i with files := filesIn fields }
  match timeIn? fields with
  | none => (false, i)
  | some builtAt =>
    let i := { i with builtAt := builtAt, symbols := [] }
    match groupsIn? fields with
    | some groups => takeSymbols i groups
    | none => (false, i)

/-- Read an index back; tell whether that worked. -/
def load (root : Folder) (i : Index) : Bool × Index :=
  match readSaved root i with
  | some (.obj fields) => i.takeOver fields
  | _ => (false, i)

/-- Bring an index up to date and save it. -/
def build (root : Folder) (now : Timestamp) (force : Bool) (i : Index) :
    BuildStats × Index × Folder :=
  let (stats, i) := i.update root now force
  (stats, i, i.save root)

end VoiceDebugger.Index
