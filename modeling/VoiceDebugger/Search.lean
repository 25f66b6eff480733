import VoiceDebugger.Index.Build
import VoiceDebugger.Text.Blank
import VoiceDebugger.Text.Lower

/-!
Searching the files of a workspace: for a text in their lines, and for the definitions of a name.

Whether a file is left out is decided by its path from the root of all files, so where the workspace
is counts too. Hits name files by their paths in the workspace.
-/

namespace VoiceDebugger

/-! ### Lines -/

/-- A line in which a text was found, with the lines around it. -/
structure LineHit where
  file : String
  line : Nat
  preview : String
  context : List String
  deriving Repr, BEq, DecidableEq

def LineHit.toJson (h : LineHit) : Json :=
  .obj [
    ("file", .str h.file),
    ("line", .int h.line),
    ("preview", .str h.preview),
    ("context", .arr (h.context.map fun (line : String) => .str line))]

/-- The part of a list from one place to another. A place below zero counts from the end, and places
outside the list are cut to it. -/
def slice {α : Type} (as : List α) (start stop : Int) : List α :=
  let place (i : Int) : Nat := (if i < 0 then i + as.length else i).toNat
  (as.take (place stop)).drop (place start)

/-- The lines around a line, with a number of lines on each side, without blanks at their ends. -/
def surrounding (lines : List (List Char)) (line size : Int) : List String :=
  let start := max 0 (line - size - 1)
  let stop := min (lines.length : Int) (line + size)
  (slice lines start stop).map fun l => String.ofList (Text.trim l)

/-- How many lines a hit shows on each side. -/
def hitMargin : Int := 2

/-- How many hits a search returns. -/
def hitLimit : Nat := 50

/-- How the names of the files of a language end; for an unknown one, all names with a dot count. -/
def suffixOf? (language : String) : Option String :=
  match language with
  | "python" => some ".py"
  | "javascript" => some ".js"
  | "typescript" => some ".ts"
  | "java" => some ".java"
  | _ => none

/-- The ending for a language that may be any value. -/
def suffixFor : Json → Except LooseFault (Option String)
  | .str language => .ok (suffixOf? language.shown)
  | .arr items => .error (.unhashable (Json.arr items).kindName)
  | .obj fields => .error (.unhashable (Json.obj fields).kindName)
  | _ => .ok none

def isSearched (suffix : Option String) (name : String) : Bool :=
  match suffix with
  | some suffix => suffix.toList.isSuffixOf name.toList
  | none => name.toList.contains '.'

/-- Whether a line holds a text, case left aside. -/
def lineHolds (query : CodeText) (line : List Char) : Bool :=
  Text.occursIn query.lower.codes ((Text.lowerFrom [] line).map Code.ofChar)

def hitsIn (query : CodeText) (file : String) (lines : List (List Char)) : List LineHit :=
  (lines.zip (List.range lines.length)).filterMap fun (line, i) =>
    if lineHolds query line then
      some ⟨file, i + 1, String.ofList (Text.trim line), surrounding lines (i + 1) hitMargin⟩
    else none

/-- The hits in a file; one that is no text has none. -/
def hitsInFile (location : String) (query : CodeText) (found : List String × Entry) :
    List LineHit :=
  let file := "/".intercalate found.1
  if isIgnored (joinPath location file) then []
  else
    match found.2 with
    | .folder _ => []
    | .file content =>
      match textOf content with
      | .error _ => []
      | .ok text => hitsIn query file (linesOf text)

/-- The first lines of a workspace that hold a text. -/
def searchLines (location : String) (root : Folder) (query : CodeText) (suffix : Option String) :
    List LineHit :=
  ((root.walk (isSearched suffix)).flatMap (hitsInFile location query)).take hitLimit

/-! ### Definitions -/

/-- A place where a name is defined. -/
structure DefinitionHit where
  file : String
  line : Nat
  kind : String
  preview : String
  deriving Repr, BEq, DecidableEq

def DefinitionHit.toJson (h : DefinitionHit) : Json :=
  .obj [
    ("file", .str h.file),
    ("line", .int h.line),
    ("kind", .str h.kind),
    ("preview", .str h.preview)]

/-- Where a statement itself defines a name: functions that are not asynchronous, classes, and
assignments, once for each target. -/
def definitionsOf (name file : String) (s : Source.Stmt) : List DefinitionHit :=
  let at_ (kind preview : String) : DefinitionHit := ⟨file, s.span.line, kind, preview⟩
  match s.form with
  | .functionDef false n _ _ _ _ => if n == name then [at_ "function" s!"def {n}(...)"] else []
  | .classDef n _ _ _ _ => if n == name then [at_ "class" s!"class {n}"] else []
  | .assign targets _ =>
    targets.filterMap fun t =>
      match t.form with
      | .name id => if id == name then some (at_ "assignment" s!"{name} = ...") else none
      | _ => none
  | _ => []

def definitionsInFile (location name : String) (found : List String × Entry) :
    List DefinitionHit :=
  let file := "/".intercalate found.1
  if isIgnored (joinPath location file) then []
  else
    match found.2 with
    | .folder _ => []
    | .file content =>
      match treeOfFile content with
      | none => []
      | some body => (Source.walkThrough body).flatMap (definitionsOf name file)

def searchDefinitions (location : String) (root : Folder) (name : String) : List DefinitionHit :=
  (root.walk isSourceName).flatMap (definitionsInFile location name)

end VoiceDebugger
