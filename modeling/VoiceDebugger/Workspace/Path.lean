import VoiceDebugger.Text.Lines
import VoiceDebugger.Text.Quoted
import VoiceDebugger.Text.Utf8
import VoiceDebugger.Workspace.Folder

/-!
Paths: how they are written, and what they lead to.

The workspace is the current folder. Nothing outside it can be reached.
-/

namespace VoiceDebugger

/-- Why a path leads to no file. -/
inductive FileFault where
  | missing (path : String)
  | isFolder (path : String)
  | notFolder (path : String)
  | tooLong (path : String)
  | nullCharacter
  deriving Repr, BEq

def FileFault.message : FileFault → String
  | .missing path => s!"[Errno 2] No such file or directory: {Text.quoted path}"
  | .isFolder path => s!"[Errno 21] Is a directory: {Text.quoted path}"
  | .notFolder path => s!"[Errno 20] Not a directory: {Text.quoted path}"
  | .tooLong path => s!"[Errno 36] File name too long: {Text.quoted path}"
  | .nullCharacter => "embedded null byte"

def maxNameBytes : Nat := 255

/-- Follow the parts of a path from a folder; `above` are the folders it lies in, the nearest
first. -/
def follow (path : String) (above : List Folder) : Entry → List String → Except FileFault Entry
  | e, [] => .ok e
  | .file _, _ :: _ => .error (.notFolder path)
  | .folder f, part :: rest =>
    if part == "" || part == "." then follow path above (.folder f) rest
    else if part == ".." then
      match above with
      | g :: above => follow path above (.folder g) rest
      | [] => follow path [] (.folder []) rest
    else if (Text.encode part).length > maxNameBytes then .error (.tooLong path)
    else
      match Folder.find? part f with
      | some e => follow path (f :: above) e rest
      | none => .error (.missing path)

def resolve (root : Folder) (path : String) : Except FileFault Entry :=
  if path.toList.contains '\x00' then .error .nullCharacter
  else if path.isEmpty || path.toList.head? == some '/' then .error (.missing path)
  else follow path [] (.folder root) (Text.splitOn '/' path)

def pathExists (root : Folder) (path : String) : Bool :=
  match resolve root path with
  | .ok _ => true
  | .error _ => false

def readBytes (root : Folder) (path : String) : Except FileFault (List UInt8) :=
  match resolve root path with
  | .ok (.file content) => .ok content
  | .ok (.folder _) => .error (.isFolder path)
  | .error e => .error e

/-- The entries of the folder that a path leads to; there are none if it leads to no folder. -/
def listFolder (root : Folder) (path : String) : Folder :=
  match resolve root path with
  | .ok (.folder f) => f
  | _ => []

/-- The parts of a path without empty ones and dots. -/
def plainParts (path : String) : List String :=
  (Text.splitOn '/' path).filter fun p => p != "" && p != "."

/-- A path in its shortest form with the same meaning part by part. -/
def tidyPath (path : String) : String :=
  let slash := if path.toList.head? == some '/' then "/" else ""
  let parts := plainParts path
  if parts.isEmpty && slash.isEmpty then "." else slash ++ "/".intercalate parts

def joinPath (base path : String) : String :=
  if base == "." then path else if base == "/" then base ++ path else base ++ "/" ++ path

/-- The parts of the place that a path names, with the steps up taken. -/
def placeOf (path : String) : List String :=
  (plainParts path).foldl (fun parts p => if p == ".." then parts.dropLast else parts ++ [p]) []

/-- Whether the steps up among parts lead out of the workspace from some depth in it. -/
def leadsOut : Nat → List String → Bool
  | _, [] => false
  | depth, p :: rest =>
    if p == ".." then
      match depth with
      | 0 => true
      | depth + 1 => leadsOut depth rest
    else leadsOut (depth + 1) rest

/-- Write a file. The folder around it has to be there. -/
def writeFile (root : Folder) (path : String) (content : List UInt8) : Except FileFault Folder :=
  match resolve root path with
  | .ok (.folder _) => .error (.isFolder path)
  | .ok (.file _) => .ok (root.put (.file content) (placeOf path))
  | .error (.missing _) =>
    let parts := Text.splitOn '/' path
    match follow path [] (.folder root) parts.dropLast with
    | .ok (.folder _) =>
      if parts.getLast? == some "" || path.toList.head? == some '/' ||
          leadsOut 0 (plainParts path) then .error (.missing path)
      else .ok (root.put (.file content) (placeOf path))
    | .ok (.file _) => .error (.notFolder path)
    | .error e => .error e
  | .error e => .error e

def removeFile (root : Folder) (path : String) : Except FileFault Folder :=
  match resolve root path with
  | .ok (.folder _) => .error (.isFolder path)
  | .ok (.file _) => .ok (root.remove (placeOf path))
  | .error e => .error e

/-! ### Ignored paths -/

/-- Whether a path holds one of some names, anywhere. -/
def holdsAny (names : List String) (path : String) : Bool :=
  names.any fun n => Text.contains path n

/-- The names of folders that hold no source. -/
def ignoredNames : List String :=
  [".git", "__pycache__", "node_modules", ".venv", "venv", "dist", "build", ".pytest_cache",
    ".mypy_cache"]

/-- Whether a search leaves a path out. -/
def isIgnored (path : String) : Bool :=
  holdsAny ignoredNames path

end VoiceDebugger
