/-!
Files and folders.

The entries of a folder stand in the order in which it lists them, which may be any.
-/

namespace VoiceDebugger

/-- A file with its bytes, or a folder. -/
inductive Entry where
  | file (content : List UInt8)
  | folder (entries : List (String × Entry))

/-- The entries of a folder. -/
abbrev Folder := List (String × Entry)

namespace Folder

def find? (name : String) : Folder → Option Entry
  | [] => none
  | (key, e) :: rest => if key == name then some e else find? name rest

/-- Set the entry of a name. A new name goes before the first greater one, so that a listing by name
stays one. -/
def set (name : String) (e : Entry) : Folder → Folder
  | [] => [(name, e)]
  | (key, old) :: rest =>
    if key == name then (key, e) :: rest
    else if name < key && (find? name rest).isNone then (name, e) :: (key, old) :: rest
    else (key, old) :: set name e rest

def erase (name : String) (f : Folder) : Folder :=
  f.filter fun p => p.1 != name

/-- The folder of a name, which is empty if there is none. -/
def sub (name : String) (f : Folder) : Folder :=
  match f.find? name with
  | some (.folder es) => es
  | _ => []

/-- Put an entry at a path; folders on the way are made. -/
def put (e : Entry) : List String → Folder → Folder
  | [], f => f
  | [name], f => f.set name e
  | name :: rest, f => f.set name (.folder (put e rest (f.sub name)))

/-- Make a folder at a path, unless it is there. -/
def make : List String → Folder → Folder
  | [], f => f
  | name :: rest, f => f.set name (.folder (make rest (f.sub name)))

def remove : List String → Folder → Folder
  | [], f => f
  | [name], f => f.erase name
  | name :: rest, f =>
    match f.find? name with
    | some (.folder es) => f.set name (.folder (remove rest es))
    | _ => f

end Folder

/-! ### Walking -/

/-- The entries of a folder whose names pass a test, with their paths. -/
def ownMatches (test : String → Bool) (path : List String) (f : Folder) :
    List (List String × Entry) :=
  (f.filter fun p => test p.1).map fun p => (path ++ [p.1], p.2)

mutual

/-- The entries below an entry whose names pass a test: those of a folder itself come first, then
those of the folders inside it. -/
def Entry.matchesBelow (test : String → Bool) (path : List String) :
    Entry → List (List String × Entry)
  | .file _ => []
  | .folder es => ownMatches test path es ++ innerMatches test path es

/-- The entries inside the folders of a folder. -/
def innerMatches (test : String → Bool) (path : List String) :
    List (String × Entry) → List (List String × Entry)
  | [] => []
  | (name, e) :: rest =>
    Entry.matchesBelow test (path ++ [name]) e ++ innerMatches test path rest

end

/-- The entries below a folder whose names pass a test, with their paths from there. -/
def Folder.walk (test : String → Bool) (f : Folder) : List (List String × Entry) :=
  Entry.matchesBelow test [] (.folder f)

end VoiceDebugger
