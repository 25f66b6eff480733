import VoiceDebugger.Digest
import VoiceDebugger.Index.Basic
import VoiceDebugger.Source.Module
import VoiceDebugger.Workspace.Content

/-!
Building an index from the files of a workspace.

A file whose digest is the same as last time is skipped. What was found before is kept; new symbols
are added behind it.
-/

namespace VoiceDebugger

structure BuildStats where
  filesIndexed : Nat := 0
  symbolsFound : Nat := 0
  filesSkipped : Nat := 0
  errors : Nat := 0
  deriving Repr, BEq, DecidableEq

/-- What a build did, as a value. It takes no time. -/
def BuildStats.toJson (s : BuildStats) : Json :=
  .obj [
    ("files_indexed", .int s.filesIndexed),
    ("symbols_found", .int s.symbolsFound),
    ("files_skipped", .int s.filesSkipped),
    ("errors", .int s.errors),
    ("duration_seconds", .float 0)]

/-- The tree of a file, if it is a module. -/
def treeOfFile (content : List UInt8) : Option (List Source.Stmt) :=
  match textOf content with
  | .error _ => none
  | .ok text =>
    match Source.treeOf text with
    | .error _ => none
    | .ok body => some body

/-- The symbols of a file; one that is no module has none. -/
def fileSymbols (file : String) (content : List UInt8) : List Symbol :=
  match treeOfFile content with
  | some body => symbolsOf file body
  | none => []

/-- Whether a name ends like that of a source file. -/
def isSourceName (name : String) : Bool :=
  ".py".toList.isSuffixOf name.toList

namespace Index

/-- Whether a file is known with a digest. The table of files may be of any shape; one that cannot
be asked gives nothing. -/
def knows? (files : Json) (file digest : String) : Option Bool :=
  match files with
  | .obj fields => some ((Json.field? file fields).any fun v => v.same (.str digest))
  | .arr items => if items.any fun v => v.same (.str file) then none else some false
  | .str s => if Text.contains s.shown file then none else some false
  | _ => none

/-- Note the digest of a file, if the table of files can hold it. -/
def noteFile? (i : Index) (file digest : String) : Option Index :=
  match i.files with
  | .obj fields => some { i with files := .obj (Json.setField file (.str digest) fields) }
  | _ => none

/-- Look at one file of the walk. -/
def visit (force : Bool) (state : BuildStats × Index) (found : List String × Entry) :
    BuildStats × Index :=
  let (stats, i) := state
  let file := "/".intercalate found.1
  let skipped : BuildStats := { stats with filesSkipped := stats.filesSkipped + 1 }
  let failed : BuildStats := { stats with errors := stats.errors + 1 }
  if ignores (joinPath i.base file) then (skipped, i)
  else
    match found.2 with
    | .folder _ => (failed, i)
    | .file content =>
      let digest := Digest.ofBytes content
      match if force then some false else knows? i.files file digest with
      | none => (failed, i)
      | some true => (skipped, i)
      | some false =>
        let new := fileSymbols file content
        let grown := new.foldl add i
        let count := stats.symbolsFound + new.length
        match grown.noteFile? file digest with
        | some noted =>
          ({ stats with filesIndexed := stats.filesIndexed + 1, symbolsFound := count }, noted)
        | none => ({ failed with symbolsFound := count }, grown)

/-- The files that a build looks at, in order. -/
def walk (root : Folder) (i : Index) : List (List String × Entry) :=
  (listFolder root i.base).walk isSourceName

def update (root : Folder) (now : Timestamp) (force : Bool) (i : Index) : BuildStats × Index :=
  let (stats, i) := (i.walk root).foldl (visit force) ({}, i)
  (stats, { i with builtAt := some now })

end Index

end VoiceDebugger
