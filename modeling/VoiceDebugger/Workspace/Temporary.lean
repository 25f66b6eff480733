import VoiceDebugger.Number.Text
import VoiceDebugger.Workspace.Path

/-!
Temporary files.

They lie outside the workspace. The part of a name that is made up is a number here, and no two
files have the same.
-/

namespace VoiceDebugger

/-- A file that is needed for a while. -/
structure TemporaryFile where
  number : Nat
  ending : String
  content : List UInt8
  deriving Repr

/-- How many characters of the name of a temporary file are made up. -/
def madeUpChars : Nat := 8

namespace TemporaryFile

def name (f : TemporaryFile) : String :=
  "tmp" ++ String.ofList (Number.padded madeUpChars f.number) ++ f.ending

def path (f : TemporaryFile) : String :=
  "/tmp/" ++ f.name

/-- Why a file cannot be made: by its ending, the name is no text, too long or in a folder that is
not there. -/
def fault? (f : TemporaryFile) : Option FileFault :=
  let front := ((Text.splitOn '/' f.ending).head?.getD "")
  if f.ending.toList.contains '\x00' then some .nullCharacter
  else if "tmp".length + madeUpChars + (Text.encode front).length > maxNameBytes then
    some (.tooLong f.path)
  else if f.ending.toList.contains '/' then some (.missing f.path)
  else none

end TemporaryFile

def freeNumber (files : List TemporaryFile) : Nat :=
  files.foldr (fun f n => max (f.number + 1) n) 0

end VoiceDebugger
