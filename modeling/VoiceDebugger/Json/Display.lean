import VoiceDebugger.Json.Basic
import VoiceDebugger.Number.Text

/-!
The text that stands for a value inside a message: texts inside lists and objects are quoted, a text
on its own is not.
-/

namespace VoiceDebugger.Json

/-- An integer in decimal digits. -/
def intText (n : Int) : String :=
  Number.signed (n < 0) (Number.digitChars n.natAbs)

mutual

/-- The text of a value inside another one. -/
def inner : Json → String
  | .null => "None"
  | .bool true => "True"
  | .bool false => "False"
  | .int n => intText n
  | .float x => Number.text x
  | .str s => s.quoted
  | .arr items => "[" ++ ", ".intercalate (innerItems items) ++ "]"
  | .obj fields => "\x7b" ++ ", ".intercalate (innerFields fields) ++ "\x7d"

def innerItems : List Json → List String
  | [] => []
  | v :: rest => inner v :: innerItems rest

def innerFields : List (CodeText × Json) → List String
  | [] => []
  | (name, v) :: rest => (name.quoted ++ ": " ++ inner v) :: innerFields rest

end

/-- The text of a value in a message. -/
def display : Json → String
  | .str s => s.shown
  | v => inner v

end VoiceDebugger.Json
