import VoiceDebugger.Text.Code

/-!
Loose values: the data that requests, replies and saved files are made of.

An object keeps its fields in the order in which their names first came.
-/

namespace VoiceDebugger

/-- A loose value. Integers have any size; a float is a double. -/
inductive Json where
  | null
  | bool (value : Bool)
  | int (value : Int)
  | float (value : Float)
  | str (value : CodeText)
  | arr (items : List Json)
  | obj (fields : List (CodeText × Json))
  deriving Inhabited, Repr

namespace Json

/-- Set a field: a known name keeps its place, a new one goes to the end. -/
def setField (name : CodeText) (value : Json) : List (CodeText × Json) → List (CodeText × Json)
  | [] => [(name, value)]
  | (key, old) :: rest =>
    if key == name then (key, value) :: rest else (key, old) :: setField name value rest

def field? (name : CodeText) : List (CodeText × Json) → Option Json
  | [] => none
  | (key, value) :: rest => if key == name then some value else field? name rest

/-- The field of a name in an object; other values have no fields. -/
def get? (name : CodeText) : Json → Option Json
  | .obj fields => field? name fields
  | _ => none

/-- Whether a value counts as a yes: all but null, false, zero and the empty ones. -/
def truthy : Json → Bool
  | .null => false
  | .bool b => b
  | .int n => n != 0
  | .float x => x != 0
  | .str s => !s.isEmpty
  | .arr items => !items.isEmpty
  | .obj fields => !fields.isEmpty

/-- The name of a value's kind, as fault messages give it. -/
def kindName : Json → String
  | .null => "NoneType"
  | .bool _ => "bool"
  | .int _ => "int"
  | .float _ => "float"
  | .str _ => "str"
  | .arr _ => "list"
  | .obj _ => "dict"

def ofFields (fields : List (CodeText × Json)) : Json :=
  .obj fields

def ofString? : Option String → Json
  | some s => .str s
  | none => .null

def ofText? : Option CodeText → Json
  | some t => .str t
  | none => .null

end Json

end VoiceDebugger
