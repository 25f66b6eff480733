import VoiceDebugger.Json.Display

/-!
Using values whose shape nobody has checked: what can be looped over, looked up, counted, and what
goes wrong otherwise.
-/

namespace VoiceDebugger

/-- Why a value cannot be used in some way. Kinds are named by `Json.kindName`. -/
inductive LooseFault where
  | noMember (kind member : String)
  | notIterable (kind : String)
  | notContainer (kind : String)
  | notSubscriptable (kind : String)
  | listIndex (kind : String)
  | textIndex (kind : String)
  | badOperands (op left right : String)
  | notOrdered (op left right : String)
  | notSliceable
  | unhashable (kind : String)
  | noLength (kind : String)
  | noItemAssignment (kind : String)
  | missingKey (key : String)
  | indexRange
  | notMapping (callee kind : String)
  | unjoinable
  | unjoinableItem (index : Nat) (kind : String)
  | noElement (index : Nat)
  | noPair (index length : Nat)
  | unexpectedArgument (callee argument : String)
  | missingArguments (callee : String) (names : List String)
  | notReadable (kind : String)
  | badPath (kind : String)
  | other (message : String)
  deriving Repr, BEq

/-- Names in quotes, the last one set off by a word. -/
def listedNames : List String → String
  | [] => ""
  | [a] => Text.quoted a
  | [a, b] => Text.quoted a ++ " and " ++ Text.quoted b
  | names =>
    let shown := names.map Text.quoted
    ", ".intercalate shown.dropLast ++ ", and " ++ shown.getLast?.getD ""

def LooseFault.message : LooseFault → String
  | .noMember kind member => s!"'{kind}' object has no attribute '{member}'"
  | .notIterable kind => s!"'{kind}' object is not iterable"
  | .notContainer kind => s!"argument of type '{kind}' is not iterable"
  | .notSubscriptable kind => s!"'{kind}' object is not subscriptable"
  | .listIndex kind => s!"list indices must be integers or slices, not {kind}"
  | .textIndex kind => s!"string indices must be integers, not '{kind}'"
  | .badOperands op left right =>
    s!"unsupported operand type(s) for {op}: '{left}' and '{right}'"
  | .notOrdered op left right =>
    s!"'{op}' not supported between instances of '{left}' and '{right}'"
  | .notSliceable => "slice indices must be integers or None or have an __index__ method"
  | .unhashable kind => s!"unhashable type: '{kind}'"
  | .noLength kind => s!"object of type '{kind}' has no len()"
  | .noItemAssignment kind => s!"'{kind}' object does not support item assignment"
  | .missingKey key => Text.quoted key
  | .indexRange => "list index out of range"
  | .notMapping callee kind => s!"{callee} argument after ** must be a mapping, not {kind}"
  | .unjoinable => "can only join an iterable"
  | .unjoinableItem index kind => s!"sequence item {index}: expected str instance, {kind} found"
  | .noElement index => s!"cannot convert dictionary update sequence element #{index} to a sequence"
  | .noPair index length =>
    s!"dictionary update sequence element #{index} has length {length}; 2 is required"
  | .unexpectedArgument callee argument =>
    s!"{callee} got an unexpected keyword argument {Text.quoted argument}"
  | .missingArguments callee names =>
    let plural := if names.length == 1 then "" else "s"
    s!"{callee} missing {names.length} required positional argument{plural}: {listedNames names}"
  | .notReadable kind => s!"the JSON object must be str, bytes or bytearray, not {kind}"
  | .badPath kind => s!"stat: path should be string, bytes, os.PathLike or integer, not {kind}"
  | .other message => message

namespace Json

def charsOf (t : CodeText) : List Json :=
  t.codes.map fun p => .str ⟨[p]⟩

/-- What a loop over a value meets: items, characters or field names. -/
def iterate : Json → Except LooseFault (List Json)
  | .arr items => .ok items
  | .str s => .ok (charsOf s)
  | .obj fields => .ok (fields.map fun f => .str f.1)
  | v => .error (.notIterable v.kindName)

/-- The field of a name in a value that should be an object, with a default. -/
def getOr (v : Json) (name : CodeText) (default : Json) : Except LooseFault Json :=
  match v with
  | .obj fields => .ok ((field? name fields).getD default)
  | _ => .error (.noMember v.kindName "get")

/-- How many parts a value has. -/
def length : Json → Except LooseFault Nat
  | .arr items => .ok items.length
  | .str s => .ok s.length
  | .obj fields => .ok fields.length
  | v => .error (.noLength v.kindName)

/-- The number that a value is, if it is one; truth values count. -/
def integer? : Json → Option Int
  | .bool b => some (if b then 1 else 0)
  | .int n => some n
  | _ => none

/-- The double that a value is, if it is a number in the range of doubles. -/
def double? : Json → Option Float
  | .float x => some x
  | v => v.integer?.bind Number.ofInt?

/-- Whether a number is an integer in value. -/
def floatIs (x : Float) (n : Int) : Bool :=
  match Number.parts x with
  | .finite negative mantissa exponent =>
    Number.truncate negative mantissa exponent == n &&
      (exponent ≥ 0 || mantissa % Nat.pow 2 (-exponent).toNat == 0)
  | _ => false

mutual

/-- Whether two values are equal: numbers by value, objects without regard to order. -/
def same : Json → Json → Bool
  | .null, .null => true
  | .str a, .str b => a == b
  | .arr a, .arr b => sameItems a b
  | .obj a, .obj b => a.length == b.length && sameFields a b
  | .float a, .float b => a == b
  | .float a, b => (integer? b).any (floatIs a)
  | a, .float b => (integer? a).any (floatIs b)
  | a, b =>
    match integer? a, integer? b with
    | some m, some n => m == n
    | _, _ => false

def sameItems : List Json → List Json → Bool
  | [], [] => true
  | a :: as, b :: bs => same a b && sameItems as bs
  | _, _ => false

/-- Whether every field of one object has an equal one in another. -/
def sameFields : List (CodeText × Json) → List (CodeText × Json) → Bool
  | [], _ => true
  | (name, value) :: rest, fields =>
    (match field? name fields with
    | some other => same value other
    | none => false) && sameFields rest fields

end

/-- A number as the value it is. -/
def ofNat? : Option Nat → Json
  | some n => .int n
  | none => .null

end Json

end VoiceDebugger
