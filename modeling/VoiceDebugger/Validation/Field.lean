import VoiceDebugger.Failure
import VoiceDebugger.Text.Lower

/-!
Checking the fields of loose values.

All fields of a value are looked at, and their faults are reported together in order. Numbers and
truth values may be written as text, and texts may be given as numbers.
-/

namespace VoiceDebugger

/-- The outcome of a check: a value, or the faults that were found, or something that ends all
checking. -/
inductive Checked (α : Type) where
  | good (value : α)
  | bad (faults : List FieldFault)
  | stop (failure : Failure)

/-- A check of a value at a location. -/
abbrev Check (α : Type) := List String → Json → Checked α

namespace Checked

def fault {α : Type} (location : List String) (message kind : String)
    (context : List (String × String)) : Checked α :=
  .bad [⟨location, message, kind, context⟩]

/-- Two outcomes together; the faults of both are kept. -/
def both {α β : Type} : Checked α → Checked β → Checked (α × β)
  | .stop e, _ => .stop e
  | _, .stop e => .stop e
  | .good x, .good y => .good (x, y)
  | .bad f, .good _ => .bad f
  | .good _, .bad g => .bad g
  | .bad f, .bad g => .bad (f ++ g)

def andThen {α β : Type} (a : Checked α) (f : α → Checked β) : Checked β :=
  match a with
  | .good x => f x
  | .bad faults => .bad faults
  | .stop e => .stop e

def map {α β : Type} (f : α → β) (a : Checked α) : Checked β :=
  a.andThen fun x => .good (f x)

def all {α : Type} : List (Checked α) → Checked (List α)
  | [] => .good []
  | a :: rest => (both a (all rest)).map fun (x, xs) => x :: xs

/-- The value of a model, or the failure that lists its faults. -/
def finish {α : Type} (model : String) : Checked α → Except Failure α
  | .good x => .ok x
  | .bad faults => .error (.invalid model faults)
  | .stop e => .error e

end Checked

namespace Check

open Checked

/-- A value that is absent where one is needed. -/
def notNull {α : Type} (check : Check α) : Check α := fun location v =>
  match v with
  | .null => fault location "none is not an allowed value" "type_error.none.not_allowed" []
  | _ => check location v

def orNull {α : Type} (check : Check α) : Check (Option α) := fun location v =>
  match v with
  | .null => .good none
  | _ => (check location v).map some

/-- A text; a number or truth value counts as the text that shows it. -/
def text : Check CodeText := fun location v =>
  match v with
  | .str s => .good s
  | .int _ | .float _ | .bool _ => .good v.display
  | _ => fault location "str type expected" "type_error.str" []

def double : Check Float := fun location v =>
  let refuse := fault location "value is not a valid float" "type_error.float" []
  match v with
  | .float x => .good x
  | .str s =>
    match Number.readFloat? s.shown with
    | some x => .good x
    | none => refuse
  | .bool _ | .int _ =>
    match v.double? with
    | some x => .good x
    | none => .stop .largeNumber
  | _ => refuse

/-- An integer; a double is cut. -/
def integer : Check Int := fun location v =>
  let refuse := fault location "value is not a valid integer" "type_error.integer" []
  match v with
  | .int n => .good n
  | .bool b => .good (if b then 1 else 0)
  | .float x =>
    match Number.parts x with
    | .nan => refuse
    | .infinite _ => .stop .infiniteNumber
    | .finite negative mantissa exponent => .good (Number.truncate negative mantissa exponent)
  | .str s =>
    match Number.readInt s.shown with
    | .ok n => .good n
    | .error _ => refuse
  | _ => refuse

def yesWords : List String := ["1", "on", "t", "true", "y", "yes"]

def noWords : List String := ["0", "off", "f", "false", "n", "no"]

def boolean : Check Bool := fun location v =>
  let refuse := fault location "value could not be parsed to a boolean" "type_error.bool" []
  match v with
  | .bool b => .good b
  | .str s =>
    let w := Text.lower s.shown
    if yesWords.contains w then .good true else if noWords.contains w then .good false else refuse
  | .int _ | .float _ =>
    if v.same (.int 1) then .good true else if v.same (.int 0) then .good false else refuse
  | _ => refuse

/-- A double between two limits, ends included. -/
def between (low high : Float) : Check Float := fun location v =>
  (double location v).andThen fun x =>
    let limit (l : Float) := [("limit_value", Number.text l)]
    if !(x ≥ low) then
      fault location s!"ensure this value is greater than or equal to {Number.text low}"
        "value_error.number.not_ge" (limit low)
    else if !(x ≤ high) then
      fault location s!"ensure this value is less than or equal to {Number.text high}"
        "value_error.number.not_le" (limit high)
    else .good x

/-- A word of an enumeration, given by its title, and the words of its members with their labels. -/
def member {α : Type} (title : String) (members : List (String × String × α)) : Check α :=
  fun location v =>
    let found : Option (String × String × α) :=
      match v with
      | .str s => members.find? fun m => CodeText.ofString m.1 == s
      | _ => none
    match found with
    | some (_, _, a) => .good a
    | none =>
      let permitted := ", ".intercalate (members.map fun (word, _, _) => Text.quoted word)
      let shown := ", ".intercalate (members.map fun (word, label, _) =>
        s!"<{title}.{label}: {Text.quoted word}>")
      fault location s!"value is not a valid enumeration member; permitted: {permitted}"
        "type_error.enum" [("enum_values", s!"[{shown}]")]

/-! ### Mappings and lists -/

/-- The pair that a value is: a list of two, a text of two characters, or an object of two fields,
of which the names count. -/
def pairOf? (v : Json) : Option (Json × Json) :=
  match v.iterate with
  | .ok [a, b] => some (a, b)
  | _ => none

def isKey : Json → Bool
  | .arr _ => false
  | .obj _ => false
  | _ => true

/-- Set the value of a key; a known key stays and keeps its place. -/
def setKey (key value : Json) : List (Json × Json) → List (Json × Json)
  | [] => [(key, value)]
  | (k, old) :: rest =>
    if k.same key then (k, value) :: rest else (k, old) :: setKey key value rest

def entriesOf? : List Json → List (Json × Json) → Option (List (Json × Json))
  | [], found => some found
  | v :: rest, found =>
    match pairOf? v with
    | some (key, value) => if isKey key then entriesOf? rest (setKey key value found) else none
    | none => none

/-- The entries of a value that is an object or a list of pairs. -/
def mapping? : Json → Option (List (Json × Json))
  | .obj fields => some (fields.map fun (k, v) => (.str k, v))
  | .arr items => entriesOf? items []
  | .str s => if s.isEmpty then some [] else none
  | _ => none

def noMapping {α : Type} (location : List String) : Checked α :=
  fault location "value is not a valid dict" "type_error.dict" []

def mappingOf {α : Type} (check : Check α) : Check (List (CodeText × α)) := fun location v =>
  match mapping? v with
  | none => noMapping location
  | some entries =>
    Checked.all (entries.map fun (k, v) =>
      (notNull text (location ++ ["__key__"]) k).andThen fun key =>
        (check (location ++ [k.display]) v).map fun a => (key, a))

def anything : Check Json := fun _ v => .good v

def listOf {α : Type} (check : Check α) : Check (List α) := fun location v =>
  match v with
  | .arr items =>
    Checked.all ((items.zip (List.range items.length)).map fun (v, i) =>
      check (location ++ [toString i]) v)
  | _ => fault location "value is not a valid list" "type_error.list" []

/-! ### Fields -/

def required {α : Type} (name : String) (check : Check α) (location : List String)
    (fields : List (CodeText × Json)) : Checked α :=
  match Json.field? name fields with
  | some v => check (location ++ [name]) v
  | none => fault (location ++ [name]) "field required" "value_error.missing" []

def withDefault {α : Type} (name : String) (default : α) (check : Check α)
    (location : List String) (fields : List (CodeText × Json)) : Checked α :=
  match Json.field? name fields with
  | some v => check (location ++ [name]) v
  | none => .good default

def optional {α : Type} (name : String) (check : Check α) (location : List String)
    (fields : List (CodeText × Json)) : Checked (Option α) :=
  withDefault name none (orNull check) location fields

end Check

end VoiceDebugger
