import VoiceDebugger.Intent.Kind
import VoiceDebugger.Validation.Field

/-!
Intents with what they are about, and their normal form as values.
-/

namespace VoiceDebugger

/-- What an intent is about. -/
structure Entities where
  file : Option CodeText := none
  symbol : Option CodeText := none
  language : Option Language := some .python
  scope : Option SymbolScope := some .all
  line : Option Int := none
  function : Option CodeText := none
  errorType : Option CodeText := none
  deriving Repr, BEq, DecidableEq

structure Intent where
  kind : IntentKind
  confidence : Float
  entities : Entities
  followUp : Bool := true
  rawText : Option CodeText := none
  deriving Repr

/-- What an intent is about, as a value. -/
def Entities.toJson (e : Entities) : Json :=
  .obj [
    ("file", Json.ofText? e.file),
    ("symbol", Json.ofText? e.symbol),
    ("language", Json.ofString? (e.language.map (·.name))),
    ("scope", Json.ofString? (e.scope.map (·.name))),
    ("line", match e.line with | some n => .int n | none => .null),
    ("function", Json.ofText? e.function),
    ("error_type", Json.ofText? e.errorType)]

def Intent.toJson (i : Intent) : Json :=
  .obj [
    ("intent", .str i.kind.name),
    ("confidence", .float i.confidence),
    ("entities", i.entities.toJson),
    ("follow_up_allowed", .bool i.followUp),
    ("raw_text", Json.ofText? i.rawText)]

/-! ### Checking -/

/-- The label of a member in reports: its word in capitals. -/
def labelOf (word : String) : String :=
  String.ofList (word.toList.map Char.toUpper)

/-- The members of an enumeration with their words and labels. -/
def labelled {α : Type} (name : α → String) (values : List α) : List (String × String × α) :=
  values.map fun a => (name a, labelOf (name a), a)

def Check.intentKind : Check IntentKind :=
  Check.member "IntentType" (labelled IntentKind.name IntentKind.values)

def Check.language : Check Language :=
  Check.member "Language" (labelled Language.name Language.values)

def Check.symbolScope : Check SymbolScope :=
  Check.member "SymbolScope" (labelled SymbolScope.name SymbolScope.values)

open Check in
/-- What an intent is about, from the fields of a value. -/
def Entities.ofFields (location : List String) (fields : List (CodeText × Json)) :
    Checked Entities :=
  let file := optional "file" text location fields
  let symbol := optional "symbol" text location fields
  let language := withDefault "language" (some .python) (orNull Check.language) location fields
  let scope := withDefault "scope" (some .all) (orNull symbolScope) location fields
  let line := optional "line" integer location fields
  let function := optional "function" text location fields
  let errorType := optional "error_type" text location fields
  (file.both (symbol.both (language.both (scope.both (line.both (function.both errorType)))))).map
    fun (file, symbol, language, scope, line, function, errorType) =>
      ⟨file, symbol, language, scope, line, function, errorType⟩

/-- The fields of entries whose keys are all texts. -/
def textFields? : List (Json × Json) → Option (List (CodeText × Json))
  | [] => some []
  | (.str k, v) :: rest => (textFields? rest).map ((k, v) :: ·)
  | _ => none

/-- What an intent is about, from a value. -/
def Check.entities : Check Entities := fun location v =>
  match Check.mapping? v with
  | none => Check.noMapping location
  | some entries =>
    match textFields? entries with
    | some fields => Entities.ofFields location fields
    | none => Checked.fault location "keywords must be strings" "type_error" []

/-- What an intent is about, from the value of a request. -/
def Entities.ofJson (v : Json) : Except Failure Entities :=
  match v with
  | .obj fields => (Entities.ofFields [] fields).finish "IntentEntities"
  | _ => .error (.loose (.notMapping "modules.intent_schema.IntentEntities()" v.kindName))

open Check in
def Intent.ofFields (fields : List (CodeText × Json)) : Checked Intent :=
  let kind := required "intent" (notNull intentKind) [] fields
  let confidence := required "confidence" (notNull (between 0 1)) [] fields
  let about := required "entities" (notNull Check.entities) [] fields
  let followUp := withDefault "follow_up_allowed" true (notNull boolean) [] fields
  let rawText := optional "raw_text" text [] fields
  (kind.both (confidence.both (about.both (followUp.both rawText)))).map
    fun (kind, confidence, about, followUp, rawText) =>
      ⟨kind, confidence, about, followUp, rawText⟩

def Intent.ofJson (v : Json) : Except Failure Intent :=
  match v with
  | .obj fields => (Intent.ofFields fields).finish "Intent"
  | _ => .error (.loose (.notMapping "modules.intent_schema.Intent()" v.kindName))

/-- A confidence lies between zero and one; other values are refused or cannot be compared. -/
def checkConfidence (v : Json) : Except Failure Json :=
  let range (ok : Bool) : Except Failure Json := if ok then .ok v else .error .confidenceRange
  match v with
  | .bool _ => .ok v
  | .int n => range (0 ≤ n && n ≤ 1)
  | .float x => range (0 ≤ x && x ≤ 1)
  | _ => .error (.loose (.notOrdered "<=" "float" v.kindName))

end VoiceDebugger
