import VoiceDebugger.Source.Scope

/-!
Where expressions may stand: inside which blocks values may be yielded or awaited, and which targets
can be assigned.
-/

namespace VoiceDebugger.Source

/-- The kinds of code around an expression. -/
inductive CodeKind where
  | module
  | classBody
  | function
  | asyncFunction
  | lambda
  | comprehension
  deriving BEq, DecidableEq

/-- The code around an expression. -/
structure Code where
  kind : CodeKind
  duties : Duties
  /-- Annotations are kept as text. -/
  late : Bool
  /-- The line of the last import of a future feature, or minus one. -/
  futureLine : Int

def Code.isFunction (c : Code) : Bool :=
  c.kind != .module && c.kind != .classBody

/-- What an expression is evaluated for. -/
inductive Access where
  | load
  | store
  | delete
  deriving BEq, DecidableEq

/-- Where a fault is reported: line, and column in bytes from zero. -/
structure Spot where
  line : Int
  column : Int

def Span.spot (s : Span) : Spot := ⟨s.line, s.column⟩

def Spot.nowhere : Spot := ⟨-1, -1⟩

def Spot.fault (s : Spot) (message : String) : Fault :=
  { place := .exact s.line (s.column + 1), message := message }

/-- A name that must be left alone. -/
def checkName (spot : Spot) (access : Access) (name : String) : Except Fault Unit :=
  if name == "__debug__" then
    match access with
    | .load => .ok ()
    | .store => .error (spot.fault "cannot assign to __debug__")
    | .delete => .error (spot.fault "cannot delete __debug__")
  else .ok ()

/-- Names that must be left alone. -/
def checkNames (spot : Spot) (names : List String) : Except Fault Unit :=
  names.forM (checkName spot .store)

def Params.names (ps : Params) : List String :=
  (ps.positionalOnly ++ ps.positional ++ ps.rest.toList ++ ps.keywordOnly ++
    ps.keywordRest.toList).map (·.name)

/-- Where the name of an attribute stands, if not on the line where the expression begins. -/
def attributeSpot (span : Span) (name : String) : Spot :=
  if span.line != span.endLine then ⟨span.endLine, span.endColumn - name.length⟩ else span.spot

def checkKeywords (spot : Spot) : List Keyword → Except Fault Unit
  | [] => .ok ()
  | ⟨_, none, _⟩ :: rest => checkKeywords spot rest
  | ⟨_, some name, _⟩ :: rest => do
    checkName spot .store name
    match rest.find? (·.name == some name) with
    | some again => .error (again.span.spot.fault s!"keyword argument repeated: {name}")
    | none => checkKeywords spot rest

def Expr.isStarred (e : Expr) : Bool :=
  e.form matches .starred _

/-- How far behind the front a starred target may stand. -/
def maxBeforeStar : Nat := 256

/-- The targets of an unpacking assignment: at most one is starred. -/
def checkUnpacking (spot : Spot) (elements : List Expr) : Except Fault Unit :=
  match elements.findIdx? Expr.isStarred with
  | none => .ok ()
  | some i =>
    if i ≥ maxBeforeStar then
      .error (spot.fault "too many expressions in star-unpacking assignment")
    else if (elements.drop (i + 1)).any Expr.isStarred then
      .error (spot.fault "multiple starred expressions in assignment")
    else .ok ()

def Code.comprehension (c : Code) (duties : Duties) : Code :=
  { c with kind := .comprehension, duties := duties }

/-- A comprehension that is suspended stands in code that can be suspended. -/
def checkSuspension (c : Code) (spot : Spot) (shape : Shape) (inside : Duties) :
    Except Fault Unit :=
  if inside.suspends && shape != .generator && c.kind != .asyncFunction && c.kind != .comprehension
  then .error (spot.fault "asynchronous comprehension outside of an asynchronous function")
  else .ok ()

/-- How many blocks may be nested. -/
def maxBlocks : Nat := 20

mutual

def Expr.check (c : Code) (access : Access) : Expr → Except Fault Unit
  | ⟨span, form⟩ => Form.check c access span form

def Form.check (c : Code) (access : Access) (span : Span) : Form → Except Fault Unit
  | .boolOp _ values => checkList c .load values
  | .named target value => do
    Expr.check c .load value
    Expr.check c .store target
  | .binary left _ right => do
    Expr.check c .load left
    Expr.check c .load right
  | .unary _ operand => Expr.check c .load operand
  | .lambda ps body => do
    checkNames span.spot ps.names
    Params.checkDefaults c ps
    Expr.check { c with kind := .lambda, duties := dutiesOf (body.events false) } .load body
  | .conditional test body orelse => do
    Expr.check c .load test
    Expr.check c .load body
    Expr.check c .load orelse
  | .dict entries => checkEntries c entries
  | .set elements => checkElements c elements
  | .listComp element clauses => do
    let inside := dutiesOf (clauseEvents true clauses ++ element.events false)
    checkSuspension c span.spot .list inside
    checkClauses (c.comprehension inside) true 0 span.spot clauses
    Expr.check (c.comprehension inside) .load element
    checkFirstSource c clauses
  | .setComp element clauses => do
    let inside := dutiesOf (clauseEvents true clauses ++ element.events false)
    checkSuspension c span.spot .set inside
    checkClauses (c.comprehension inside) true 0 span.spot clauses
    Expr.check (c.comprehension inside) .load element
    checkFirstSource c clauses
  | .dictComp key value clauses => do
    let inside := dutiesOf (clauseEvents true clauses ++ value.events false ++ key.events false)
    checkSuspension c span.spot .dict inside
    checkClauses (c.comprehension inside) true 0 span.spot clauses
    Expr.check (c.comprehension inside) .load key
    Expr.check (c.comprehension inside) .load value
    checkFirstSource c clauses
  | .generator element clauses => do
    let inside := dutiesOf (clauseEvents true clauses ++ element.events false)
    checkSuspension c span.spot .generator inside
    checkClauses (c.comprehension inside) true 0 span.spot clauses
    Expr.check (c.comprehension inside) .load element
    checkFirstSource c clauses
  | .awaits value =>
    if !c.isFunction then .error (span.spot.fault "'await' outside function")
    else if c.kind != .asyncFunction && c.kind != .comprehension then
      .error (span.spot.fault "'await' outside async function")
    else Expr.check c .load value
  | .yields value =>
    if !c.isFunction then .error (span.spot.fault "'yield' outside function")
    else checkMaybe c value
  | .yieldsFrom value =>
    if !c.isFunction then .error (span.spot.fault "'yield' outside function")
    else if c.kind == .asyncFunction then
      .error (span.spot.fault "'yield from' inside async function")
    else Expr.check c .load value
  | .compare left rest => do
    Expr.check c .load left
    checkOperands c rest
  | .call function args keywords => do
    checkKeywords span.spot keywords
    Expr.check c .load function
    checkElements c args
    checkKeywordValues c keywords
  | .formatted value spec => do
    Expr.check c .load value
    checkMaybe c spec
  | .joined values => checkList c .load values
  | .constant _ => .ok ()
  | .attribute value name => do
    Expr.check c .load value
    if access == .store then checkName (attributeSpot span name) .store name
  | .subscript value index => do
    Expr.check c .load value
    Expr.check c .load index
  | .starred _ =>
    if access == .store then
      .error (span.spot.fault "starred assignment target must be in a list or tuple")
    else .error (span.spot.fault "can't use starred expression here")
  | .name id => checkName span.spot access id
  | .list elements => checkCollection c access span elements
  | .tuple elements => checkCollection c access span elements
  | .slice lower upper step => do
    checkMaybe c lower
    checkMaybe c upper
    checkMaybe c step

def checkCollection (c : Code) (access : Access) (span : Span) :
    List Expr → Except Fault Unit
  | [] => .ok ()
  | e :: rest =>
    match access with
    | .load => do
      checkElement c .load e
      checkElements c rest
    | .delete => do
      Expr.check c .delete e
      checkList c .delete rest
    | .store => do
      checkUnpacking span.spot (e :: rest)
      checkElement c .store e
      checkTargets c rest

def checkElement (c : Code) (access : Access) : Expr → Except Fault Unit
  | ⟨_, .starred value⟩ => Expr.check c access value
  | ⟨span, form⟩ => Form.check c access span form

def checkElements (c : Code) : List Expr → Except Fault Unit
  | [] => .ok ()
  | e :: rest => do
    checkElement c .load e
    checkElements c rest

def checkTargets (c : Code) : List Expr → Except Fault Unit
  | [] => .ok ()
  | e :: rest => do
    checkElement c .store e
    checkTargets c rest

def checkList (c : Code) (access : Access) : List Expr → Except Fault Unit
  | [] => .ok ()
  | e :: rest => do
    Expr.check c access e
    checkList c access rest

def checkMaybe (c : Code) : Option Expr → Except Fault Unit
  | none => .ok ()
  | some e => Expr.check c .load e

def checkEntries (c : Code) : List (Option Expr × Expr) → Except Fault Unit
  | [] => .ok ()
  | (key, value) :: rest => do
    checkMaybe c key
    Expr.check c .load value
    checkEntries c rest

def checkOperands (c : Code) : List (String × Expr) → Except Fault Unit
  | [] => .ok ()
  | (_, operand) :: rest => do
    Expr.check c .load operand
    checkOperands c rest

def checkKeywordValues (c : Code) : List Keyword → Except Fault Unit
  | [] => .ok ()
  | ⟨_, _, value⟩ :: rest => do
    Expr.check c .load value
    checkKeywordValues c rest

/-- Check the source of the first clause, in the code around the comprehension. -/
def checkFirstSource (c : Code) : List Clause → Except Fault Unit
  | [] => .ok ()
  | ⟨_, source, _, _⟩ :: _ => Expr.check c .load source

/-- Check clauses in the code of the comprehension. Clauses that suspend are nested blocks. -/
def checkClauses (c : Code) (first : Bool) (depth : Nat) (spot : Spot) :
    List Clause → Except Fault Unit
  | [] => .ok ()
  | ⟨target, source, conditions, isAsync⟩ :: rest => do
    if !first then Expr.check c .load source
    if isAsync && depth ≥ maxBlocks then
      .error (spot.fault "too many statically nested blocks")
    Expr.check c .store target
    checkList c .load conditions
    checkClauses c false (if isAsync then depth + 1 else depth) spot rest

def Params.checkDefaults (c : Code) : Params → Except Fault Unit
  | ⟨_, _, _, _, keywordDefaults, _, defaults⟩ => do
    checkList c .load defaults
    checkMaybeList c keywordDefaults

def checkMaybeList (c : Code) : List (Option Expr) → Except Fault Unit
  | [] => .ok ()
  | e :: rest => do
    checkMaybe c e
    checkMaybeList c rest

end

end VoiceDebugger.Source
