import VoiceDebugger.Source.Grammar.Parser
import VoiceDebugger.Source.Scope.Event

/-!
Blocks of names, built from the events of a module.
-/

namespace VoiceDebugger.Source

/-- What a block knows about a name. -/
structure Marks where
  isGlobal : Bool := false
  isNonlocal : Bool := false
  isLocal : Bool := false
  isParam : Bool := false
  isUsed : Bool := false
  isImported : Bool := false
  isAnnotated : Bool := false
  isIterated : Bool := false
  deriving Repr, Inhabited

/-- A block: its names in the order in which they were met, the places of its declarations, and the
blocks inside it. -/
inductive Block where
  | mk (kind : BlockKind) (names : List (String × Marks)) (declared : List (String × Span))
      (inner : List Block)

structure OpenBlock where
  kind : BlockKind
  names : List (String × Marks) := []
  declared : List (String × Span) := []
  inner : List Block := []
  /-- The targets of a comprehension are being read. -/
  inTargets : Bool := false
  /-- How many sources of comprehensions are being read. -/
  sources : Nat := 0

/-- A fault at the start of a span, with the column as it is. -/
def Span.fault (s : Span) (message : String) : Fault :=
  { place := .exact s.line (s.column + 1), message := message }

/-- A private name of a class carries the name of the class. -/
def mangle (owner : Option String) (name : String) : String :=
  let cs := name.toList
  match owner with
  | none => name
  | some owner =>
    let bare := owner.toList.dropWhile (· == '_')
    if !(['_', '_'].isPrefixOf cs) || ['_', '_'].isSuffixOf cs || cs.contains '.' || bare.isEmpty then
      name
    else String.ofList ('_' :: bare ++ cs)

def lookupMarks (name : String) : List (String × Marks) → Marks
  | [] => {}
  | (key, m) :: rest => if key == name then m else lookupMarks name rest

/-- Set what is known about a name; a new name goes to the end. -/
def setMarks (name : String) (m : Marks) : List (String × Marks) → List (String × Marks)
  | [] => [(name, m)]
  | (key, old) :: rest => if key == name then (key, m) :: rest else (key, old) :: setMarks name m rest

/-- The class whose private names are in force. -/
def ownerOf : List OpenBlock → Option String
  | [] => none
  | b :: rest =>
    match b.kind with
    | .classBody name => some name
    | _ => ownerOf rest

def Marks.add (m : Marks) : Mark → Marks
  | .use => { m with isUsed := true }
  | .store => { m with isLocal := true }
  | .param => { m with isParam := true }
  | .imported => { m with isImported := true }
  | .annotated => { m with isAnnotated := true, isLocal := true }

/-- Add to what a block knows about a name. A name that a comprehension runs over must not be
assigned inside it. -/
def OpenBlock.note (b : OpenBlock) (owner : Option String) (name : String) (place : Span)
    (change : Marks → Marks) : Except Fault OpenBlock :=
  let key := mangle owner name
  let m := change (lookupMarks key b.names)
  if b.inTargets then
    if m.isGlobal || m.isNonlocal then
      .error (place.fault
        s!"comprehension inner loop cannot rebind assignment expression target '{name}'")
    else .ok { b with names := setMarks key { m with isIterated := true } b.names }
  else .ok { b with names := setMarks key m b.names }

def OpenBlock.noteDeclaration (b : OpenBlock) (owner : Option String) (name : String) (place : Span) :
    OpenBlock :=
  { b with declared := b.declared ++ [(mangle owner name, place)] }

/-- The fault of a declaration that comes too late. -/
def lateDeclaration (isGlobal : Bool) (name : String) (m : Marks) : Option String :=
  let word := if isGlobal then "global" else "nonlocal"
  if m.isParam then some s!"name '{name}' is parameter and {word}"
  else if m.isUsed then some s!"name '{name}' is used prior to {word} declaration"
  else if m.isAnnotated then some s!"annotated name '{name}' can't be {word}"
  else if m.isLocal then some s!"name '{name}' is assigned to before {word} declaration"
  else none

/-- Where a name goes that an expression inside a comprehension assigns: to the nearest block that
is no comprehension. `around` are the blocks from the innermost on. -/
def assignAround (owner : Option String) (name : String) (target : Span) :
    List OpenBlock → Except Fault (Bool × List OpenBlock)
  | [] => .ok (true, [])
  | b :: rest =>
    match b.kind with
    | .comprehension _ =>
      if (lookupMarks name b.names).isIterated then
        .error (target.fault
          s!"assignment expression cannot rebind comprehension iteration variable '{name}'")
      else do
        let (isGlobal, rest) ← assignAround owner name target rest
        return (isGlobal, b :: rest)
    | .function => do
      let isGlobal := (lookupMarks name b.names).isGlobal
      let b ← b.note owner name target (·.add .store)
      return (isGlobal, b :: rest)
    | .module => do
      let b ← b.note owner name target fun m => { m with isGlobal := true }
      return (true, b :: rest)
    | .classBody _ =>
      .error (target.fault
        "assignment expression within a comprehension cannot be used in a class body")
    | .typeHint => do
      let (isGlobal, rest) ← assignAround owner name target rest
      return (isGlobal, b :: rest)

def Shape.yieldMessage : Shape → String
  | .list => "'yield' inside list comprehension"
  | .set => "'yield' inside set comprehension"
  | .dict => "'yield' inside dict comprehension"
  | .generator => "'yield' inside generator expression"

/-- Close the innermost block. Annotations leave no trace. -/
def closeBlock : List OpenBlock → List OpenBlock
  | b :: around :: rest =>
    if b.kind == .typeHint then around :: rest
    else { around with inner := around.inner ++ [.mk b.kind b.names b.declared b.inner] } :: rest
  | blocks => blocks

/-- What an event does to the open blocks, innermost first. -/
def ScopeEvent.apply (event : ScopeEvent) (blocks : List OpenBlock) :
    Except Fault (List OpenBlock) :=
  let owner := ownerOf blocks
  match blocks with
  | [] => .ok []
  | b :: rest =>
    match event with
    | .mark how name place => do
      if how == .param && (lookupMarks (mangle owner name) b.names).isParam then
        .error (place.fault s!"duplicate argument '{name}' in function definition")
      else
        let b ← b.note owner name place (·.add how)
        let b ←
          if how == .use && name == "super" && b.kind matches .function | .comprehension _ then
            b.note owner "__class__" place (·.add .use)
          else .ok b
        return b :: rest
    | .declare isGlobal name place => do
      match lateDeclaration isGlobal name (lookupMarks (mangle owner name) b.names) with
      | some message => .error (place.fault message)
      | none =>
        let b ← b.note owner name place fun m =>
          if isGlobal then { m with isGlobal := true } else { m with isNonlocal := true }
        return b.noteDeclaration owner name place :: rest
    | .annotate name place =>
      let m := lookupMarks (mangle owner name) b.names
      if (m.isGlobal || m.isNonlocal) && b.kind != .module then
        let word := if m.isGlobal then "global" else "nonlocal"
        .error (place.fault s!"annotated name '{name}' can't be {word}")
      else .ok blocks
    | .enter kind => .ok ({ kind := kind, sources := b.sources } :: blocks)
    | .leave => .ok (closeBlock blocks)
    | .targets begin => .ok ({ b with inTargets := begin } :: rest)
    | .source begin =>
      .ok ({ b with sources := if begin then b.sources + 1 else b.sources - 1 } :: rest)
    | .named name place target =>
      if b.sources > 0 then
        .error (place.fault
          "assignment expression cannot be used in a comprehension iterable expression")
      else
        match b.kind with
        | .comprehension _ => do
          let (isGlobal, around) ← assignAround owner name target blocks
          match around with
          | [] => return []
          | b :: rest =>
            let b ← b.note owner name target fun m =>
              if isGlobal then { m with isGlobal := true } else { m with isNonlocal := true }
            return b.noteDeclaration owner name target :: rest
        | _ => .ok blocks
    | .notInHint what place =>
      if b.kind == .typeHint then
        .error (place.fault s!"'{what}' can not be used within an annotation")
      else .ok blocks
    | .yields place =>
      match b.kind with
      | .comprehension shape => .error (place.fault shape.yieldMessage)
      | _ => .ok blocks
    | .suspends => .ok blocks
    | .importAll place =>
      if b.kind == .module then .ok blocks
      else .error (place.fault "import * only allowed at module level")

def applyEvents : List ScopeEvent → List OpenBlock → Except Fault (List OpenBlock)
  | [], blocks => .ok blocks
  | e :: rest, blocks => do applyEvents rest (← e.apply blocks)

def buildBlocks (events : List ScopeEvent) : Except Fault Block := do
  match ← applyEvents events [{ kind := .module }] with
  | b :: _ => return .mk b.kind b.names b.declared b.inner
  | [] => return .mk .module [] [] []

end VoiceDebugger.Source
