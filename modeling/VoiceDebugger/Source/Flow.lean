import VoiceDebugger.Source.Flow.Matching

/-!
Where statements may stand: loops around `break` and `continue`, functions around `return`, a limit
on nested blocks.
-/

namespace VoiceDebugger.Source

/-- A block of statements that control can leave. -/
inductive Frame where
  | loop
  | guarded
  /-- A block with a final part. Leaving it runs the final part; the outcome of checking that part
  is kept. -/
  | finishing (outcome : Except Fault Unit)
  | final
  | context
  | handlers
  | groupHandlers
  | handler

def pushFrame (spot : Spot) (f : Frame) (frames : List Frame) : Except Fault (List Frame) :=
  if frames.length ≥ maxBlocks then .error (spot.fault "too many statically nested blocks")
  else .ok (f :: frames)

/-- Leave blocks, all or up to the nearest loop, and tell whether there was one. Behind a final part
or the end of a context there is no spot to report. -/
def unwind (toLoop : Bool) : Spot → List Frame → Except Fault Bool
  | _, [] => .ok false
  | spot, f :: rest =>
    match f with
    | .groupHandlers =>
      .error (spot.fault
        "'break', 'continue' and 'return' cannot appear in an except* block")
    | .loop => if toLoop then .ok true else unwind toLoop spot rest
    | .finishing outcome => do
      outcome
      unwind toLoop .nowhere rest
    | .context => unwind toLoop .nowhere rest
    | _ => unwind toLoop spot rest

def leaveLoop (spot : Spot) (frames : List Frame) (message : String) : Except Fault Unit := do
  if !(← unwind true spot frames) then .error (spot.fault message)

/-- Check the annotations of a function, unless they are kept as text. -/
def Params.checkAnnotations (c : Code) (ps : Params) (result : Option Expr) : Except Fault Unit :=
  if c.late then .ok ()
  else do
    (ps.positional ++ ps.positionalOnly ++ ps.rest.toList ++ ps.keywordOnly ++
      ps.keywordRest.toList).forM fun p =>
        match p.typeHint with
        | some e => checkElement c .load e
        | none => .ok ()
    checkMaybe c result

/-- Check an annotation whose target is no plain name. -/
def checkLooseHint (c : Code) (typeHint : Expr) : Except Fault Unit :=
  if c.late || c.isFunction then .ok () else typeHint.check c .load

def checkAnnotated (c : Code) (spot : Spot) (target typeHint : Expr) (value : Option Expr)
    (simple : Bool) : Except Fault Unit := do
  if let some v := value then
    v.check c .load
    target.check c .store
  match target.form with
  | .name id =>
    checkName spot .store id
    if simple && !c.isFunction && !c.late then typeHint.check c .load
  | .attribute owner name =>
    checkName spot .store name
    if value.isNone then owner.check c .load
  | .subscript owner index =>
    if value.isNone then
      owner.check c .load
      match index.form with
      | .tuple parts => checkList c .load parts
      | _ => index.check c .load
  | _ => .ok ()
  if !simple then checkLooseHint c typeHint

def checkAugmented (c : Code) (target value : Expr) : Except Fault Unit :=
  match target.form with
  | .attribute owner _ => do
    owner.check c .load
    value.check c .load
  | .subscript owner index => do
    owner.check c .load
    index.check c .load
    value.check c .load
  | .name id => do
    value.check c .load
    checkName target.span.spot .store id
  | _ => value.check c .load

/-- The name under which future features are imported. -/
def futureModule : String := "__future__"

/-- The message for an import of a future feature that comes too late. -/
def lateFuture : String :=
  "from __future__ imports must occur at the beginning of the file"

def checkImportFrom (c : Code) (span : Span) (module_ : Option String) (names : List Alias) :
    Except Fault Unit :=
  if module_ == some futureModule && (span.line : Int) > c.futureLine then
    .error (span.spot.fault lateFuture)
  else if names.head?.any (·.name == "*") then .ok ()
  else checkNames span.spot (names.map fun a => a.asName.getD a.name)

/-- Enter the items of a with statement one in another. -/
def checkItems (c : Code) (spot : Spot) : List WithItem → List Frame → Except Fault (List Frame)
  | [], frames => .ok frames
  | ⟨context, target⟩ :: rest, frames => do
    context.check c .load
    let frames ← pushFrame spot .context frames
    if let some t := target then t.check c .store
    checkItems c spot rest frames

mutual

/-- Check a statement inside blocks, innermost first. -/
def Stmt.check (c : Code) (frames : List Frame) : Stmt → Except Fault Unit
  | ⟨span, form⟩ => StmtForm.check c frames span form

def StmtForm.check (c : Code) (frames : List Frame) (span : Span) : StmtForm → Except Fault Unit
  | .functionDef isAsync name ps body decorators result => do
    checkNames span.spot ps.names
    checkList c .load decorators
    ps.checkDefaults c
    ps.checkAnnotations c result
    let kind := if isAsync then .asyncFunction else .function
    let duties := dutiesOf ((if isAsync then [.suspends] else []) ++ blockEvents c.late body)
    checkBlock { c with kind := kind, duties := duties } [] body
    checkName span.spot .store name
  | .classDef name bases keywords body decorators => do
    checkList c .load decorators
    checkBlock { c with kind := .classBody, duties := {} } [] body
    checkKeywords span.spot keywords
    checkElements c bases
    checkKeywordValues c keywords
    checkName span.spot .store name
  | .returns value => do
    if !c.isFunction then .error (span.spot.fault "'return' outside function")
    if value.isSome && c.duties.suspends && c.duties.yields then
      .error (span.spot.fault "'return' with value in async generator")
    checkMaybe c value
    let _ ← unwind false span.spot frames
  | .delete targets => checkList c .delete targets
  | .assign targets value => do
    value.check c .load
    checkList c .store targets
  | .augAssign target _ value => checkAugmented c target value
  | .annAssign target typeHint value simple =>
    checkAnnotated c span.spot target typeHint value simple
  | .forLoop isAsync target source body orelse => do
    if isAsync && c.kind != .asyncFunction then
      .error (span.spot.fault "'async for' outside async function")
    if isAsync then source.check c .load
    let inside ← pushFrame span.spot .loop frames
    if !isAsync then source.check c .load
    target.check c .store
    checkBlock c inside body
    checkBlock c frames orelse
  | .whileLoop test body orelse => do
    let inside ← pushFrame span.spot .loop frames
    test.check c .load
    checkBlock c inside body
    checkBlock c frames orelse
  | .ifElse test body orelse => do
    test.check c .load
    checkBlock c frames body
    checkBlock c frames orelse
  | .withBlock isAsync items body => do
    if isAsync && c.kind != .asyncFunction then
      .error (span.spot.fault "'async with' outside async function")
    let inside ← checkItems c span.spot items frames
    checkBlock c inside body
  | .matchOn subject cases => do
    subject.check c .load
    checkCases c frames (1 < cases.length) cases
  | .raises exception cause => do
    checkMaybe c exception
    checkMaybe c cause
  | .tryBlock isStar body handlers orelse final => do
    if final.isEmpty then
      let guarded ← pushFrame span.spot .guarded frames
      checkBlock c guarded body
      checkBlock c frames orelse
      let around ← pushFrame .nowhere (if isStar then .groupHandlers else .handlers) frames
      checkHandlers c around handlers
    else
      let around ← pushFrame span.spot (.finishing (checkBlock c frames final)) frames
      if handlers.isEmpty then checkBlock c around body
      else
        let guarded ← pushFrame span.spot .guarded around
        checkBlock c guarded body
        checkBlock c around orelse
        let around ← pushFrame .nowhere (if isStar then .groupHandlers else .handlers) around
        checkHandlers c around handlers
      checkBlock c frames final
      let ending ← pushFrame .nowhere .final frames
      checkBlock c ending final
  | .asserts test message => do
    test.check c .load
    checkMaybe c message
  | .imports names => checkNames span.spot (names.map (·.bound))
  | .importsFrom module_ names _ => checkImportFrom c span module_ names
  | .globals _ => .ok ()
  | .nonlocals _ => .ok ()
  | .expression value => value.check c .load
  | .pass => .ok ()
  | .breaks => leaveLoop span.spot frames "'break' outside loop"
  | .continues => leaveLoop span.spot frames "'continue' not properly in loop"

def checkBlock (c : Code) (frames : List Frame) : List Stmt → Except Fault Unit
  | [] => .ok ()
  | s :: rest => do
    Stmt.check c frames s
    checkBlock c frames rest

/-- Check handlers in order; one without a type comes last. -/
def checkHandlers (c : Code) (frames : List Frame) : List Handler → Except Fault Unit
  | [] => .ok ()
  | ⟨span, type, name, body⟩ :: rest => do
    if type.isNone && !rest.isEmpty then
      .error (span.spot.fault "default 'except:' must be last")
    checkMaybe c type
    checkNames span.spot name.toList
    let inside ← pushFrame span.spot .handler frames
    checkBlock c inside body
    checkHandlers c frames rest

/-- Check the cases of a match statement. A wildcard that comes last behind other cases is not
looked at. -/
def checkCases (c : Code) (frames : List Frame) (several : Bool) :
    List MatchCase → Except Fault Unit
  | [] => .ok ()
  | ⟨pattern, guard, body⟩ :: rest => do
    if !(rest.isEmpty && several && pattern.isWildcard) then
      let _ ← pattern.check c (guard.isSome || rest.isEmpty) ⟨pattern.span.spot, []⟩
    checkMaybe c guard
    checkBlock c frames body
    checkCases c frames several rest

end

end VoiceDebugger.Source
