import VoiceDebugger.Source.Grammar.Patterns
import VoiceDebugger.Source.Grammar.Targets

/-!
The rules for statements.
-/

namespace VoiceDebugger.Source

open VoiceDebugger.Source.Parser

/-- A statement that a form makes, with the span that was read for it. -/
def stmtNode (p : Parser StmtForm) : Parser Stmt := do
  let first ← current
  let form ← p
  return ⟨← spanFrom first, form⟩

def missingBlock (after : String) (t : Token) : String :=
  s!"expected an indented block after {after} on line {t.line}"

/-- The end of a line that no block follows. -/
def noBlock : Parser Unit := do
  let _ ← kind .newline
  notAhead (kind .indent)

/-! ### Simple statements -/

def yieldOrExpressions (g : Rules) : Parser Expr :=
  yieldExpression g <|> starExpressions g

def assigningOperators : List String :=
  ["+=", "-=", "*=", "@=", "/=", "%=", "&=", "|=", "^=", "<<=", ">>=", "**=", "//="]

def assignedTarget (g : Rules) : Parser Expr := do
  let t ← starTargets g
  let _ ← sym "="
  return t

/-- A display that cannot be annotated. -/
def annotationTarget (g : Rules) : Parser Expr :=
  listDisplay g <|> tupleDisplay g <|> (do
    let _ ← sym "("
    let e ← g .annotationTarget
    let _ ← sym ")"
    return e)

def badAssignment {α : Type} (g : Rules) : Parser α :=
  settle (
    (do
      let a ← annotationTarget g
      let _ ← sym ":"
      let _ ← expression g
      return some (raiseExpr a s!"only single target (not {a.describe}) can be annotated")) <|>
    (do
      let a ← starNamedExpression g
      let _ ← sym ","
      let _ ← many (starNamedExpressions g)
      let _ ← sym ":"
      let _ ← expression g
      return some (raiseExpr a "only single target (not tuple) can be annotated")) <|>
    (do
      let a ← expression g
      let _ ← sym ":"
      let _ ← expression g
      return some (raiseExpr a "illegal target for annotation")) <|>
    (do
      let _ ← many (assignedTarget g)
      let a ← starExpressions g
      let _ ← sym "="
      return some (badTarget .assigned a)) <|>
    (do
      let _ ← many (assignedTarget g)
      let a ← yieldExpression g
      let _ ← sym "="
      return some (raiseExpr a "assignment to yield expression not possible")) <|>
    (do
      let a ← starExpressions g
      let _ ← anySym assigningOperators
      let _ ← yieldOrExpressions g
      return some (raiseExpr a
        s!"'{a.describe}' is an illegal expression for augmented assignment")))

def annotationAndValue (g : Rules) : Parser (Expr × Option Expr) := do
  let _ ← sym ":"
  let typeHint ← expression g
  let value ← optional (do let _ ← sym "="; yieldOrExpressions g)
  return (typeHint, value)

def assignment (g : Rules) : Parser Stmt := do
  let first ← current
  let finish (form : StmtForm) : Parser Stmt := do return ⟨← spanFrom first, form⟩
  (do
    let t ← name
    let (typeHint, value) ← annotationAndValue g
    finish (.annAssign t typeHint value true)) <|>
  (do
    let t ← (do
      let _ ← sym "("
      let t ← singleTarget g
      let _ ← sym ")"
      return t) <|> attributeOrSubscript g
    let (typeHint, value) ← annotationAndValue g
    finish (.annAssign t typeHint value false)) <|>
  (do
    let ts ← many1 (assignedTarget g)
    let value ← yieldOrExpressions g
    notAhead (sym "=")
    finish (.assign ts value)) <|>
  commit
    (do
      let t ← singleTarget g
      let op ← anySym assigningOperators
      return (t, op))
    (fun (t, op) => do
      let value ← yieldOrExpressions g
      finish (.augAssign t op.text value))
    (diagnosis (badAssignment g))

def returnStatement (g : Rules) : Parser Stmt :=
  stmtNode do
    let _ ← sym "return"
    return .returns (← optional (starExpressions g))

def raiseStatement (g : Rules) : Parser Stmt :=
  stmtNode (
    (do
      let _ ← sym "raise"
      let e ← expression g
      let c ← optional (do let _ ← sym "from"; expression g)
      return .raises (some e) c) <|>
    (do
      let _ ← sym "raise"
      return .raises none none))

def namesBehind (word : String) : Parser (List String) := do
  let _ ← sym word
  let ids ← sepBy1 identifier (sym ",")
  return ids.map (·.1)

def deleteStatement (g : Rules) : Parser Stmt :=
  stmtNode (do
    let _ ← sym "del"
    let ts ← deleteTargets g
    ahead ((do let _ ← sym ";"; return ()) <|> (do let _ ← kind .newline; return ()))
    return .delete ts) <|>
  diagnosis (do
    let _ ← sym "del"
    let e ← starExpressions g
    badTarget .deleted e)

def assertStatement (g : Rules) : Parser Stmt :=
  stmtNode do
    let _ ← sym "assert"
    let e ← expression g
    let m ← optional (do let _ ← sym ","; expression g)
    return .asserts e m

def dottedName : Parser String := do
  let (first, _) ← identifier
  let more ← many (do
    let _ ← sym "."
    let (id, _) ← identifier
    return id)
  return ".".intercalate (first :: more)

def asName : Parser (Option String) :=
  optional (do
    let _ ← sym "as"
    let (id, _) ← identifier
    return id)

def importedModule : Parser Alias := do
  let first ← current
  let id ← dottedName
  let other ← asName
  return ⟨← spanFrom first, id, other⟩

def importedName : Parser Alias := do
  let first ← current
  let (id, _) ← identifier
  let other ← asName
  return ⟨← spanFrom first, id, other⟩

def importedNames : Parser (List Alias) :=
  (do
    let _ ← sym "("
    let ns ← sepBy1 importedName (sym ",")
    let _ ← optional (sym ",")
    let _ ← sym ")"
    return ns) <|>
  (do
    let ns ← sepBy1 importedName (sym ",")
    notAhead (sym ",")
    return ns) <|>
  (do
    let t ← sym "*"
    return [⟨t.span, "*", none⟩]) <|>
  diagnosis (do
    let _ ← sepBy1 importedName (sym ",")
    let _ ← sym ","
    let _ ← kind .newline
    raiseHere "trailing comma not allowed without surrounding parentheses")

def dotCount (dots : List Token) : Nat :=
  dots.foldl (fun n t => n + t.text.length) 0

def importStatement : Parser Stmt :=
  stmtNode (do
    let _ ← sym "import"
    return .imports (← sepBy1 importedModule (sym ","))) <|>
  stmtNode (
    (do
      let _ ← sym "from"
      let dots ← many (anySym [".", "..."])
      let module_ ← dottedName
      let _ ← sym "import"
      let ns ← importedNames
      return .importsFrom (some module_) ns (dotCount dots)) <|>
    (do
      let _ ← sym "from"
      let dots ← many1 (anySym [".", "..."])
      let _ ← sym "import"
      let ns ← importedNames
      return .importsFrom none ns (dotCount dots)))

def wordStatement (word : String) (form : StmtForm) : Parser Stmt :=
  stmtNode do
    let _ ← sym word
    return form

def simpleStatement (g : Rules) : Parser Stmt :=
  rememberStmt Slot.simpleStatement.number (
    assignment g <|>
    stmtNode (do return .expression (← starExpressions g)) <|>
    returnStatement g <|>
    importStatement <|>
    raiseStatement g <|>
    wordStatement "pass" .pass <|>
    (do ahead (sym "del"); deleteStatement g) <|>
    stmtNode (do return .expression (← yieldExpression g)) <|>
    assertStatement g <|>
    wordStatement "break" .breaks <|>
    wordStatement "continue" .continues <|>
    stmtNode (do return .globals (← namesBehind "global")) <|>
    stmtNode (do return .nonlocals (← namesBehind "nonlocal")))

def simpleStatements (g : Rules) : Parser (List Stmt) :=
  (do
    let s ← simpleStatement g
    notAhead (sym ";")
    let _ ← kind .newline
    return [s]) <|>
  (do
    let ss ← sepBy1 (simpleStatement g) (sym ";")
    let _ ← optional (sym ";")
    let _ ← kind .newline
    return ss)

/-! ### Blocks -/

/-- A block, on lines of its own or behind the colon. -/
def block (g : Rules) : Parser (List Stmt) :=
  rememberBlock Slot.block.number (
    (do
      let _ ← kind .newline
      let _ ← kind .indent
      let ss ← g .statements
      let _ ← kind .dedent
      return ss) <|>
    simpleStatements g <|>
    diagnosis (do
      noBlock
      raiseHere "expected an indented block"))

def decorators (g : Rules) : Parser (List Expr) :=
  many1 (do
    let _ ← sym "@"
    let e ← namedExpression g
    let _ ← kind .newline
    return e)

def bareClass (g : Rules) (decorators : List Expr) : Parser Stmt :=
  let head : Parser (Token × String × List Expr × List Keyword) := do
    let t ← sym "class"
    let (id, _) ← identifier
    let bases ← optional (do
      let _ ← sym "("
      let a ← optional (arguments g)
      let _ ← sym ")"
      return a.getD ([], []))
    let (args, keywords) := bases.getD ([], [])
    return (t, id, args, keywords)
  diagnosis (
    (do
      let _ ← head
      let _ ← kind .newline
      raiseHere "expected ':'") <|>
    (do
      let (t, _) ← head
      let _ ← sym ":"
      noBlock
      raiseHere (missingBlock "class definition" t))) <|>
  stmtNode (do
    let (_, id, args, keywords) ← head
    let _ ← sym ":"
    let body ← block g
    return .classDef id args keywords body decorators)

def classDefinition (g : Rules) : Parser Stmt :=
  (do
    let ds ← decorators g
    bareClass g ds) <|>
  bareClass g []

def bareFunction (g : Rules) (decorators : List Expr) : Parser Stmt :=
  let result : Parser (Option Expr) := optional (do let _ ← sym "->"; expression g)
  let definition (isAsync : Bool) : Parser StmtForm := do
    let _ ← sym "def"
    let (id, _) ← identifier
    let _ ← forced "("
    let ps ← optional (params g .function)
    let _ ← sym ")"
    let r ← result
    let _ ← forced ":"
    let body ← block g
    return .functionDef isAsync id (ps.getD noParams) body decorators r
  diagnosis (do
    let _ ← optional (sym "async")
    let t ← sym "def"
    let _ ← identifier
    let _ ← sym "("
    let _ ← optional (params g .function)
    let _ ← sym ")"
    let _ ← result
    let _ ← sym ":"
    noBlock
    raiseHere (missingBlock "function definition" t)) <|>
  stmtNode (definition false) <|>
  stmtNode (do
    let _ ← sym "async"
    definition true)

def functionDefinition (g : Rules) : Parser Stmt :=
  (do
    let ds ← decorators g
    bareFunction g ds) <|>
  bareFunction g []

/-- Faults behind the head of a statement with a condition. -/
def badCondition {α : Type} (g : Rules) (word : String) : Parser α :=
  (do
    let _ ← sym word
    let _ ← namedExpression g
    let _ ← kind .newline
    raiseHere "expected ':'") <|>
  (do
    let t ← sym word
    let _ ← namedExpression g
    let _ ← sym ":"
    noBlock
    raiseHere (missingBlock s!"'{word}' statement" t))

/-- The branch behind `else`. -/
def elseBlock (g : Rules) : Parser (List Stmt) :=
  diagnosis (do
    let t ← sym "else"
    let _ ← sym ":"
    noBlock
    raiseHere (missingBlock "'else' statement" t)) <|>
  (do
    let _ ← sym "else"
    let _ ← forced ":"
    block g)

/-- A statement with a condition and the branches that follow it. -/
def branches (g : Rules) (word : String) : Parser Stmt :=
  diagnosis (badCondition g word) <|>
  stmtNode (do
    let _ ← sym word
    let test ← namedExpression g
    let _ ← sym ":"
    let body ← block g
    let other ← g .elifBlock
    return .ifElse test body [other]) <|>
  stmtNode (do
    let _ ← sym word
    let test ← namedExpression g
    let _ ← sym ":"
    let body ← block g
    let other ← optional (elseBlock g)
    return .ifElse test body (other.getD []))

def whileStatement (g : Rules) : Parser Stmt :=
  diagnosis (badCondition g "while") <|>
  stmtNode (do
    let _ ← sym "while"
    let test ← namedExpression g
    let _ ← sym ":"
    let body ← block g
    let other ← optional (elseBlock g)
    return .whileLoop test body (other.getD []))

/-- A loop over a source. -/
def forStatement (g : Rules) : Parser Stmt := do
  let first ← current
  let head : Parser Expr := do
    let _ ← sym "for"
    let t ← starTargets g
    let _ ← sym "in"
    return t
  let rest (isAsync : Bool) (target : Expr) : Parser Stmt := do
    let source ← starExpressions g
    let _ ← sym ":"
    let body ← block g
    let other ← optional (elseBlock g)
    return ⟨← spanFrom first, .forLoop isAsync target source body (other.getD [])⟩
  diagnosis (
    (do
      let _ ← optional (sym "async")
      let _ ← sym "for"
      let _ ← starTargets g
      let _ ← sym "in"
      let _ ← starExpressions g
      let _ ← kind .newline
      raiseHere "expected ':'") <|>
    (do
      let _ ← optional (sym "async")
      let t ← sym "for"
      let _ ← starTargets g
      let _ ← sym "in"
      let _ ← starExpressions g
      let _ ← sym ":"
      noBlock
      raiseHere (missingBlock "'for' statement" t))) <|>
  commit head (rest false)
    (commit (do let _ ← sym "async"; head) (rest true) (diagnosis (badLoopTarget g)))

def withItem (g : Rules) : Parser WithItem :=
  (do
    let e ← expression g
    let _ ← sym "as"
    let t ← starTarget g
    ahead (anySym [",", ")", ":"])
    return ⟨e, some t⟩) <|>
  diagnosis (do
    let _ ← expression g
    let _ ← sym "as"
    let e ← expression g
    ahead (anySym [",", ")", ":"])
    badTarget .assigned e) <|>
  (do
    let e ← expression g
    return ⟨e, none⟩)

/-- The items of a with statement, for diagnosis only. -/
def looseWithItems (g : Rules) : Parser Token :=
  let target : Parser (Option Expr) := optional (do let _ ← sym "as"; starTarget g)
  do
    let _ ← optional (sym "async")
    let t ← sym "with"
    let _ ← sepBy1 (do let _ ← expression g; target) (sym ",")
    return t

/-- The items of a with statement in brackets, for diagnosis only. -/
def looseBracketItems (g : Rules) : Parser Token :=
  let target : Parser (Option Expr) := optional (do let _ ← sym "as"; starTarget g)
  do
    let _ ← optional (sym "async")
    let t ← sym "with"
    let _ ← sym "("
    let _ ← sepBy1 (do let _ ← expressions g; target) (sym ",")
    let _ ← optional (sym ",")
    let _ ← sym ")"
    return t

def withStatement (g : Rules) : Parser Stmt :=
  let lacking (items : Parser Token) : Parser Stmt := do
    let t ← items
    let _ ← sym ":"
    noBlock
    raiseHere (missingBlock "'with' statement" t)
  let colonLacking (items : Parser Token) : Parser Stmt := do
    let _ ← items
    let _ ← kind .newline
    raiseHere "expected ':'"
  let bracketed (isAsync : Bool) : Parser StmtForm := do
    let _ ← sym "with"
    let _ ← sym "("
    let items ← sepBy1 (withItem g) (sym ",")
    let _ ← optional (sym ",")
    let _ ← sym ")"
    let _ ← sym ":"
    return .withBlock isAsync items (← block g)
  let plainItems (isAsync : Bool) : Parser StmtForm := do
    let _ ← sym "with"
    let items ← sepBy1 (withItem g) (sym ",")
    let _ ← sym ":"
    return .withBlock isAsync items (← block g)
  diagnosis (lacking (looseWithItems g) <|> lacking (looseBracketItems g)) <|>
  stmtNode (bracketed false) <|>
  stmtNode (plainItems false) <|>
  stmtNode (do let _ ← sym "async"; bracketed true) <|>
  stmtNode (do let _ ← sym "async"; plainItems true) <|>
  diagnosis (colonLacking (looseWithItems g) <|> colonLacking (looseBracketItems g))

def badHandler {α : Type} (g : Rules) : Parser α :=
  (do
    let _ ← sym "except"
    let _ ← optional (sym "*")
    let a ← expression g
    let _ ← sym ","
    let _ ← expressions g
    let _ ← asName
    let _ ← sym ":"
    raiseExpr a "multiple exception types must be parenthesized") <|>
  (do
    let _ ← sym "except"
    let _ ← optional (sym "*")
    let _ ← expression g
    let _ ← asName
    let _ ← kind .newline
    raiseHere "expected ':'") <|>
  (do
    let _ ← sym "except"
    let _ ← kind .newline
    raiseHere "expected ':'") <|>
  (do
    let _ ← sym "except"
    let _ ← sym "*"
    (do let _ ← kind .newline; return ()) <|> (do let _ ← sym ":"; return ())
    raiseHere "expected one or more exception types")

def handlerNode (p : Parser (Option Expr × Option String × List Stmt)) : Parser Handler := do
  let first ← current
  let (type, id, body) ← p
  return ⟨← spanFrom first, type, id, body⟩

def exceptBlock (g : Rules) : Parser Handler :=
  diagnosis (
    (do
      let t ← sym "except"
      let _ ← expression g
      let _ ← asName
      let _ ← sym ":"
      noBlock
      raiseHere (missingBlock "'except' statement" t)) <|>
    (do
      let t ← sym "except"
      let _ ← sym ":"
      noBlock
      raiseHere (missingBlock "'except' statement" t))) <|>
  handlerNode (do
    let _ ← sym "except"
    let e ← expression g
    let id ← asName
    let _ ← sym ":"
    return (some e, id, ← block g)) <|>
  handlerNode (do
    let _ ← sym "except"
    let _ ← sym ":"
    return (none, none, ← block g)) <|>
  diagnosis (badHandler g)

def exceptStarBlock (g : Rules) : Parser Handler :=
  diagnosis (do
    let t ← sym "except"
    let _ ← sym "*"
    let _ ← expression g
    let _ ← asName
    let _ ← sym ":"
    noBlock
    raiseHere (missingBlock "'except*' statement" t)) <|>
  handlerNode (do
    let _ ← sym "except"
    let _ ← sym "*"
    let e ← expression g
    let id ← asName
    let _ ← sym ":"
    return (some e, id, ← block g)) <|>
  diagnosis (badHandler g)

/-- The block behind `finally`. -/
def finallyBlock (g : Rules) : Parser (List Stmt) :=
  diagnosis (do
    let t ← sym "finally"
    let _ ← sym ":"
    noBlock
    raiseHere (missingBlock "'finally' statement" t)) <|>
  (do
    let _ ← sym "finally"
    let _ ← forced ":"
    block g)

def badTry {α : Type} (g : Rules) : Parser α :=
  let mixed := "cannot have both 'except' and 'except*' on the same 'try'"
  (do
    let t ← sym "try"
    let _ ← sym ":"
    noBlock
    raiseHere (missingBlock "'try' statement" t)) <|>
  (do
    let _ ← sym "try"
    let _ ← sym ":"
    let _ ← block g
    notAhead (anySym ["except", "finally"])
    raiseHere "expected 'except' or 'finally' block") <|>
  (do
    let _ ← sym "try"
    let _ ← sym ":"
    let _ ← many (block g)
    let _ ← many1 (exceptBlock g)
    let t ← sym "except"
    let _ ← sym "*"
    let _ ← expression g
    let _ ← asName
    let _ ← sym ":"
    raiseToken t mixed) <|>
  (do
    let _ ← sym "try"
    let _ ← sym ":"
    let _ ← many (block g)
    let _ ← many1 (exceptStarBlock g)
    let t ← sym "except"
    let _ ← optional (do let _ ← expression g; asName)
    let _ ← sym ":"
    raiseToken t mixed)

def tryStatement (g : Rules) : Parser Stmt :=
  let head : Parser (List Stmt) := do
    let _ ← sym "try"
    let _ ← forced ":"
    block g
  let handled (isStar : Bool) (handler : Parser Handler) : Parser StmtForm := do
    let body ← head
    let handlers ← many1 handler
    let other ← optional (elseBlock g)
    let final ← optional (finallyBlock g)
    return .tryBlock isStar body handlers (other.getD []) (final.getD [])
  diagnosis (badTry g) <|>
  stmtNode (do
    let body ← head
    let final ← finallyBlock g
    return .tryBlock false body [] [] final) <|>
  stmtNode (handled false (exceptBlock g)) <|>
  stmtNode (handled true (exceptStarBlock g))

def matchSubject (g : Rules) : Parser Expr :=
  node (do
    let a ← starNamedExpression g
    let _ ← sym ","
    let more ← optional (starNamedExpressions g)
    return .tuple (a :: more.getD [])) <|>
  namedExpression g

def guard (g : Rules) : Parser Expr := do
  let _ ← sym "if"
  namedExpression g

def caseBlock (g : Rules) : Parser MatchCase :=
  diagnosis (
    (do
      let _ ← soft "case"
      let _ ← patterns g
      let _ ← optional (guard g)
      let _ ← kind .newline
      raiseHere "expected ':'") <|>
    (do
      let t ← soft "case"
      let _ ← patterns g
      let _ ← optional (guard g)
      let _ ← sym ":"
      noBlock
      raiseHere (missingBlock "'case' statement" t))) <|>
  (do
    let _ ← soft "case"
    let p ← patterns g
    let c ← optional (guard g)
    let _ ← sym ":"
    return ⟨p, c, ← block g⟩)

def matchStatement (g : Rules) : Parser Stmt :=
  stmtNode (do
    let _ ← soft "match"
    let e ← matchSubject g
    let _ ← sym ":"
    let _ ← kind .newline
    let _ ← kind .indent
    let cs ← many1 (caseBlock g)
    let _ ← kind .dedent
    return .matchOn e cs) <|>
  diagnosis (
    (do
      let _ ← soft "match"
      let _ ← matchSubject g
      let _ ← kind .newline
      raiseHere "expected ':'") <|>
    (do
      let t ← soft "match"
      let _ ← matchSubject g
      let _ ← sym ":"
      noBlock
      raiseHere (missingBlock "'match' statement" t)))

def compoundStatement (g : Rules) : Parser Stmt :=
  let starting (words : List String) (p : Parser Stmt) : Parser Stmt := do
    ahead (anySym words)
    p
  starting ["def", "@", "async"] (functionDefinition g) <|>
  starting ["if"] (branches g "if") <|>
  starting ["class", "@"] (classDefinition g) <|>
  starting ["with", "async"] (withStatement g) <|>
  starting ["for", "async"] (forStatement g) <|>
  starting ["try"] (tryStatement g) <|>
  starting ["while"] (whileStatement g) <|>
  matchStatement g

def statements (g : Rules) : Parser (List Stmt) := do
  let ss ← many1 ((do return [← compoundStatement g]) <|> simpleStatements g)
  return ss.flatten

end VoiceDebugger.Source
