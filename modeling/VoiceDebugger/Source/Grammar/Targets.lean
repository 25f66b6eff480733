import VoiceDebugger.Source.Grammar.Expressions

/-!
The rules for what can be assigned, deleted and looped over, and the clauses of comprehensions.
-/

namespace VoiceDebugger.Source

open VoiceDebugger.Source.Parser

/-- Raise the fault of a target with a part that cannot be one; fail if there is none. -/
def badTarget {α : Type} (use : TargetUse) (e : Expr) : Parser α :=
  match e.badTarget? use with
  | some bad =>
    let verb := if use == .deleted then "delete" else "assign to"
    raiseExpr bad s!"cannot {verb} {bad.describe}"
  | none => fail

/-- The tokens that go on with a primary expression. -/
def targetGoesOn : Parser Token :=
  anySym ["(", "[", "."]

/-- Extend the primary part of a target; something has to follow. -/
def extendTarget (g : Rules) (e : Expr) : Parser Expr :=
  let going (p : Parser Expr) : Parser Expr := do
    let r ← p
    ahead targetGoesOn
    return r
  going (do
    let _ ← sym "."
    let (id, _) ← identifier
    nodeFrom e.span (.attribute e id)) <|>
  going (do
    let _ ← sym "["
    let i ← slices g
    let _ ← sym "]"
    nodeFrom e.span (.subscript e i)) <|>
  going (do
    let a ← generator g
    nodeFrom e.span (.call e [a] [])) <|>
  going (do
    let _ ← sym "("
    let a ← optional (arguments g)
    let _ ← sym ")"
    let (args, keywords) := a.getD ([], [])
    nodeFrom e.span (.call e args keywords))

/-- The primary part of a target, which is not the whole of it. -/
def targetPrimary (g : Rules) : Parser Expr :=
  rememberExpr Slot.targetPrimary.number (
    chain
      (do
        let a ← atom g
        ahead targetGoesOn
        return a)
      (extendTarget g))

def attributeOrSubscript (g : Rules) : Parser Expr :=
  (do
    let e ← targetPrimary g
    let _ ← sym "."
    let (id, _) ← identifier
    notAhead targetGoesOn
    nodeFrom e.span (.attribute e id)) <|>
  (do
    let e ← targetPrimary g
    let _ ← sym "["
    let i ← slices g
    let _ ← sym "]"
    notAhead targetGoesOn
    nodeFrom e.span (.subscript e i))

/-- A name, or targets in brackets. -/
def starAtom (g : Rules) : Parser Expr :=
  name <|>
  (do
    let _ ← sym "("
    let e ← g .targetWithStarAtom
    let _ ← sym ")"
    return e) <|>
  node (do
    let _ ← sym "("
    let es ← optional (
      (do
        let a ← g .starTarget
        let more ← many1 (do let _ ← sym ","; g .starTarget)
        let _ ← optional (sym ",")
        return a :: more) <|>
      (do
        let a ← g .starTarget
        let _ ← sym ","
        return [a]))
    let _ ← sym ")"
    return .tuple (es.getD [])) <|>
  node (do
    let _ ← sym "["
    let es ← optional (do
      let es ← sepBy1 (g .starTarget) (sym ",")
      let _ ← optional (sym ",")
      return es)
    let _ ← sym "]"
    return .list (es.getD []))

def targetWithStarAtom (g : Rules) : Parser Expr :=
  rememberExpr Slot.targetWithStarAtom.number (attributeOrSubscript g <|> starAtom g)

def starTarget (g : Rules) : Parser Expr :=
  rememberExpr Slot.starTarget.number (
    node (do
      let _ ← sym "*"
      notAhead (sym "*")
      return .starred (← g .starTarget)) <|>
    targetWithStarAtom g)

def starTargets (g : Rules) : Parser Expr :=
  (do
    let a ← starTarget g
    notAhead (sym ",")
    return a) <|>
  node (do
    let a ← starTarget g
    let more ← many (do let _ ← sym ","; starTarget g)
    let _ ← optional (sym ",")
    return .tuple (a :: more))

def singleTarget (g : Rules) : Parser Expr :=
  attributeOrSubscript g <|> name <|>
  (do
    let _ ← sym "("
    let e ← g .singleTarget
    let _ ← sym ")"
    return e)

def deleteTargets (g : Rules) : Parser (List Expr) := do
  let es ← sepBy1 (g .deleteTarget) (sym ",")
  let _ ← optional (sym ",")
  return es

def deleteTarget (g : Rules) : Parser Expr :=
  rememberExpr Slot.deleteTarget.number (
    attributeOrSubscript g <|>
    name <|>
    (do
      let _ ← sym "("
      let e ← g .deleteTarget
      let _ ← sym ")"
      return e) <|>
    node (do
      let _ ← sym "("
      let es ← optional (deleteTargets g)
      let _ ← sym ")"
      return .tuple (es.getD [])) <|>
    node (do
      let _ ← sym "["
      let es ← optional (deleteTargets g)
      let _ ← sym "]"
      return .list (es.getD [])))

def badLoopTarget {α : Type} (g : Rules) : Parser α := do
  let _ ← optional (sym "async")
  let _ ← sym "for"
  let e ← starExpressions g
  badTarget .looped e

def clause (g : Rules) : Parser Clause :=
  let rest (isAsync : Bool) (target : Expr) : Parser Clause := do
    let source ← disjunction g
    let conditions ← many (do let _ ← sym "if"; disjunction g)
    return ⟨target, source, conditions, isAsync⟩
  let head : Parser Expr := do
    let _ ← sym "for"
    let t ← starTargets g
    let _ ← sym "in"
    return t
  commit (do let _ ← sym "async"; head) (rest true)
    (commit head (rest false) (diagnosis (badLoopTarget g)))

def clauses (g : Rules) : Parser (List Clause) :=
  many1 (clause g)

end VoiceDebugger.Source
