import VoiceDebugger.Source.Grammar.Statements

/-!
The grammar of Python modules.

The rules refer back to themselves through `Rule`; the dispatcher below ties the knot. Every path
from a rule back to itself reads a token, so the length of the text bounds the depth.
-/

namespace VoiceDebugger.Source

/-- What a rule stands for, given what the rules stand for. -/
def ruleBody (g : Rules) : {α : Type} → Rule α → Parser α
  | _, .expression => expression g
  | _, .disjunction => disjunction g
  | _, .inversion => inversion g
  | _, .bitwiseOr => bitwiseOr g
  | _, .factor => factor g
  | _, .starExpressions => starExpressions g
  | _, .namedExpression => namedExpression g
  | _, .starNamedExpression => starNamedExpression g
  | _, .starNamedExpressions => starNamedExpressions g
  | _, .yieldExpression => yieldExpression g
  | _, .assignmentExpression => assignmentExpression g
  | _, .clauses => clauses g
  | _, .starTarget => starTarget g
  | _, .targetWithStarAtom => targetWithStarAtom g
  | _, .singleTarget => singleTarget g
  | _, .deleteTarget => deleteTarget g
  | _, .annotationTarget => annotationTarget g
  | _, .pattern => pattern g
  | _, .maybeStarPattern => maybeStarPattern g
  | _, .statements => statements g
  | _, .elifBlock => branches g "elif"

/-- The rules, down to a depth. -/
def rules : Nat → Rules
  | 0 => fun _ => Parser.fail
  | depth + 1 => fun r => ruleBody (rules depth) r

/-- A module: statements up to the end of the text. -/
def moduleRule (g : Rules) : Parser (List Stmt) := do
  let ss ← Parser.optional (g .statements)
  let _ ← Parser.kind .finish
  return ss.getD []

/-- Parse the text of a module. Line ends are line feeds. -/
def parseModule (text : List Char) : Except Fault (List Stmt) :=
  let stream := tokenize text
  let g : Rules := rules (4 * text.length + 64)
  runPasses (moduleRule g) ⟨stream.tokens, stream.stop, stream.brackets, none⟩

end VoiceDebugger.Source
