import VoiceDebugger.Source.Grammar.Parser

/-!
The rules through which the grammar refers back to itself.
-/

namespace VoiceDebugger.Source

/-- The recursive rules, by the kind of tree that they make. -/
inductive Rule : Type → Type where
  | expression : Rule Expr
  | disjunction : Rule Expr
  | inversion : Rule Expr
  | bitwiseOr : Rule Expr
  | factor : Rule Expr
  | starExpressions : Rule Expr
  | namedExpression : Rule Expr
  | starNamedExpression : Rule Expr
  | starNamedExpressions : Rule (List Expr)
  | yieldExpression : Rule Expr
  | assignmentExpression : Rule Expr
  | clauses : Rule (List Clause)
  | starTarget : Rule Expr
  | targetWithStarAtom : Rule Expr
  | singleTarget : Rule Expr
  | deleteTarget : Rule Expr
  | annotationTarget : Rule Expr
  | pattern : Rule Pattern
  | maybeStarPattern : Rule Pattern
  | statements : Rule (List Stmt)
  | elifBlock : Rule Stmt

/-- The recursive rules as parsers. -/
abbrev Rules := ∀ {α : Type}, Rule α → Parser α

/-- The numbers under which rules remember what they find. -/
inductive Slot where
  | simpleStatement
  | block
  | expression
  | starExpression
  | disjunction
  | conjunction
  | inversion
  | factor
  | awaitPrimary
  | strings
  | arguments
  | starTarget
  | targetWithStarAtom
  | deleteTarget
  | bitwiseOr
  | bitwiseXor
  | bitwiseAnd
  | shift
  | sum
  | term
  | primary
  | targetPrimary
  | closedPattern
  | starPattern
  | badNamedExpression

def Slot.number (s : Slot) : Nat :=
  s.ctorIdx

end VoiceDebugger.Source
