import VoiceDebugger.Source.Tree

/-!
What expressions are called in messages, and which part of a target cannot be assigned.
-/

namespace VoiceDebugger.Source

/-- What an expression is called. -/
def Expr.describe (e : Expr) : String :=
  match e.form with
  | .attribute .. => "attribute"
  | .subscript .. => "subscript"
  | .starred _ => "starred"
  | .name _ => "name"
  | .list _ => "list"
  | .tuple _ => "tuple"
  | .lambda .. => "lambda"
  | .call .. => "function call"
  | .boolOp .. | .binary .. | .unary .. => "expression"
  | .generator .. => "generator expression"
  | .yields _ | .yieldsFrom _ => "yield expression"
  | .awaits _ => "await expression"
  | .listComp .. => "list comprehension"
  | .setComp .. => "set comprehension"
  | .dictComp .. => "dict comprehension"
  | .dict _ => "dict literal"
  | .set _ => "set display"
  | .joined _ | .formatted .. => "f-string expression"
  | .constant .none => "None"
  | .constant (.bool false) => "False"
  | .constant (.bool true) => "True"
  | .constant .ellipsis => "ellipsis"
  | .constant _ => "literal"
  | .compare .. => "comparison"
  | .conditional .. => "conditional expression"
  | .named .. => "named expression"
  | .slice .. => "slice"

inductive TargetUse where
  | assigned
  | deleted
  | looped
  deriving BEq

mutual

/-- The first part of a target that cannot be a target. The head of a loop is read as a comparison
by membership, so there the left side counts. -/
def Expr.badTarget? (use : TargetUse) : Expr → Option Expr
  | ⟨span, form⟩ => Form.badTarget? use span form

/-- The first part of a form that cannot be a target. -/
def Form.badTarget? (use : TargetUse) (span : Span) : Form → Option Expr
  | .list elements => badTargetIn use elements
  | .tuple elements => badTargetIn use elements
  | .starred value =>
    if use == .deleted then some ⟨span, .starred value⟩ else Expr.badTarget? use value
  | .compare left rest =>
    if use == .looped then
      match rest with
      | ("in", _) :: _ => Expr.badTarget? use left
      | _ => none
    else some ⟨span, .compare left rest⟩
  | .name _ | .subscript .. | .attribute .. => none
  | form => some ⟨span, form⟩

/-- The first part of several targets that cannot be a target. -/
def badTargetIn (use : TargetUse) : List Expr → Option Expr
  | [] => none
  | e :: rest =>
    match Expr.badTarget? use e with
    | some bad => some bad
    | none => badTargetIn use rest

end

/-- Names of statements of an older form of the language. -/
def Expr.isOldStatement (e : Expr) : Bool :=
  match e.form with
  | .name "print" => true
  | .name "exec" => true
  | _ => false

end VoiceDebugger.Source
