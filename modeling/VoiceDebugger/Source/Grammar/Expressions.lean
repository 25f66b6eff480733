import VoiceDebugger.Source.Grammar.Describe
import VoiceDebugger.Source.Grammar.Params
import VoiceDebugger.Source.Grammar.Strings

/-!
The rules for expressions, from atoms up to lists of starred expressions.
-/

namespace VoiceDebugger.Source

open VoiceDebugger.Source.Parser

/-! ### Small pieces -/

def number : Parser Expr := do
  let t ← kind .number
  match numberConstant t.text with
  | .ok c => return ⟨t.span, .constant c⟩
  | .error digits =>
    raiseAt t.line 0 (Number.longIntegerMessage digits ++
      " - Consider hexadecimal for huge integer literals to avoid decimal conversion limits.")

def wordConstant (text : String) (c : Constant) : Parser Expr := do
  let t ← sym text
  return ⟨t.span, .constant c⟩

/-- An expression that no assignment sign follows. -/
def unassigned (g : Rules) : Parser Expr := do
  let e ← g .expression
  notAhead (sym ":=")
  return e

/-- A name with a value given in passing. -/
def assignmentExpression (g : Rules) : Parser Expr :=
  node do
    let target ← name
    let _ ← sym ":="
    return .named target (← g .expression)

/-- An expression, or a name with a value given in passing. -/
def assignmentOrExpression (g : Rules) : Parser Expr :=
  assignmentExpression g <|> unassigned g

/-- A starred expression among arguments and indices. -/
def starredArgument (g : Rules) : Parser Expr :=
  node do
    let _ ← sym "*"
    return .starred (← g .expression)

/-! ### Displays and comprehensions -/

def badComprehension {α : Type} (g : Rules) : Parser α :=
  (do
    let _ ← anySym ["[", "(", "\x7b"]
    let e ← starredArgument g
    let _ ← g .clauses
    raiseExpr e "iterable unpacking cannot be used in comprehension") <|>
  (do
    let _ ← anySym ["[", "\x7b"]
    let e ← g .starNamedExpression
    let _ ← sym ","
    let _ ← g .starNamedExpressions
    let _ ← g .clauses
    raiseExpr e "did you forget parentheses around the comprehension target?") <|>
  (do
    let _ ← anySym ["[", "\x7b"]
    let e ← g .starNamedExpression
    let _ ← sym ","
    let _ ← g .clauses
    raiseExpr e "did you forget parentheses around the comprehension target?")

def listDisplay (g : Rules) : Parser Expr :=
  node do
    let _ ← sym "["
    let es ← optional (g .starNamedExpressions)
    let _ ← sym "]"
    return .list (es.getD [])

def listComprehension (g : Rules) : Parser Expr :=
  node (do
    let _ ← sym "["
    let e ← g .namedExpression
    let cs ← g .clauses
    let _ ← sym "]"
    return .listComp e cs) <|>
  diagnosis (badComprehension g)

def tupleDisplay (g : Rules) : Parser Expr :=
  node do
    let _ ← sym "("
    let es ← optional (do
      let first ← g .starNamedExpression
      let _ ← sym ","
      let more ← optional (g .starNamedExpressions)
      return first :: more.getD [])
    let _ ← sym ")"
    return .tuple (es.getD [])

def group (g : Rules) : Parser Expr :=
  (do
    let _ ← sym "("
    let e ← g .yieldExpression <|> g .namedExpression
    let _ ← sym ")"
    return e) <|>
  diagnosis (
    (do
      let _ ← sym "("
      let e ← starredArgument g
      let _ ← sym ")"
      raiseExpr e "cannot use starred expression here") <|>
    (do
      let _ ← sym "("
      let t ← sym "**"
      let _ ← g .expression
      let _ ← sym ")"
      raiseToken t "cannot use double starred expression here"))

def generator (g : Rules) : Parser Expr :=
  node (do
    let _ ← sym "("
    let e ← assignmentOrExpression g
    let cs ← g .clauses
    let _ ← sym ")"
    return .generator e cs) <|>
  diagnosis (badComprehension g)

def keyValue (g : Rules) : Parser (Option Expr × Expr) := do
  let k ← g .expression
  let _ ← sym ":"
  let v ← g .expression
  return (some k, v)

/-- A key with its value, or a mapping that is spread out. -/
def dictEntry (g : Rules) : Parser (Option Expr × Expr) :=
  (do
    let _ ← sym "**"
    return (none, ← g .bitwiseOr)) <|> keyValue g

/-- Faults behind a key and its colon. -/
def badDictValue {α : Type} (g : Rules) : Parser α :=
  (do
    let _ ← g .expression
    let _ ← sym ":"
    let t ← sym "*"
    let _ ← g .bitwiseOr
    raiseToken t "cannot use a starred expression in a dictionary value") <|>
  (do
    let _ ← g .expression
    let t ← sym ":"
    ahead (anySym ["\x7d", ","])
    raiseToken t "expression expected after dictionary key and ':'")

def badDictEntries {α : Type} (g : Rules) : Parser α :=
  (do
    let _ ← sepBy1 (dictEntry g) (sym ",")
    let _ ← sym ","
    (do
      let k ← g .expression
      notAhead (sym ":")
      raiseAt k.span.line k.span.endColumn "':' expected after dictionary key") <|>
      badDictValue g) <|>
  badDictValue g

/-- A dictionary. The faults of its entries are looked for in both passes. -/
def dictDisplay (g : Rules) : Parser Expr :=
  node (
    (do
      let _ ← sym "\x7b"
      let es ← optional (do
        let es ← sepBy1 (dictEntry g) (sym ",")
        let _ ← optional (sym ",")
        return es)
      let _ ← sym "\x7d"
      return .dict (es.getD [])) <|>
    (do
      let _ ← sym "\x7b"
      badDictEntries g))

def setDisplay (g : Rules) : Parser Expr :=
  node do
    let _ ← sym "\x7b"
    let es ← g .starNamedExpressions
    let _ ← sym "\x7d"
    return .set es

def dictComprehension (g : Rules) : Parser Expr :=
  node (do
    let _ ← sym "\x7b"
    let (k, v) ← keyValue g
    let cs ← g .clauses
    let _ ← sym "\x7d"
    return .dictComp (k.getD v) v cs) <|>
  diagnosis (do
    let _ ← sym "\x7b"
    let t ← sym "**"
    let _ ← g .bitwiseOr
    let _ ← g .clauses
    let _ ← sym "\x7d"
    raiseToken t "dict unpacking cannot be used in dict comprehension")

def setComprehension (g : Rules) : Parser Expr :=
  node (do
    let _ ← sym "\x7b"
    let e ← g .namedExpression
    let cs ← g .clauses
    let _ ← sym "\x7d"
    return .setComp e cs) <|>
  diagnosis (badComprehension g)

def atom (g : Rules) : Parser Expr := do
  let t ← current
  match t.kind with
  | .name => name
  | .string => strings g
  | .number => number
  | .keyword =>
    wordConstant "True" (.bool true) <|> wordConstant "False" (.bool false) <|>
      wordConstant "None" .none
  | .operator =>
    match t.text with
    | "(" => tupleDisplay g <|> group g <|> generator g
    | "[" => listDisplay g <|> listComprehension g
    | "\x7b" => dictDisplay g <|> setDisplay g <|> dictComprehension g <|> setComprehension g
    | "..." => wordConstant "..." .ellipsis
    | _ => fail
  | _ => fail

/-! ### Calls and indices -/

def slice (g : Rules) : Parser Expr :=
  node (do
    let a ← optional (g .expression)
    let _ ← sym ":"
    let b ← optional (g .expression)
    let c ← optional (do let _ ← sym ":"; optional (g .expression))
    return .slice a b (c.bind id)) <|>
  g .namedExpression

/-- What stands between the brackets of a subscript. -/
def slices (g : Rules) : Parser Expr :=
  (do
    let s ← slice g
    notAhead (sym ",")
    return s) <|>
  node (do
    let es ← sepBy1 (slice g <|> starredArgument g) (sym ",")
    let _ ← optional (sym ",")
    return .tuple es)

def badKeyword {α : Type} (g : Rules) : Parser α :=
  (do
    let t ← anySym ["True", "False", "None"]
    let _ ← sym "="
    raiseToken t s!"cannot assign to {t.text}") <|>
  (do
    let a ← name
    let _ ← sym "="
    let _ ← g .expression
    let _ ← g .clauses
    raiseExpr a "invalid syntax. Maybe you meant '==' or ':=' instead of '='?") <|>
  (do
    notAhead (do let _ ← name; sym "=")
    let a ← g .expression
    let _ ← sym "="
    raiseExpr a "expression cannot contain assignment, perhaps you meant \"==\"?")

def namedKeyword (g : Rules) : Parser (Keyword ⊕ Expr) := do
  let first ← current
  let (id, _) ← identifier
  let _ ← sym "="
  let v ← g .expression
  return .inl ⟨← spanFrom first, some id, v⟩

def keywordOrStarred (g : Rules) : Parser (Keyword ⊕ Expr) :=
  diagnosis (badKeyword g) <|> namedKeyword g <|> (Sum.inr <$> starredArgument g)

def keywordOrSpread (g : Rules) : Parser (Keyword ⊕ Expr) :=
  diagnosis (badKeyword g) <|> namedKeyword g <|>
  (do
    let first ← current
    let _ ← sym "**"
    let v ← g .expression
    return .inl ⟨← spanFrom first, none, v⟩)

def keywordArguments (g : Rules) : Parser (List (Keyword ⊕ Expr)) :=
  (do
    let a ← sepBy1 (keywordOrStarred g) (sym ",")
    let _ ← sym ","
    let b ← sepBy1 (keywordOrSpread g) (sym ",")
    return a ++ b) <|>
  sepBy1 (keywordOrStarred g) (sym ",") <|>
  sepBy1 (keywordOrSpread g) (sym ",")

/-- The keyword arguments among several. -/
def keywordsOf (ks : List (Keyword ⊕ Expr)) : List Keyword :=
  ks.filterMap fun | .inl k => some k | .inr _ => none

/-- The starred arguments among several. -/
def starredOf (ks : List (Keyword ⊕ Expr)) : List Expr :=
  ks.filterMap fun | .inl _ => none | .inr e => some e

def positionalArgument (g : Rules) : Parser Expr :=
  starredArgument g <|> (do
    let e ← assignmentOrExpression g
    notAhead (sym "=")
    return e)

/-- Call arguments with their span. -/
structure CallArgs where
  span : Span
  args : List Expr
  keywords : List Keyword

def callArgs (g : Rules) : Parser CallArgs := do
  let first ← current
  (do
    let es ← sepBy1 (positionalArgument g) (sym ",")
    let ks ← optional (do let _ ← sym ","; keywordArguments g)
    let ks := ks.getD []
    return ⟨← spanFrom first, es ++ starredOf ks, keywordsOf ks⟩) <|>
  (do
    let ks ← keywordArguments g
    return ⟨← spanFrom first, starredOf ks, keywordsOf ks⟩)

/-- The message for a generator that needs brackets. -/
def bareGenerator : String :=
  "Generator expression must be parenthesized"

def badArguments {α : Type} (g : Rules) : Parser α :=
  settle (
    (do
      let a ← callArgs g
      let _ ← sym ","
      let _ ← sym "*"
      return some (raiseSpan a.span
        "iterable argument unpacking follows keyword argument unpacking")) <|>
    (do
      let a ← g .expression
      let _ ← g .clauses
      let _ ← sym ","
      let _ ← optional ((do let _ ← callArgs g; return ()) <|> (do
        let _ ← g .expression
        let _ ← g .clauses
        return ()))
      return some (raiseExpr a bareGenerator)) <|>
    (do
      let a ← name
      let _ ← sym "="
      let _ ← g .expression
      let _ ← g .clauses
      return some (raiseExpr a
        "invalid syntax. Maybe you meant '==' or ':=' instead of '='?")) <|>
    (do
      let a ← callArgs g
      let _ ← g .clauses
      match a.args with
      | [] | [_] => return none
      | _ :: _ :: _ => return a.args.getLast?.map fun e => raiseExpr e bareGenerator) <|>
    (do
      let _ ← callArgs g
      let _ ← sym ","
      let a ← g .expression
      let _ ← g .clauses
      return some (raiseExpr a bareGenerator)) <|>
    (do
      let a ← callArgs g
      let _ ← sym ","
      let _ ← callArgs g
      if a.keywords.any (·.name.isNone) then
        return some (raiseHere "positional argument follows keyword argument unpacking")
      else return some (raiseHere "positional argument follows keyword argument")))

/-- Call arguments up to the closing bracket, which is not read. -/
def arguments (g : Rules) : Parser (List Expr × List Keyword) :=
  rememberCall Slot.arguments.number (
    (do
      let a ← callArgs g
      let _ ← optional (sym ",")
      ahead (sym ")")
      return (a.args, a.keywords)) <|>
    diagnosis (badArguments g))

/-- Extend a primary expression by an attribute, a call or a subscript. -/
def extendPrimary (g : Rules) (e : Expr) : Parser Expr :=
  (do
    let _ ← sym "."
    let (id, _) ← identifier
    nodeFrom e.span (.attribute e id)) <|>
  (do
    let a ← generator g
    nodeFrom e.span (.call e [a] [])) <|>
  (do
    let _ ← sym "("
    let a ← optional (arguments g)
    let _ ← sym ")"
    let (args, keywords) := a.getD ([], [])
    nodeFrom e.span (.call e args keywords)) <|>
  (do
    let _ ← sym "["
    let i ← slices g
    let _ ← sym "]"
    nodeFrom e.span (.subscript e i))

def primary (g : Rules) : Parser Expr :=
  rememberExpr Slot.primary.number (chain (atom g) (extendPrimary g))

/-! ### Operators -/

def awaitPrimary (g : Rules) : Parser Expr :=
  rememberExpr Slot.awaitPrimary.number (
    node (do
      let _ ← sym "await"
      return .awaits (← primary g)) <|>
    primary g)

def power (g : Rules) : Parser Expr :=
  node (do
    let a ← awaitPrimary g
    let _ ← sym "**"
    return .binary a "**" (← g .factor)) <|>
  awaitPrimary g

def unary (g : Rules) (op : String) : Parser Expr :=
  node do
    let _ ← sym op
    return .unary op (← g .factor)

def factor (g : Rules) : Parser Expr :=
  rememberExpr Slot.factor.number (unary g "+" <|> unary g "-" <|> unary g "~" <|> power g)

/-- Extend an expression by one of several operators and an operand. -/
def extendBinary (ops : List String) (operand : Parser Expr) (e : Expr) : Parser Expr := do
  let op ← anySym ops
  let r ← operand
  nodeFrom e.span (.binary e op.text r)

def term (g : Rules) : Parser Expr :=
  rememberExpr Slot.term.number
    (chain (factor g) (extendBinary ["*", "/", "//", "%", "@"] (factor g)))

def sum (g : Rules) : Parser Expr :=
  rememberExpr Slot.sum.number (chain (term g) (extendBinary ["+", "-"] (term g)))

def shiftExpression (g : Rules) : Parser Expr :=
  rememberExpr Slot.shift.number (chain (sum g) (extendBinary ["<<", ">>"] (sum g)))

def bitwiseAnd (g : Rules) : Parser Expr :=
  rememberExpr Slot.bitwiseAnd.number
    (chain (shiftExpression g) (extendBinary ["&"] (shiftExpression g)))

def bitwiseXor (g : Rules) : Parser Expr :=
  rememberExpr Slot.bitwiseXor.number (chain (bitwiseAnd g) (extendBinary ["^"] (bitwiseAnd g)))

def bitwiseOr (g : Rules) : Parser Expr :=
  rememberExpr Slot.bitwiseOr.number (chain (bitwiseXor g) (extendBinary ["|"] (bitwiseXor g)))

/-- A comparison operator with its right side. -/
def comparisonPair (g : Rules) : Parser (String × Expr) :=
  let simple (op : String) : Parser (String × Expr) := do
    let _ ← sym op
    return (op, ← bitwiseOr g)
  simple "==" <|> simple "!=" <|> simple "<=" <|> simple "<" <|> simple ">=" <|> simple ">" <|>
  (do
    let _ ← sym "not"
    let _ ← sym "in"
    return ("not in", ← bitwiseOr g)) <|>
  simple "in" <|>
  (do
    let _ ← sym "is"
    let _ ← sym "not"
    return ("is not", ← bitwiseOr g)) <|>
  simple "is"

def comparison (g : Rules) : Parser Expr :=
  node (do
    let a ← bitwiseOr g
    let rest ← many1 (comparisonPair g)
    return .compare a rest) <|>
  bitwiseOr g

def inversion (g : Rules) : Parser Expr :=
  rememberExpr Slot.inversion.number (
    node (do
      let _ ← sym "not"
      return .unary "not" (← g .inversion)) <|>
    comparison g)

def conjunction (g : Rules) : Parser Expr :=
  rememberExpr Slot.conjunction.number (
    node (do
      let a ← inversion g
      let more ← many1 (do let _ ← sym "and"; inversion g)
      return .boolOp true (a :: more)) <|>
    inversion g)

def disjunction (g : Rules) : Parser Expr :=
  rememberExpr Slot.disjunction.number (
    node (do
      let a ← conjunction g
      let more ← many1 (do let _ ← sym "or"; conjunction g)
      return .boolOp false (a :: more)) <|>
    conjunction g)

def lambdaExpression (g : Rules) : Parser Expr :=
  node do
    let _ ← sym "lambda"
    let ps ← optional (params g .lambda)
    let _ ← sym ":"
    return .lambda (ps.getD noParams) (← g .expression)

/-- An expression, without the rules for diagnosis at its head. -/
def goodExpression (g : Rules) : Parser Expr :=
  node (do
    let body ← disjunction g
    let _ ← sym "if"
    let test ← disjunction g
    let _ ← sym "else"
    return .conditional test body (← g .expression)) <|>
  disjunction g <|>
  lambdaExpression g

/-- Two expressions side by side, and a condition without its other branch. -/
def badExpression {α : Type} (g : Rules) : Parser α :=
  settle (
    (do
      notAhead ((do let _ ← name; kind .string) <|>
        take fun t => t.kind == .name && ["_", "case", "match"].contains t.text)
      let a ← disjunction g
      let _ ← plain (goodExpression g)
      if a.isOldStatement then return none
      else
        let level ← fun (i : Input) (s : State) =>
          Outcome.ok (((i.tokens[s.position - 1]?).map Token.level).getD 0) s
        if level == 0 then return none
        else return some (raiseExpr a "invalid syntax. Perhaps you forgot a comma?")) <|>
    (do
      let a ← disjunction g
      let _ ← sym "if"
      let _ ← disjunction g
      notAhead (anySym ["else", ":"])
      return some (raiseExpr a "expected 'else' after 'if' expression")))

/-- A statement of an older form of the language. -/
def oldStatement {α : Type} (g : Rules) : Parser α :=
  settle do
    let a ← name
    notAhead (sym "(")
    let _ ← g .starExpressions
    match a.form with
    | .name id =>
      if a.isOldStatement then
        return some (raiseExpr a
          s!"Missing parentheses in call to '{id}'. Did you mean {id}(...)?")
      else return none
    | _ => return none

def expression (g : Rules) : Parser Expr :=
  rememberExpr Slot.expression.number (
    diagnosis (badExpression g) <|> diagnosis (oldStatement g) <|> goodExpression g)

/-! ### Lists of expressions -/

def starExpression (g : Rules) : Parser Expr :=
  rememberExpr Slot.starExpression.number (
    node (do
      let _ ← sym "*"
      return .starred (← bitwiseOr g)) <|>
    expression g)

def tupleOf (item : Parser Expr) : Parser Expr :=
  node (do
    let a ← item
    let more ← many1 (do let _ ← sym ","; item)
    let _ ← optional (sym ",")
    return .tuple (a :: more)) <|>
  node (do
    let a ← item
    let _ ← sym ","
    return .tuple [a]) <|>
  item

def starExpressions (g : Rules) : Parser Expr :=
  tupleOf (starExpression g)

def expressions (g : Rules) : Parser Expr :=
  tupleOf (expression g)

def yieldExpression (g : Rules) : Parser Expr :=
  node (
    (do
      let _ ← sym "yield"
      let _ ← sym "from"
      return .yieldsFrom (← expression g)) <|>
    (do
      let _ ← sym "yield"
      return .yields (← optional (starExpressions g))))

/-- Faults around a value given in passing. -/
def badNamedExpression (g : Rules) : Parser Expr :=
  rememberExpr Slot.badNamedExpression.number (
    (do
      let a ← expression g
      let _ ← sym ":="
      let _ ← expression g
      raiseExpr a s!"cannot use assignment expressions with {a.describe}") <|>
    (do
      let a ← name
      let _ ← sym "="
      let _ ← bitwiseOr g
      notAhead (anySym ["=", ":="])
      raiseExpr a "invalid syntax. Maybe you meant '==' or ':=' instead of '='?") <|>
    (do
      notAhead (listDisplay g <|> tupleDisplay g <|> generator g <|>
        wordConstant "True" .none <|> wordConstant "None" .none <|> wordConstant "False" .none)
      let a ← bitwiseOr g
      let _ ← sym "="
      let _ ← bitwiseOr g
      notAhead (anySym ["=", ":="])
      raiseExpr a
        s!"cannot assign to {a.describe} here. Maybe you meant '==' instead of '='?"))

/-- An expression that may give a name a value. -/
def namedExpression (g : Rules) : Parser Expr :=
  assignmentExpression g <|> diagnosis (badNamedExpression g) <|> unassigned g

def starNamedExpression (g : Rules) : Parser Expr :=
  node (do
    let _ ← sym "*"
    return .starred (← bitwiseOr g)) <|>
  namedExpression g

def starNamedExpressions (g : Rules) : Parser (List Expr) := do
  let es ← sepBy1 (starNamedExpression g) (sym ",")
  let _ ← optional (sym ",")
  return es

end VoiceDebugger.Source
