/-!
The tree of a Python module: expressions, patterns and statements with their places.
-/

namespace VoiceDebugger.Source

/-- Where a node stands. Lines count from one, columns are bytes from zero. -/
structure Span where
  line : Nat
  column : Nat
  endLine : Nat
  endColumn : Nat
  deriving Repr, BEq, DecidableEq, Inhabited

inductive Constant where
  | none
  | bool (value : Bool)
  | ellipsis
  | int (value : Nat)
  | float (value : Float)
  | imaginary (value : Float)
  | str (value : String)
  | bytes (value : List UInt8)
  deriving Repr, BEq, Inhabited

mutual

/-- An expression with its place. -/
structure Expr where
  span : Span
  form : Form

inductive Form where
  | boolOp (conjunction : Bool) (values : List Expr)
  | named (target value : Expr)
  | binary (left : Expr) (op : String) (right : Expr)
  | unary (op : String) (operand : Expr)
  | lambda (params : Params) (body : Expr)
  | conditional (test body orelse : Expr)
  | dict (entries : List (Option Expr × Expr))
  | set (elements : List Expr)
  | listComp (element : Expr) (clauses : List Clause)
  | setComp (element : Expr) (clauses : List Clause)
  | dictComp (key value : Expr) (clauses : List Clause)
  | generator (element : Expr) (clauses : List Clause)
  | awaits (value : Expr)
  | yields (value : Option Expr)
  | yieldsFrom (value : Expr)
  | compare (left : Expr) (rest : List (String × Expr))
  | call (function : Expr) (args : List Expr) (keywords : List Keyword)
  | formatted (value : Expr) (spec : Option Expr)
  | joined (values : List Expr)
  | constant (value : Constant)
  | attribute (value : Expr) (name : String)
  | subscript (value index : Expr)
  | starred (value : Expr)
  | name (id : String)
  | list (elements : List Expr)
  | tuple (elements : List Expr)
  | slice (lower upper step : Option Expr)

/-- The parameters of a function. The defaults belong to the last positional parameters. -/
structure Params where
  positionalOnly : List Param
  positional : List Param
  rest : Option Param
  keywordOnly : List Param
  keywordDefaults : List (Option Expr)
  keywordRest : Option Param
  defaults : List Expr

/-- A parameter with its annotation. -/
structure Param where
  span : Span
  name : String
  typeHint : Option Expr

/-- A keyword argument, or a mapping that is spread out. -/
structure Keyword where
  span : Span
  name : Option String
  value : Expr

structure Clause where
  target : Expr
  source : Expr
  conditions : List Expr
  isAsync : Bool

end

instance : Inhabited Expr := ⟨⟨default, .constant .none⟩⟩

mutual

/-- A pattern of a match statement with its place. -/
structure Pattern where
  span : Span
  form : PatternForm

inductive PatternForm where
  | value (value : Expr)
  | singleton (value : Constant)
  | sequence (patterns : List Pattern)
  | mapping (entries : List (Expr × Pattern)) (rest : Option String)
  | classOf (type : Expr) (patterns : List Pattern) (keywords : List (String × Pattern))
  | star (name : Option String)
  | capture (pattern : Option Pattern) (name : Option String)
  | choice (patterns : List Pattern)

end

instance : Inhabited Pattern := ⟨⟨default, .star none⟩⟩

/-- A name that an import binds, with the name it is known by if another one is given. -/
structure Alias where
  span : Span
  name : String
  asName : Option String
  deriving Repr, BEq, Inhabited

structure WithItem where
  context : Expr
  target : Option Expr

mutual

/-- A statement with its place. -/
structure Stmt where
  span : Span
  form : StmtForm

inductive StmtForm where
  | functionDef (isAsync : Bool) (name : String) (params : Params) (body : List Stmt)
      (decorators : List Expr) (result : Option Expr)
  | classDef (name : String) (bases : List Expr) (keywords : List Keyword) (body : List Stmt)
      (decorators : List Expr)
  | returns (value : Option Expr)
  | delete (targets : List Expr)
  | assign (targets : List Expr) (value : Expr)
  | augAssign (target : Expr) (op : String) (value : Expr)
  | annAssign (target typeHint : Expr) (value : Option Expr) (simple : Bool)
  | forLoop (isAsync : Bool) (target source : Expr) (body orelse : List Stmt)
  | whileLoop (test : Expr) (body orelse : List Stmt)
  | ifElse (test : Expr) (body orelse : List Stmt)
  | withBlock (isAsync : Bool) (items : List WithItem) (body : List Stmt)
  | matchOn (subject : Expr) (cases : List MatchCase)
  | raises (exception cause : Option Expr)
  | tryBlock (isStar : Bool) (body : List Stmt) (handlers : List Handler) (orelse final : List Stmt)
  | asserts (test : Expr) (message : Option Expr)
  | imports (names : List Alias)
  | importsFrom (module : Option String) (names : List Alias) (level : Nat)
  | globals (names : List String)
  | nonlocals (names : List String)
  | expression (value : Expr)
  | pass
  | breaks
  | continues

/-- A handler of a try statement. -/
structure Handler where
  span : Span
  type : Option Expr
  name : Option String
  body : List Stmt

structure MatchCase where
  pattern : Pattern
  guard : Option Expr
  body : List Stmt

end

instance : Inhabited Stmt := ⟨⟨default, .pass⟩⟩

end VoiceDebugger.Source
