import VoiceDebugger.Source.Future
import VoiceDebugger.Source.Walk
import VoiceDebugger.Symbol.Documentation

/-!
The symbols that a module defines.
-/

namespace VoiceDebugger

open Source (Expr Stmt)

inductive SymbolKind where
  | function
  | classType
  | variableName
  | importedName
  deriving Repr, BEq, DecidableEq

def SymbolKind.word : SymbolKind → String
  | .function => "function"
  | .classType => "class"
  | .variableName => "variable"
  | .importedName => "import"

/-- A symbol: what is defined where. -/
structure Symbol where
  name : String
  kind : SymbolKind
  file : String
  line : Nat
  column : Nat
  endLine : Option Nat := none
  signature : Option String := none
  documentation : Option String := none
  deriving Repr, BEq, DecidableEq

def Source.Expr.formName (e : Expr) : String :=
  match e.form with
  | .boolOp .. => "BoolOp"
  | .named .. => "NamedExpr"
  | .binary .. => "BinOp"
  | .unary .. => "UnaryOp"
  | .lambda .. => "Lambda"
  | .conditional .. => "IfExp"
  | .dict _ => "Dict"
  | .set _ => "Set"
  | .listComp .. => "ListComp"
  | .setComp .. => "SetComp"
  | .dictComp .. => "DictComp"
  | .generator .. => "GeneratorExp"
  | .awaits _ => "Await"
  | .yields _ => "Yield"
  | .yieldsFrom _ => "YieldFrom"
  | .compare .. => "Compare"
  | .call .. => "Call"
  | .formatted .. => "FormattedValue"
  | .joined _ => "JoinedStr"
  | .constant _ => "Constant"
  | .attribute .. => "Attribute"
  | .subscript .. => "Subscript"
  | .starred _ => "Starred"
  | .name _ => "Name"
  | .list _ => "List"
  | .tuple _ => "Tuple"
  | .slice .. => "Slice"

/-- How a base class is named: dotted names as they are, other expressions by their form. -/
def baseName : Expr → String
  | ⟨_, .name id⟩ => id
  | ⟨_, .attribute value name⟩ => baseName value ++ "." ++ name
  | e => s!"<ast.{e.formName} object at 0x0>"

def documentationOf (body : List Stmt) : Option String :=
  (Source.docText? body).map Documentation.clean

/-! ### Making symbols -/

def symbolAt (file : String) (at_ : Source.Span) (name : String) (kind : SymbolKind) : Symbol :=
  { name := name, kind := kind, file := file, line := at_.line, column := at_.column }

def functionSymbol (file : String) (at_ : Source.Span) (name : String) (params : Source.Params)
    (body : List Stmt) : Symbol :=
  let args := ", ".intercalate (params.positional.map (·.name))
  { symbolAt file at_ name .function with
    endLine := some at_.endLine
    signature := some s!"def {name}({args})"
    documentation := documentationOf body }

def classSymbol (file : String) (at_ : Source.Span) (name : String) (bases : List Expr)
    (body : List Stmt) : Symbol :=
  let args := ", ".intercalate (bases.map baseName)
  { symbolAt file at_ name .classType with
    endLine := some at_.endLine
    signature := some (if bases.isEmpty then s!"class {name}" else s!"class {name}({args})")
    documentation := documentationOf body }

/-- The name that an expression is, if it is nothing but a name. -/
def Source.Expr.plainName? (e : Expr) : Option String :=
  match e.form with
  | .name id => some id
  | _ => none

def variableSymbol (file : String) (at_ : Source.Span) (name : String) : Symbol :=
  symbolAt file at_ name .variableName

/-- The symbol of a name that an import binds; `words` stand before the imported name. -/
def importSymbol (file : String) (at_ : Source.Span) (words : String) (a : Source.Alias) : Symbol :=
  { symbolAt file at_ (a.asName.getD a.name) .importedName with
    signature := some (words ++ a.name) }

/-! ### Listing symbols -/

/-- What the visit of a statement has in hand: the symbols listed so far, and the one made last. -/
structure Listing where
  symbols : List Symbol
  last : Option Symbol := none

namespace Listing

def make (l : Listing) (x : Symbol) : Listing :=
  { l with last := some x }

/-- Make a symbol and list it at once. -/
def push (l : Listing) (x : Symbol) : Listing :=
  ⟨l.symbols ++ [x], some x⟩

/-- Make and list the symbol of an assignment's target, if it is a plain name. -/
def pushTarget (file : String) (at_ : Source.Span) (l : Listing) (target : Expr) : Listing :=
  match target.plainName? with
  | some id => l.push (variableSymbol file at_ id)
  | none => l

/-- Make the symbols of a statement. Those of assignments and imports are listed at once. -/
def visit (file : String) (l : Listing) (s : Stmt) : Listing :=
  match s.form with
  | .functionDef false name params body _ _ => l.make (functionSymbol file s.span name params body)
  | .classDef name bases _ body _ => l.make (classSymbol file s.span name bases body)
  | .assign targets _ => targets.foldl (pushTarget file s.span) l
  | .imports names =>
    names.foldl (fun l a => l.push (importSymbol file s.span "import " a)) l
  | .importsFrom module_ names _ =>
    let words := "from " ++ module_.getD "None" ++ " import "
    names.foldl (fun l a => l.push (importSymbol file s.span words a)) l
  | _ => l

/-- The symbols at the end of a visit: the one made last is listed unless it is there already. -/
def close (l : Listing) : List Symbol :=
  match l.last with
  | some x => if l.symbols.contains x then l.symbols else l.symbols ++ [x]
  | none => l.symbols

end Listing

/-- Add the symbols of a statement to those of the statements before it. -/
def addSymbols (file : String) (found : List Symbol) (s : Stmt) : List Symbol :=
  (Listing.visit file { symbols := found } s).close

/-- The symbols of a module, in the order of a walk through it. -/
def symbolsOf (file : String) (body : List Stmt) : List Symbol :=
  (Source.walkThrough body).foldl (addSymbols file) []

end VoiceDebugger
