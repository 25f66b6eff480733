import VoiceDebugger.Source.Tree

/-!
What a module does to names, as a flat list of events.

Scope rules depend on the order in which names are met, and on little else of the tree. The events
stand in that order: a definition's defaults, annotations and decorators belong to the block around
it, the first source of a comprehension too.
-/

namespace VoiceDebugger.Source

/-- The kinds of comprehensions. -/
inductive Shape where
  | list
  | set
  | dict
  | generator
  deriving BEq, DecidableEq, Repr

inductive BlockKind where
  | module
  | function
  | classBody (name : String)
  | comprehension (shape : Shape)
  /-- An annotation that is kept as text. -/
  | typeHint
  deriving BEq, DecidableEq, Repr

/-- What can happen to a name. -/
inductive Mark where
  | use
  | store
  | param
  | imported
  | annotated
  deriving BEq, DecidableEq, Repr

/-- An event for the scope rules. -/
inductive ScopeEvent where
  | mark (how : Mark) (name : String) (place : Span)
  /-- A declaration as global or nonlocal. -/
  | declare (isGlobal : Bool) (name : String) (place : Span)
  /-- An annotation of a plain name. -/
  | annotate (name : String) (place : Span)
  | enter (kind : BlockKind)
  | leave
  /-- The targets of a comprehension begin or end. -/
  | targets (begin : Bool)
  /-- The source of a comprehension begins or ends. -/
  | source (begin : Bool)
  /-- An assignment inside an expression. -/
  | named (name : String) (place target : Span)
  /-- Something that an annotation must not hold. -/
  | notInHint (what : String) (place : Span)
  | yields (place : Span)
  /-- The block can be suspended. -/
  | suspends
  /-- All names of a module are imported. -/
  | importAll (place : Span)
  deriving Repr

def Expr.plainName (e : Expr) : String :=
  match e.form with
  | .name id => id
  | _ => ""

/-- The name that an import binds: the first part of a dotted one. -/
def Alias.bound (a : Alias) : String :=
  let id := a.asName.getD a.name
  String.ofList (id.toList.takeWhile (· != '.'))

/-- The events of parameters as names of a block. -/
def Params.marks (ps : Params) : List ScopeEvent :=
  (ps.positionalOnly ++ ps.positional ++ ps.keywordOnly ++ ps.rest.toList ++
    ps.keywordRest.toList).map fun p => .mark .param p.name p.span

mutual

/-- The events of an expression that is read or, with `store`, assigned or deleted. -/
def Expr.events (store : Bool) : Expr → List ScopeEvent
  | ⟨span, form⟩ => Form.events store span form

def Form.events (store : Bool) (span : Span) : Form → List ScopeEvent
  | .boolOp _ values => listEvents false values
  | .named target value =>
    [.notInHint "named expression" span, .named target.plainName span target.span] ++
      Expr.events false value ++ Expr.events true target
  | .binary left _ right => Expr.events false left ++ Expr.events false right
  | .unary _ operand => Expr.events false operand
  | .lambda ps body =>
    Params.defaultEvents ps ++ [.enter .function] ++ ps.marks ++ Expr.events false body ++ [.leave]
  | .conditional test body orelse =>
    Expr.events false test ++ Expr.events false body ++ Expr.events false orelse
  | .dict entries => keyEvents entries ++ valueEvents entries
  | .set elements => listEvents false elements
  | .listComp element clauses =>
    firstSource clauses ++ [.enter (.comprehension .list)] ++ clauseEvents true clauses ++
      Expr.events false element ++ [.leave]
  | .setComp element clauses =>
    firstSource clauses ++ [.enter (.comprehension .set)] ++ clauseEvents true clauses ++
      Expr.events false element ++ [.leave]
  | .dictComp key value clauses =>
    firstSource clauses ++ [.enter (.comprehension .dict)] ++ clauseEvents true clauses ++
      Expr.events false value ++ Expr.events false key ++ [.leave]
  | .generator element clauses =>
    firstSource clauses ++ [.enter (.comprehension .generator)] ++ clauseEvents true clauses ++
      Expr.events false element ++ [.leave]
  | .awaits value =>
    [.notInHint "await expression" span] ++ Expr.events false value ++ [.suspends]
  | .yields value =>
    [.notInHint "yield expression" span] ++ maybeEvents value ++ [.yields span]
  | .yieldsFrom value =>
    [.notInHint "yield expression" span] ++ Expr.events false value ++ [.yields span]
  | .compare left rest => Expr.events false left ++ operandEvents rest
  | .call function args keywords =>
    Expr.events false function ++ listEvents false args ++ keywordEvents keywords
  | .formatted value spec => Expr.events false value ++ maybeEvents spec
  | .joined values => listEvents false values
  | .constant _ => []
  | .attribute value _ => Expr.events false value
  | .subscript value index => Expr.events false value ++ Expr.events false index
  | .starred value => Expr.events store value
  | .name id => [.mark (if store then .store else .use) id span]
  | .list elements => listEvents store elements
  | .tuple elements => listEvents store elements
  | .slice lower upper step => maybeEvents lower ++ maybeEvents upper ++ maybeEvents step

def listEvents (store : Bool) : List Expr → List ScopeEvent
  | [] => []
  | e :: rest => Expr.events store e ++ listEvents store rest

def maybeEvents : Option Expr → List ScopeEvent
  | none => []
  | some e => Expr.events false e

def keyEvents : List (Option Expr × Expr) → List ScopeEvent
  | [] => []
  | (key, _) :: rest => maybeEvents key ++ keyEvents rest

def valueEvents : List (Option Expr × Expr) → List ScopeEvent
  | [] => []
  | (_, value) :: rest => Expr.events false value ++ valueEvents rest

def operandEvents : List (String × Expr) → List ScopeEvent
  | [] => []
  | (_, operand) :: rest => Expr.events false operand ++ operandEvents rest

def keywordEvents : List Keyword → List ScopeEvent
  | [] => []
  | ⟨_, _, value⟩ :: rest => Expr.events false value ++ keywordEvents rest

/-- The events of the source of the first clause, which belongs to the block around. -/
def firstSource : List Clause → List ScopeEvent
  | [] => []
  | ⟨_, source, _, _⟩ :: _ => [.source true] ++ Expr.events false source ++ [.source false]

/-- The events of clauses inside the block of a comprehension. -/
def clauseEvents (first : Bool) : List Clause → List ScopeEvent
  | [] => []
  | ⟨target, source, conditions, isAsync⟩ :: rest =>
    (if first && isAsync then [.suspends] else []) ++
      [.targets true] ++ Expr.events true target ++ [.targets false] ++
      (if first then [] else [.source true] ++ Expr.events false source ++ [.source false]) ++
      listEvents false conditions ++
      (if !first && isAsync then [.suspends] else []) ++
      clauseEvents false rest

def Params.defaultEvents : Params → List ScopeEvent
  | ⟨_, _, _, _, keywordDefaults, _, defaults⟩ =>
    listEvents false defaults ++ maybeListEvents keywordDefaults

def maybeListEvents : List (Option Expr) → List ScopeEvent
  | [] => []
  | e :: rest => maybeEvents e ++ maybeListEvents rest

end

/-- The events of an annotation; with `late` it is kept as text. -/
def annotationEvents (late : Bool) (e : Expr) : List ScopeEvent :=
  if late then [.enter .typeHint] ++ e.events false ++ [.leave] else e.events false

def Params.annotationEvents (late : Bool) (ps : Params) (result : Option Expr) : List ScopeEvent :=
  let own := (ps.positionalOnly ++ ps.positional ++ ps.rest.toList ++ ps.keywordRest.toList ++
    ps.keywordOnly).flatMap fun p => maybeEvents p.typeHint
  (if late then [.enter .typeHint] ++ own ++ [.leave] else own) ++
    (result.toList.flatMap (Source.annotationEvents late))

mutual

def Pattern.events : Pattern → List ScopeEvent
  | ⟨span, form⟩ => PatternForm.events span form

def PatternForm.events (span : Span) : PatternForm → List ScopeEvent
  | .value value => value.events false
  | .singleton _ => []
  | .sequence patterns => patternEvents patterns
  | .mapping entries rest =>
    (entries.flatMap fun (key, _) => key.events false) ++ entryPatternEvents entries ++
      rest.toList.map fun id => .mark .store id span
  | .classOf type patterns keywords =>
    type.events false ++ patternEvents patterns ++ keywordPatternEvents keywords
  | .star name => name.toList.map fun id => .mark .store id span
  | .capture pattern name =>
    maybePatternEvents pattern ++ name.toList.map fun id => .mark .store id span
  | .choice patterns => patternEvents patterns

def patternEvents : List Pattern → List ScopeEvent
  | [] => []
  | p :: rest => Pattern.events p ++ patternEvents rest

def maybePatternEvents : Option Pattern → List ScopeEvent
  | none => []
  | some p => Pattern.events p

def entryPatternEvents : List (Expr × Pattern) → List ScopeEvent
  | [] => []
  | (_, p) :: rest => Pattern.events p ++ entryPatternEvents rest

def keywordPatternEvents : List (String × Pattern) → List ScopeEvent
  | [] => []
  | (_, p) :: rest => Pattern.events p ++ keywordPatternEvents rest

end

def Alias.events (a : Alias) : List ScopeEvent :=
  if a.asName.getD a.name == "*" then [.importAll a.span] else [.mark .imported a.bound a.span]

def WithItem.events (w : WithItem) : List ScopeEvent :=
  w.context.events false ++ w.target.toList.flatMap (Expr.events true)

mutual

/-- The events of a statement. With `late`, annotations are kept as text. -/
def Stmt.events (late : Bool) : Stmt → List ScopeEvent
  | ⟨span, form⟩ => StmtForm.events late span form

def StmtForm.events (late : Bool) (span : Span) : StmtForm → List ScopeEvent
  | .functionDef isAsync name ps body decorators result =>
    [.mark .store name span] ++ ps.defaultEvents ++ ps.annotationEvents late result ++
      listEvents false decorators ++ [.enter .function] ++
      (if isAsync then [.suspends] else []) ++ ps.marks ++ blockEvents late body ++ [.leave]
  | .classDef name bases keywords body decorators =>
    [.mark .store name span] ++ listEvents false bases ++ keywordEvents keywords ++
      listEvents false decorators ++ [.enter (.classBody name)] ++ blockEvents late body ++ [.leave]
  | .returns value => maybeEvents value
  | .delete targets => listEvents true targets
  | .assign targets value => listEvents true targets ++ value.events false
  | .augAssign target _ value => target.events true ++ value.events false
  | .annAssign target typeHint value simple =>
    (match target.form with
    | .name id =>
      (if simple then [.annotate id span, .mark .annotated id target.span] else []) ++
        (if value.isSome then [.mark .store id target.span] else [])
    | _ => target.events true) ++
      annotationEvents late typeHint ++ maybeEvents value
  | .forLoop _ target source body orelse =>
    target.events true ++ source.events false ++ blockEvents late body ++ blockEvents late orelse
  | .whileLoop test body orelse =>
    test.events false ++ blockEvents late body ++ blockEvents late orelse
  | .ifElse test body orelse =>
    test.events false ++ blockEvents late body ++ blockEvents late orelse
  | .withBlock _ items body => items.flatMap WithItem.events ++ blockEvents late body
  | .matchOn subject cases => subject.events false ++ caseEvents late cases
  | .raises exception cause => maybeEvents exception ++ maybeEvents cause
  | .tryBlock _ body handlers orelse final =>
    blockEvents late body ++ blockEvents late orelse ++ handlerEvents late handlers ++
      blockEvents late final
  | .asserts test message => test.events false ++ maybeEvents message
  | .imports names => names.flatMap Alias.events
  | .importsFrom _ names _ => names.flatMap Alias.events
  | .globals names => names.map fun id => .declare true id span
  | .nonlocals names => names.map fun id => .declare false id span
  | .expression value => value.events false
  | .pass => []
  | .breaks => []
  | .continues => []

def blockEvents (late : Bool) : List Stmt → List ScopeEvent
  | [] => []
  | s :: rest => Stmt.events late s ++ blockEvents late rest

def handlerEvents (late : Bool) : List Handler → List ScopeEvent
  | [] => []
  | ⟨span, type, name, body⟩ :: rest =>
    maybeEvents type ++ (name.toList.map fun id => .mark .store id span) ++
      blockEvents late body ++ handlerEvents late rest

def caseEvents (late : Bool) : List MatchCase → List ScopeEvent
  | [] => []
  | ⟨pattern, guard, body⟩ :: rest =>
    pattern.events ++ maybeEvents guard ++ blockEvents late body ++ caseEvents late rest

end

end VoiceDebugger.Source
