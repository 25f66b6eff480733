import VoiceDebugger.Source.Grammar.Rule

/-!
The parameters of functions and of lambda expressions.

Both follow the same rules; they differ in the annotations and in the token that closes the list.
-/

namespace VoiceDebugger.Source

open VoiceDebugger.Source.Parser

/-- The two kinds of parameter lists. -/
inductive ParamStyle where
  | function
  | lambda
  deriving BEq, DecidableEq

/-- The token behind the last parameter. -/
def ParamStyle.closer : ParamStyle → String
  | .function => ")"
  | .lambda => ":"

def anySym (texts : List String) : Parser Token :=
  take fun t => (t.kind == .operator || t.kind == .keyword) && texts.contains t.text

/-- A parameter without its comma. -/
def param (g : Rules) (style : ParamStyle) : Parser Param := do
  let first ← current
  let (id, _) ← identifier
  let typeHint ← match style with
    | .function => optional (do let _ ← sym ":"; g .expression)
    | .lambda => pure none
  return ⟨← spanFrom first, id, typeHint⟩

/-- A parameter whose annotation may be spread out. -/
def starParam (g : Rules) : Parser Param := do
  let first ← current
  let (id, _) ← identifier
  let _ ← sym ":"
  let typeHint ←
    node (do
      let _ ← sym "*"
      return .starred (← g .bitwiseOr)) <|> g .expression
  return ⟨← spanFrom first, id, some typeHint⟩

/-- The comma behind a parameter, or the token that closes the list, which is not read. -/
def paramEnd (style : ParamStyle) : Parser Unit :=
  (do let _ ← sym ","; return ()) <|> ahead (sym style.closer)

/-- A parameter without a default. -/
def plainParam (g : Rules) (style : ParamStyle) : Parser Param := do
  let p ← param g style
  paramEnd style
  return p

def defaultValue (g : Rules) : Parser Expr :=
  (do let _ ← sym "="; g .expression) <|>
    diagnosis (do
      let t ← sym "="
      ahead (anySym [")", ","])
      raiseToken t "expected default value expression")

def defaultParam (g : Rules) (style : ParamStyle) : Parser (Param × Expr) := do
  let p ← param g style
  let d ← defaultValue g
  paramEnd style
  return (p, d)

def maybeDefaultParam (g : Rules) (style : ParamStyle) : Parser (Param × Option Expr) := do
  let p ← param g style
  let d ← optional (defaultValue g)
  paramEnd style
  return (p, d)

def slash (style : ParamStyle) : Parser Unit := do
  let _ ← sym "/"
  paramEnd style

/-- Positional parameters without defaults and a slash. -/
def slashPlain (g : Rules) (style : ParamStyle) : Parser (List Param) := do
  let ps ← many1 (plainParam g style)
  slash style
  return ps

/-- Positional parameters, the last of them with defaults, and a slash. -/
def slashDefault (g : Rules) (style : ParamStyle) : Parser (List Param × List (Param × Expr)) := do
  let ps ← many (plainParam g style)
  let ds ← many1 (defaultParam g style)
  slash style
  return (ps, ds)

/-- What may follow the positional parameters. -/
structure StarParams where
  rest : Option Param
  keywordOnly : List (Param × Option Expr)
  keywordRest : Option Param

/-- Faults behind two stars. -/
def badKeywordRest {α : Type} (g : Rules) (style : ParamStyle) : Parser α :=
  (do
    let _ ← sym "**"
    let _ ← param g style
    let t ← sym "="
    raiseToken t "var-keyword argument cannot have default value") <|>
  (do
    let _ ← sym "**"
    let _ ← param g style
    let _ ← sym ","
    let p ← param g style
    raiseSpan p.span "arguments cannot follow var-keyword argument") <|>
  (do
    let _ ← sym "**"
    let _ ← param g style
    let _ ← sym ","
    let t ← anySym ["*", "**", "/"]
    raiseToken t "arguments cannot follow var-keyword argument")

/-- The parameter behind two stars. -/
def keywordRest (g : Rules) (style : ParamStyle) : Parser Param :=
  diagnosis (badKeywordRest g style) <|> (do let _ ← sym "**"; plainParam g style)

def badStarParams {α : Type} (g : Rules) (style : ParamStyle) : Parser α :=
  (do
    let t ← sym "*"
    let _ ← sym style.closer <|> (do
      let _ ← sym ","
      anySym [style.closer, "**"])
    match style with
    | .function => raiseToken t "named arguments must follow bare *"
    | .lambda => raiseHere "named arguments must follow bare *") <|>
  (do
    let _ ← sym "*"
    let _ ← param g style
    let t ← sym "="
    raiseToken t "var-positional argument cannot have default value") <|>
  (do
    let _ ← sym "*"
    (do let _ ← plainParam g style; return ()) <|> (do let _ ← sym ","; return ())
    let _ ← many (maybeDefaultParam g style)
    let t ← sym "*"
    (do let _ ← plainParam g style; return ()) <|> (do let _ ← sym ","; return ())
    raiseToken t "* argument may appear only once")

def starParams (g : Rules) (style : ParamStyle) : Parser StarParams :=
  diagnosis (badStarParams g style) <|>
  (do
    let _ ← sym "*"
    let p ← plainParam g style
    let ks ← many (maybeDefaultParam g style)
    let r ← optional (keywordRest g style)
    return ⟨some p, ks, r⟩) <|>
  (match style with
    | .function => do
      let _ ← sym "*"
      let p ← starParam g
      paramEnd style
      let ks ← many (maybeDefaultParam g style)
      let r ← optional (keywordRest g style)
      return ⟨some p, ks, r⟩
    | .lambda => fail) <|>
  (do
    let _ ← sym "*"
    let _ ← sym ","
    let ks ← many1 (maybeDefaultParam g style)
    let r ← optional (keywordRest g style)
    return ⟨none, ks, r⟩) <|>
  (do
    let r ← keywordRest g style
    return ⟨none, [], some r⟩)

/-- Put parameters together. -/
def makeParams (positionalOnly plain : List Param) (onlyDefaults withDefaults : List (Param × Expr))
    (star : Option StarParams) : Params where
  positionalOnly := positionalOnly ++ onlyDefaults.map (·.1)
  positional := plain ++ withDefaults.map (·.1)
  rest := star.bind (·.rest)
  keywordOnly := (star.map fun s => s.keywordOnly.map (·.1)).getD []
  keywordDefaults := (star.map fun s => s.keywordOnly.map (·.2)).getD []
  keywordRest := star.bind (·.keywordRest)
  defaults := onlyDefaults.map (·.2) ++ withDefaults.map (·.2)

def noParams : Params :=
  makeParams [] [] [] [] none

/-- Parameters without a fault. -/
def goodParams (g : Rules) (style : ParamStyle) : Parser Params :=
  (do
    let a ← slashPlain g style
    let b ← many (plainParam g style)
    let c ← many (defaultParam g style)
    let d ← optional (starParams g style)
    return makeParams a b [] c d) <|>
  (do
    let (a, d) ← slashDefault g style
    let b ← many (defaultParam g style)
    let c ← optional (starParams g style)
    return makeParams a [] d b c) <|>
  (do
    let a ← many1 (plainParam g style)
    let b ← many (defaultParam g style)
    let c ← optional (starParams g style)
    return makeParams [] a [] b c) <|>
  (do
    let a ← many1 (defaultParam g style)
    let b ← optional (starParams g style)
    return makeParams [] [] [] a b) <|>
  (do
    let a ← starParams g style
    return makeParams [] [] [] [] (some a))

/-- Parameters up to a slash, of either kind. -/
def anySlash (g : Rules) (style : ParamStyle) : Parser Unit :=
  (do let _ ← slashPlain g style; return ()) <|> (do let _ ← slashDefault g style; return ())

/-- Faults in a parameter list. -/
def badParams {α : Type} (g : Rules) (style : ParamStyle) : Parser α :=
  (do
    let _ ← many (plainParam g style)
    (do let _ ← slashDefault g style; return ()) <|>
      (do let _ ← many1 (defaultParam g style); return ())
    let p ← plainParam g style
    raiseSpan p.span "non-default argument follows default argument") <|>
  (match style with
    | .function => do
      let _ ← many (plainParam g style)
      let t ← sym "("
      let _ ← many1 (plainParam g style)
      let _ ← optional (sym ",")
      let _ ← sym ")"
      raiseToken t "Function parameters cannot be parenthesized"
    | .lambda => do
      let _ ← many (plainParam g style)
      let t ← sym "("
      let _ ← sepBy1 (param g style) (sym ",")
      let _ ← optional (sym ",")
      let _ ← sym ")"
      raiseToken t "Lambda expression parameters cannot be parenthesized") <|>
  (do
    let t ← sym "/"
    let _ ← sym ","
    raiseToken t "at least one argument must precede /") <|>
  (do
    anySlash g style
    let _ ← many (maybeDefaultParam g style)
    let t ← sym "/"
    raiseToken t "/ may appear only once") <|>
  (do
    let _ ← optional (anySlash g style)
    let _ ← many (maybeDefaultParam g style)
    let _ ← sym "*"
    (do let _ ← sym ","; return ()) <|> (do let _ ← plainParam g style; return ())
    let _ ← many (maybeDefaultParam g style)
    let t ← sym "/"
    raiseToken t "/ must be ahead of *") <|>
  (do
    let _ ← many1 (maybeDefaultParam g style)
    let _ ← sym "/"
    let t ← sym "*"
    raiseToken t "expected comma between / and *")

def params (g : Rules) (style : ParamStyle) : Parser Params :=
  diagnosis (badParams g style) <|> goodParams g style

end VoiceDebugger.Source
