import VoiceDebugger.Source.Grammar.Expressions

/-!
The rules for the patterns of match statements.
-/

namespace VoiceDebugger.Source

open VoiceDebugger.Source.Parser

/-- A pattern that a form makes, with the span that was read for it. -/
def patternNode (p : Parser PatternForm) : Parser Pattern := do
  let first ← current
  let form ← p
  return ⟨← spanFrom first, form⟩

def signedNumber : Parser Expr :=
  number <|> node (do
    let _ ← sym "-"
    return .unary "-" (← number))

def realNumber : Parser Expr := do
  let e ← number
  match e.form with
  | .constant (.imaginary _) => raiseExpr e "real number required in complex literal"
  | _ => return e

def imaginaryNumber : Parser Expr := do
  let e ← number
  match e.form with
  | .constant (.imaginary _) => return e
  | _ => raiseExpr e "imaginary number required in complex literal"

def complexNumber : Parser Expr :=
  let real := realNumber <|> node (do
    let _ ← sym "-"
    return .unary "-" (← realNumber))
  node (do
    let a ← real
    let _ ← sym "+"
    return .binary a "+" (← imaginaryNumber)) <|>
  node (do
    let a ← real
    let _ ← sym "-"
    return .binary a "-" (← imaginaryNumber))

def plainLiteral (g : Rules) : Parser Expr :=
  (do
    let e ← signedNumber
    notAhead (anySym ["+", "-"])
    return e) <|>
  complexNumber <|>
  strings g

def literalPattern (g : Rules) : Parser Pattern :=
  patternNode (.value <$> plainLiteral g) <|>
  patternNode (do let _ ← sym "None"; return .singleton .none) <|>
  patternNode (do let _ ← sym "True"; return .singleton (.bool true)) <|>
  patternNode (do let _ ← sym "False"; return .singleton (.bool false))

def literalKey (g : Rules) : Parser Expr :=
  plainLiteral g <|> wordConstant "None" .none <|> wordConstant "True" (.bool true) <|>
    wordConstant "False" (.bool false)

/-- The tokens that turn a name into something else than a capture. -/
def captureEnd : Parser Unit :=
  notAhead (anySym [".", "(", "="])

/-- The name that a pattern binds. -/
def captureTarget : Parser String := do
  notAhead (soft "_")
  let (id, _) ← identifier
  captureEnd
  return id

def dottedExpr : Parser Expr :=
  chain name fun e => do
    let _ ← sym "."
    let (id, _) ← identifier
    nodeFrom e.span (.attribute e id)

/-- A name with at least one dot. -/
def attributeExpr : Parser Expr := do
  let e ← dottedExpr
  match e.form with
  | .attribute .. => return e
  | _ => fail

/-- Patterns with commas between, and a comma that may follow. -/
def patternItems (g : Rules) : Parser (List Pattern) := do
  let ps ← sepBy1 (g .maybeStarPattern) (sym ",")
  let _ ← optional (sym ",")
  return ps

def openSequence (g : Rules) : Parser (List Pattern) := do
  let p ← g .maybeStarPattern
  let _ ← sym ","
  let more ← optional (patternItems g)
  return p :: more.getD []

def sequencePattern (g : Rules) : Parser Pattern :=
  patternNode (do
    let _ ← sym "["
    let ps ← optional (patternItems g)
    let _ ← sym "]"
    return .sequence (ps.getD [])) <|>
  patternNode (do
    let _ ← sym "("
    let ps ← optional (openSequence g)
    let _ ← sym ")"
    return .sequence (ps.getD []))

def mappingRest : Parser String := do
  let _ ← sym "**"
  captureTarget

def mappingEntry (g : Rules) : Parser (Expr × Pattern) := do
  let k ← literalKey g <|> attributeExpr
  let _ ← sym ":"
  return (k, ← g .pattern)

def mappingPattern (g : Rules) : Parser Pattern :=
  patternNode (do
    let _ ← sym "\x7b"
    let _ ← sym "\x7d"
    return .mapping [] none) <|>
  patternNode (do
    let _ ← sym "\x7b"
    let r ← mappingRest
    let _ ← optional (sym ",")
    let _ ← sym "\x7d"
    return .mapping [] (some r)) <|>
  patternNode (do
    let _ ← sym "\x7b"
    let es ← sepBy1 (mappingEntry g) (sym ",")
    let _ ← sym ","
    let r ← mappingRest
    let _ ← optional (sym ",")
    let _ ← sym "\x7d"
    return .mapping es (some r)) <|>
  patternNode (do
    let _ ← sym "\x7b"
    let es ← sepBy1 (mappingEntry g) (sym ",")
    let _ ← optional (sym ",")
    let _ ← sym "\x7d"
    return .mapping es none)

def positionalPatterns (g : Rules) : Parser (List Pattern) :=
  sepBy1 (g .pattern) (sym ",")

def keywordPatterns (g : Rules) : Parser (List (String × Pattern)) :=
  sepBy1 (do
    let (id, _) ← identifier
    let _ ← sym "="
    return (id, ← g .pattern)) (sym ",")

def classPattern (g : Rules) : Parser Pattern :=
  patternNode (do
    let c ← dottedExpr
    let _ ← sym "("
    let _ ← sym ")"
    return .classOf c [] []) <|>
  patternNode (do
    let c ← dottedExpr
    let _ ← sym "("
    let ps ← positionalPatterns g
    let _ ← optional (sym ",")
    let _ ← sym ")"
    return .classOf c ps []) <|>
  patternNode (do
    let c ← dottedExpr
    let _ ← sym "("
    let ks ← keywordPatterns g
    let _ ← optional (sym ",")
    let _ ← sym ")"
    return .classOf c [] ks) <|>
  patternNode (do
    let c ← dottedExpr
    let _ ← sym "("
    let ps ← positionalPatterns g
    let _ ← sym ","
    let ks ← keywordPatterns g
    let _ ← optional (sym ",")
    let _ ← sym ")"
    return .classOf c ps ks) <|>
  diagnosis (do
    let _ ← dottedExpr
    let _ ← sym "("
    let _ ← optional (do let _ ← positionalPatterns g; sym ",")
    let _ ← keywordPatterns g
    let _ ← sym ","
    let late ← positionalPatterns g
    match late with
    | p :: _ => raiseSpan p.span "positional patterns follow keyword patterns"
    | [] => fail)

def closedPattern (g : Rules) : Parser Pattern :=
  rememberPattern Slot.closedPattern.number (
    literalPattern g <|>
    patternNode (do return .capture none (some (← captureTarget))) <|>
    patternNode (do let _ ← soft "_"; return .capture none none) <|>
    patternNode (do
      let e ← attributeExpr
      captureEnd
      return .value e) <|>
    (do
      let _ ← sym "("
      let p ← g .pattern
      let _ ← sym ")"
      return p) <|>
    sequencePattern g <|>
    mappingPattern g <|>
    classPattern g)

def orPattern (g : Rules) : Parser Pattern := do
  let first ← current
  let ps ← sepBy1 (closedPattern g) (sym "|")
  match ps with
  | [p] => return p
  | _ => return ⟨← spanFrom first, .choice ps⟩

def pattern (g : Rules) : Parser Pattern :=
  patternNode (do
    let p ← orPattern g
    let _ ← sym "as"
    return .capture (some p) (some (← captureTarget))) <|>
  diagnosis (
    (do
      let _ ← orPattern g
      let _ ← sym "as"
      let t ← soft "_"
      raiseToken t "cannot use '_' as a target") <|>
    (do
      let _ ← orPattern g
      let _ ← sym "as"
      notAhead (kind .name)
      let e ← g .expression
      raiseExpr e "invalid pattern target")) <|>
  orPattern g

def maybeStarPattern (g : Rules) : Parser Pattern :=
  rememberPattern Slot.starPattern.number (
    patternNode (do
      let _ ← sym "*"
      return .star (some (← captureTarget))) <|>
    patternNode (do
      let _ ← sym "*"
      let _ ← soft "_"
      return .star none)) <|>
  pattern g

def patterns (g : Rules) : Parser Pattern :=
  patternNode (.sequence <$> openSequence g) <|> pattern g

end VoiceDebugger.Source
