import Std.Data.HashMap
import VoiceDebugger.Source.Lexer
import VoiceDebugger.Source.Tree
import VoiceDebugger.Text.Compatibility

/-!
Parsers over a token stream, with ordered choice, memory and two kinds of defeat.

A rule either succeeds, fails so that another alternative may be tried, or raises a fault that ends
the whole parse. The rules for diagnosis are switched off in a first pass and on in a second one.
How far the tokens have been looked at is part of the state, since messages without a place of
their own stand at the last token looked at.
-/

namespace VoiceDebugger.Source

/-- A fault in the source: its place and its message, and whether it is the end of the tokens. -/
structure Fault where
  place : Place
  message : String
  ofTokens : Bool := false

/-- What rules remember for a position. -/
inductive Remembered where
  | expr (value : Expr)
  | pattern (value : Pattern)
  | stmt (value : Stmt)
  | block (value : List Stmt)
  | call (args : List Expr) (keywords : List Keyword)

/-- The state of a parser: the current token, how many tokens have been looked at, whether the rules
for diagnosis are on, and what rules have found at a position. -/
structure State where
  position : Nat
  seen : Nat
  diagnosing : Bool
  memory : Std.HashMap Nat (Option (Remembered × Nat))

/-- The tokens to parse. Inside a replacement field of a formatted string, `shift` is the column at
which the field stands; faults are then reported from the start of the field. -/
structure Input where
  tokens : Array Token
  stop : Option Stop
  brackets : List OpenBracket
  shift : Option Nat

/-- How a parser ends. -/
inductive Outcome (α : Type) where
  | ok (value : α) (state : State)
  | fail (state : State)
  | raise (fault : Fault) (state : State)

/-- A parser. -/
def Parser (α : Type) : Type :=
  Input → State → Outcome α

namespace Parser

/-- Succeed without reading. -/
protected def pure {α : Type} (a : α) : Parser α :=
  fun _ s => .ok a s

/-- One parser, then another that depends on its value. -/
protected def bind {α β : Type} (p : Parser α) (f : α → Parser β) : Parser β :=
  fun i s =>
    match p i s with
    | .ok a s => f a i s
    | .fail s => .fail s
    | .raise e s => .raise e s

instance : Monad Parser where
  pure := Parser.pure
  bind := Parser.bind

/-- Fail, so that another alternative is tried. -/
def fail {α : Type} : Parser α :=
  fun _ s => .fail s

/-- The first alternative, or the second one from the same position if the first fails. -/
protected def orElse {α : Type} (p : Parser α) (q : Unit → Parser α) : Parser α :=
  fun i s =>
    let start := s.position
    match p i s with
    | .fail s => q () i { s with position := start }
    | r => r

instance {α : Type} : OrElse (Parser α) := ⟨Parser.orElse⟩

instance {α : Type} : Inhabited (Parser α) := ⟨fail⟩

/-- `first`, and once it has succeeded nothing but what follows it; `other` if it fails. -/
def commit {α β : Type} (first : Parser α) (next : α → Parser β) (other : Parser β) : Parser β :=
  fun i s =>
    let start := s.position
    match first i s with
    | .ok a s => next a i s
    | .fail s => other i { s with position := start }
    | .raise e s => .raise e s

end Parser

/-! ### Faults -/

/-- A fault at a column that counts from one, in bytes. -/
def Input.faultAt (i : Input) (line : Nat) (column : Int) (message : String) : Fault :=
  match i.shift with
  | none => { place := .bytes line column.toNat, message := message }
  | some shift => { place := .exact line (column - shift), message := "f-string: " ++ message }

def Input.openFault (i : Input) (b : OpenBracket) : Fault :=
  i.faultAt b.line (b.column + 1) s!"'{b.bracket}' was never closed"

def Input.faultOfStop (i : Input) : Stop → Fault
  | .malformed place message => { place := place, message := message }
  | .endOfText line reached =>
    match i.brackets with
    | b :: _ => i.openFault b
    | [] => i.faultAt line reached "unexpected EOF while parsing"
  | .badDedent line reached =>
    i.faultAt line reached "unindent does not match any outer indentation level"
  | .mixedTabs line => i.faultAt line 1 "inconsistent use of tabs and spaces in indentation"
  | .tooDeep line => i.faultAt line 1 "too many levels of indentation"
  | .afterContinuation line offset =>
    i.faultAt line (offset + 1) "unexpected character after line continuation character"

/-- The fault that the end of the tokens stands for. -/
def Input.stopFault (i : Input) (stop : Stop) : Fault :=
  { i.faultOfStop stop with ofTokens := true }

/-- The column of a token, from one; zero if it has none. -/
def Token.columnFromOne (t : Token) : Nat :=
  match t.column with
  | some c => c + 1
  | none => 0

def Token.span (t : Token) : Span :=
  ⟨t.line, t.column.getD 0, t.endLine, t.endColumn⟩

namespace Parser

def raise {α : Type} (f : Fault) : Parser α :=
  fun _ s => .raise f s

/-- Raise a fault at a column that counts from one. -/
def raiseAt {α : Type} (line : Nat) (column : Int) (message : String) : Parser α :=
  fun i s => .raise (i.faultAt line column message) s

def raiseToken {α : Type} (t : Token) (message : String) : Parser α :=
  raiseAt t.line t.columnFromOne message

def raiseSpan {α : Type} (at_ : Span) (message : String) : Parser α :=
  raiseAt at_.line (at_.column + 1) message

def raiseExpr {α : Type} (e : Expr) (message : String) : Parser α :=
  raiseSpan e.span message

/-- Raise a fault at the last token that was looked at. A token without a column stands where
reading had come to. -/
def raiseHere {α : Type} (message : String) : Parser α :=
  fun i s =>
    match i.tokens[s.seen - 1]? with
    | some t =>
      match t.column with
      | some c => .raise (i.faultAt t.line (c + 1) message) s
      | none => .raise (i.faultAt t.line t.reached message) s
    | none => .raise (i.faultAt 0 0 message) s

/-! ### Tokens -/

def current : Parser Token :=
  fun i s =>
    match i.tokens[s.position]? with
    | some t => .ok t { s with seen := max s.seen (s.position + 1) }
    | none =>
      match i.stop with
      | some stop => .raise (i.stopFault stop) s
      | none => .fail s

/-- Read the current token if it passes a test. -/
def take (test : Token → Bool) : Parser Token :=
  fun i s =>
    match i.tokens[s.position]? with
    | some t =>
      let seen := max s.seen (s.position + 1)
      if test t then .ok t { s with position := s.position + 1, seen := seen }
      else .fail { s with seen := seen }
    | none =>
      match i.stop with
      | some stop => .raise (i.stopFault stop) s
      | none => .fail s

/-- A reserved word or an operator. -/
def sym (text : String) : Parser Token :=
  take fun t => (t.kind == .operator || t.kind == .keyword) && t.text == text

/-- A name that is a reserved word only in places. -/
def soft (text : String) : Parser Token :=
  take fun t => t.kind == .name && t.text == text

def kind (k : TokenKind) : Parser Token :=
  take fun t => t.kind == k

/-- A reserved word or operator that has to come here. -/
def forced (text : String) : Parser Token := do
  let t ← current
  if (t.kind == .operator || t.kind == .keyword) && t.text == text then sym text
  else raiseToken t s!"expected '{text}'"

def name : Parser Expr := do
  let t ← kind .name
  return ⟨t.span, .name (Text.normalizeName t.text)⟩

def identifier : Parser (String × Span) := do
  let t ← kind .name
  return (Text.normalizeName t.text, t.span)

/-! ### Combinators -/

/-- Succeed without reading if a parser would succeed. -/
def ahead {α : Type} (p : Parser α) : Parser Unit :=
  fun i s =>
    let start := s.position
    match p i s with
    | .ok _ s => .ok () { s with position := start }
    | .fail s => .fail s
    | .raise e s => .raise e s

/-- Succeed without reading if a parser would fail. -/
def notAhead {α : Type} (p : Parser α) : Parser Unit :=
  fun i s =>
    let start := s.position
    match p i s with
    | .ok _ s => .fail s
    | .fail s => .ok () { s with position := start }
    | .raise e s => .raise e s

def optional {α : Type} (p : Parser α) : Parser (Option α) :=
  (some <$> p) <|> return none

/-- As often as possible, at most `fuel` times. -/
def manyFor {α : Type} (p : Parser α) : Nat → Parser (List α)
  | 0 => return []
  | fuel + 1 => (do let a ← p; let more ← manyFor p fuel; return a :: more) <|> return []

/-- The number of tokens bounds every loop. -/
def tokenCount : Parser Nat :=
  fun i s => .ok (i.tokens.size + 1) s

def many {α : Type} (p : Parser α) : Parser (List α) := do
  manyFor p (← tokenCount)

/-- Once or more often. -/
def many1 {α : Type} (p : Parser α) : Parser (List α) := do
  let a ← p
  let more ← many p
  return a :: more

/-- Once or more often with a separator between. -/
def sepBy1 {α β : Type} (p : Parser α) (sep : Parser β) : Parser (List α) := do
  let a ← p
  let more ← many (do let _ ← sep; p)
  return a :: more

/-- A left associative chain: `p`, extended as often as possible. -/
def chainFor {α : Type} (extend : α → Parser α) : Nat → α → Parser α
  | 0, a => return a
  | fuel + 1, a => (do let b ← extend a; chainFor extend fuel b) <|> return a

def chain {α : Type} (p : Parser α) (extend : α → Parser α) : Parser α := do
  let a ← p
  chainFor extend (← tokenCount) a

/-- A rule that is tried only while diagnosing. -/
def diagnosis {α : Type} (p : Parser α) : Parser α :=
  fun i s => if s.diagnosing then p i s else .fail s

/-- A parser with the rules for diagnosis switched off. -/
def plain {α : Type} (p : Parser α) : Parser α :=
  fun i s =>
    let before := s.diagnosing
    match p i { s with diagnosing := false } with
    | .ok a s => .ok a { s with diagnosing := before }
    | .fail s => .fail { s with diagnosing := before }
    | .raise e s => .raise e { s with diagnosing := before }

/-- The last token before a position that is no layout. -/
def lastSolid (tokens : Array Token) : Nat → Option Token
  | 0 => none
  | n + 1 =>
    match tokens[n]? with
    | some t =>
      match t.kind with
      | .newline | .indent | .dedent | .finish => if n == 0 then some t else lastSolid tokens n
      | _ => some t
    | none => none

def spanFrom (first : Token) : Parser Span :=
  fun i s =>
    match lastSolid i.tokens s.position with
    | some t => .ok ⟨first.line, first.column.getD 0, t.endLine, t.endColumn⟩ s
    | none => .ok first.span s

/-- An expression that a form makes, with the span that was read for it. -/
def node (p : Parser Form) : Parser Expr := do
  let first ← current
  let form ← p
  return ⟨← spanFrom first, form⟩

def nodeFrom (start : Span) (form : Form) : Parser Expr :=
  fun i s =>
    match lastSolid i.tokens s.position with
    | some t => .ok ⟨⟨start.line, start.column, t.endLine, t.endColumn⟩, form⟩ s
    | none => .ok ⟨start, form⟩ s

/-- The value of an action that may refuse what was read: the whole rule fails then. -/
def settle {α : Type} (p : Parser (Option (Parser α))) : Parser α := do
  match ← p with
  | some act => act
  | none => fail

/-! ### Memory -/

/-- Remember what a rule finds at a position. Rules have small distinct numbers. -/
def remember {α : Type} (rule : Nat) (wrap : α → Remembered) (unwrap : Remembered → Option α)
    (p : Parser α) : Parser α :=
  fun i s =>
    let key := s.position * 64 + rule
    match s.memory[key]? with
    | some none => .fail s
    | some (some (r, position)) =>
      match unwrap r with
      | some a => .ok a { s with position := position }
      | none => .fail s
    | none =>
      match p i s with
      | .ok a s => .ok a { s with memory := s.memory.insert key (some (wrap a, s.position)) }
      | .fail s => .fail { s with memory := s.memory.insert key none }
      | .raise e s => .raise e s

def rememberExpr (rule : Nat) (p : Parser Expr) : Parser Expr :=
  remember rule .expr (fun | .expr e => some e | _ => none) p

def rememberPattern (rule : Nat) (p : Parser Pattern) : Parser Pattern :=
  remember rule .pattern (fun | .pattern e => some e | _ => none) p

def rememberStmt (rule : Nat) (p : Parser Stmt) : Parser Stmt :=
  remember rule .stmt (fun | .stmt e => some e | _ => none) p

def rememberBlock (rule : Nat) (p : Parser (List Stmt)) : Parser (List Stmt) :=
  remember rule .block (fun | .block e => some e | _ => none) p

def rememberCall (rule : Nat) (p : Parser (List Expr × List Keyword)) :
    Parser (List Expr × List Keyword) :=
  remember rule (fun (a, k) => .call a k) (fun | .call a k => some (a, k) | _ => none) p

end Parser

end VoiceDebugger.Source
