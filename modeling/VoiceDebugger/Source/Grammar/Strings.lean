import VoiceDebugger.Source.Grammar.Passes
import VoiceDebugger.Source.Grammar.Rule
import VoiceDebugger.Source.Literal

/-!
String literals side by side, and the replacement fields of formatted strings.

The expression of a replacement field is parsed on its own, as if it stood in round brackets.
-/

namespace VoiceDebugger.Source

open VoiceDebugger.Source.Parser

/-! ### Literal text between the fields -/

/-- Where literal text ends: the index behind it, the index to go on from, and whether it ends in
the first of two equal braces. -/
structure LiteralEnd where
  past : Nat
  next : Nat
  doubled : Bool

/-- The index behind the next closing brace. -/
def pastBrace (a : Array Char) (stop : Nat) : Nat → Nat → Nat
  | 0, k => k
  | fuel + 1, k =>
    if k < stop then
      if a.getD k ' ' == '\x7d' then k + 1 else pastBrace a stop fuel (k + 1)
    else k

/-- The extent of literal text. Outside a format specification a brace is doubled to stand for
itself, and a closing brace may not stand alone. -/
def literalEnd (a : Array Char) (stop : Nat) (raw nested : Bool) :
    Nat → Nat → Except String LiteralEnd
  | 0, k => .ok ⟨k, k, false⟩
  | fuel + 1, k =>
    if k ≥ stop then .ok ⟨stop, stop, false⟩
    else
      let ch := a.getD k ' '
      let brace (c : Char) (behind : Nat) : Except String LiteralEnd :=
        if c == '\x7b' || c == '\x7d' then
          if !nested && behind < stop && a.getD behind ' ' == c then .ok ⟨behind, behind + 1, true⟩
          else if !nested && c == '\x7d' then .error "f-string: single '\x7d' is not allowed"
          else .ok ⟨behind - 1, behind - 1, false⟩
        else literalEnd a stop raw nested fuel behind
      if !raw && ch == '\\' && k + 1 < stop then
        let escaped := a.getD (k + 1) ' '
        if escaped == 'N' then
          if k + 2 < stop then
            if a.getD (k + 2) ' ' == '\x7b' then
              literalEnd a stop raw nested fuel (pastBrace a stop a.size (k + 3))
            else literalEnd a stop raw nested fuel (k + 3)
          else literalEnd a stop raw nested fuel (k + 2)
        else brace escaped (k + 2)
      else brace ch (k + 1)

/-! ### The end of a field's expression -/

/-- Search for the end of a field's expression. `quote` is the quote of the string that is being
passed, with the number of quotes that close it. -/
def fieldEnd (a : Array Char) (stop : Nat) :
    Nat → Option (Char × Nat) → List Char → Nat → Except String Nat
  | 0, _, _, k => .ok k
  | fuel + 1, quote, brackets, k =>
    if k ≥ stop then
      match quote, brackets with
      | some _, _ => .error "f-string: unterminated string"
      | none, b :: _ => .error s!"f-string: unmatched '{b}'"
      | none, [] => .ok k
    else
      let ch := a.getD k ' '
      let triple := k + 2 < stop && a.getD (k + 1) ' ' == ch && a.getD (k + 2) ' ' == ch
      let skip (n : Nat) := fieldEnd a stop fuel quote brackets (k + n)
      if ch == '\\' then .error "f-string expression part cannot include a backslash"
      else
        match quote with
        | some (q, size) =>
          if ch == q then
            if size == 3 then
              if triple then fieldEnd a stop fuel none brackets (k + 3) else skip 1
            else fieldEnd a stop fuel none brackets (k + 1)
          else skip 1
        | none =>
          if ch == '\'' || ch == '"' then
            if triple then fieldEnd a stop fuel (some (ch, 3)) brackets (k + 3)
            else fieldEnd a stop fuel (some (ch, 1)) brackets (k + 1)
          else if ch == '[' || ch == '\x7b' || ch == '(' then
            if brackets.length ≥ maxBrackets then .error "f-string: too many nested parenthesis"
            else fieldEnd a stop fuel none (ch :: brackets) (k + 1)
          else if ch == '#' then .error "f-string expression part cannot include '#'"
          else if brackets.isEmpty && (ch == '!' || ch == ':' || ch == '\x7d' || ch == '=' ||
              ch == '>' || ch == '<') then
            if k + 1 < stop && a.getD (k + 1) ' ' == '=' &&
                (ch == '!' || ch == '=' || ch == '<' || ch == '>') then skip 2
            else if ch == '>' || ch == '<' then skip 1
            else .ok k
          else if ch == ']' || ch == '\x7d' || ch == ')' then
            match brackets with
            | [] => .error s!"f-string: unmatched '{ch}'"
            | o :: outer =>
              if closes o ch then fieldEnd a stop fuel none outer (k + 1)
              else
                .error (s!"f-string: closing parenthesis '{ch}' does not match " ++
                  s!"opening parenthesis '{o}'")
          else skip 1

/-! ### The expression of a field -/

/-- The blanks that the scanner skips. -/
def isFieldBlank (c : Char) : Bool :=
  c == ' ' || c == '\t' || c == '\n' || c.toNat == 12

/-- The blanks of the ASCII class. -/
def isAsciiBlank (c : Char) : Bool :=
  c == ' ' || (9 ≤ c.toNat && c.toNat ≤ 13)

/-- The number of bytes of some characters. -/
def bytesOf (cs : List Char) : Nat :=
  cs.foldl (fun n c => n + Text.byteLength c) 0

/-- The line and column at which a field stands: lines passed since the start of the token, and
bytes since the start of its line. The column counts as zero if the expression begins on a later
line. -/
def fieldPlace (a : Array Char) (brace : Nat) : Nat × Nat :=
  let before := a.toList.take brace
  let lines := before.count '\n'
  let behind := (a.toList.drop (brace + 1)).dropWhile fun c => isFieldBlank c && c != '\n'
  let column :=
    if behind.head? == some '\n' then 0
    else bytesOf (before.reverse.takeWhile (· != '\n'))
  (lines, column)

/-- Move tokens to the place where their text stands in the source. -/
def moveStream (lines : Nat) (shift : Nat) (t : TokenStream) : Input :=
  let move (k : Token) : Token :=
    if k.endLine == 1 then
      { k with
        line := k.line + lines, endLine := k.endLine + lines
        column := k.column.map (· + shift), endColumn := k.endColumn + shift }
    else { k with line := k.line + lines, endLine := k.endLine + lines }
  let movePlace : Place → Place
    | .bytes l o => .bytes (l + lines) o
    | .exact l c => .exact (l + lines) c
  let moveStop : Stop → Stop
    | .malformed place message => .malformed (movePlace place) message
    | .endOfText l r => .endOfText (l + lines) r
    | .badDedent l r => .badDedent (l + lines) r
    | .mixedTabs l => .mixedTabs (l + lines)
    | .tooDeep l => .tooDeep (l + lines)
    | .afterContinuation l o => .afterContinuation (l + lines) o
  ⟨t.tokens.map move, t.stop.map moveStop,
    t.brackets.map fun b => { b with line := b.line + lines }, some shift⟩

/-- The expression of a field from its opening brace to the character that ends it. -/
def fieldExpression (g : Rules) (t : Token) (a : Array Char) (brace past : Nat) : Parser Expr := do
  let source := (a.toList.drop (brace + 1)).take (past - (brace + 1))
  if source.all isFieldBlank then
    let last := a.getD past ' '
    if last == '!' || last == ':' || last == '=' then
      raiseHere s!"f-string: expression required before '{last}'"
    else raiseHere "f-string: empty expression not allowed"
  else
    let (lines, column) := fieldPlace a brace
    let shift := if lines == 0 then t.column.getD 0 + column else column
    let stream := tokenize ('(' :: source ++ [')'])
    match runPasses (g .starExpressions) (moveStream (t.line + lines - 1) shift stream) with
    | .ok e => return e
    | .error f => raise f

/-- Skip blanks behind the sign that asks for the text of the expression. -/
def skipFieldBlanks (a : Array Char) (stop : Nat) : Nat → Nat → Nat
  | 0, k => k
  | fuel + 1, k =>
    if k < stop && isAsciiBlank (a.getD k ' ') then skipFieldBlanks a stop fuel (k + 1) else k

/-- The index of the brace or colon that ends a conversion. -/
def conversionEnd (a : Array Char) (stop : Nat) : Nat → Nat → Nat
  | 0, k => k
  | fuel + 1, k =>
    if k < stop && a.getD k ' ' != '\x7d' && a.getD k ' ' != ':' then conversionEnd a stop fuel (k + 1)
    else k

/-- Check a conversion, from behind its mark to the character that ends it. -/
def checkConversion (a : Array Char) (first past : Nat) : Parser Unit :=
  let cs := (a.toList.drop first).take (past - first)
  match cs with
  | [] => raiseHere "f-string: invalid conversion character: expected 's', 'r', or 'a'"
  | ['s'] | ['r'] | ['a'] => return ()
  | _ =>
    raiseHere (s!"f-string: invalid conversion character {Text.quoted (String.ofList cs)}: " ++
      "expected 's', 'r', or 'a'")

/-- The fields of a formatted string from an index on, and where they end. Fields may hold fields in
their format specification, one level deep. -/
def fields (g : Rules) (t : Token) (span : Span) (a : Array Char) (stop : Nat) (raw : Bool) :
    Nat → Nat → Nat → Parser (List Expr × Nat)
  | 0, _, k => return ([], k)
  | fuel + 1, depth, k =>
    match literalEnd a stop raw (depth != 0) (a.size + 1) k with
    | .error message => raiseHere message
    | .ok ending => do
      let literal := (a.toList.drop k).take (ending.past - k)
      if !raw then
        match unescapeText literal with
        | .ok _ => pure ()
        | .error f => raiseHere f.message
      if ending.doubled then fields g t span a stop raw fuel depth ending.next
      else if ending.next ≥ stop || a.getD ending.next ' ' == '\x7d' then
        if depth == 0 && ending.next + 1 < stop then raiseHere "f-string: unexpected end of string"
        else if depth != 0 && a.getD ending.next ' ' != '\x7d' then
          raiseHere "f-string: expecting '\x7d'"
        else return ([], ending.next)
      else
        let (value, next) ← field fuel depth ending.next
        let (more, last) ← fields g t span a stop raw fuel depth next
        return (value :: more, last)
where
  /-- The field at an opening brace. -/
  field (fuel depth brace : Nat) : Parser (Expr × Nat) := do
    if depth ≥ 2 then raiseHere "f-string: expressions nested too deeply"
    else
      match fieldEnd a stop (a.size + 1) none [] (brace + 1) with
      | .error message => raiseHere message
      | .ok past =>
        if past ≥ stop then raiseHere "f-string: expecting '\x7d'"
        else
          let value ← fieldExpression g t a brace past
          let k :=
            if a.getD past ' ' == '=' then skipFieldBlanks a stop (a.size + 1) (past + 1) else past
          if k ≥ stop then raiseHere "f-string: expecting '\x7d'"
          else
            let k ← conversion k
            let (spec, k) ← specification fuel depth k
            if k ≥ stop || a.getD k ' ' != '\x7d' then raiseHere "f-string: expecting '\x7d'"
            else return (⟨span, .formatted value spec⟩, k + 1)
  /-- A conversion that may stand at an index, and the index behind it. -/
  conversion (k : Nat) : Parser Nat := do
    if a.getD k ' ' == '!' then
      let past := conversionEnd a stop (a.size + 1) (k + 1)
      if past ≥ stop then raiseHere "f-string: expecting '\x7d'"
      else
        checkConversion a (k + 1) past
        return past
    else return k
  /-- A format specification that may stand at an index, and the index behind it. -/
  specification (fuel depth k : Nat) : Parser (Option Expr × Nat) := do
    if a.getD k ' ' == ':' then
      if k + 1 ≥ stop then raiseHere "f-string: expecting '\x7d'"
      else
        let (values, last) ← fields g t span a stop raw fuel (depth + 1) (k + 1)
        return (some ⟨span, .joined values⟩, last)
    else return (none, k)

/-! ### Strings side by side -/

/-- What has been gathered of strings side by side. -/
structure Gathered where
  isBytes : Option Bool
  text : String
  bytes : List UInt8
  formatted : Bool
  values : List Expr

def gather (g : Rules) (span : Span) (sofar : Gathered) (t : Token) : Parser Gathered := do
  let parts := StringParts.of t.text
  let constant : Option Constant ←
    if parts.isFormatted then pure none
    else
      match stringConstant parts with
      | .ok c => pure (some c)
      | .error (.atToken message) => raiseToken t message
      | .error (.behind message) => raiseHere message
  if sofar.isBytes.any (· != parts.isBytes) then
    raiseHere "cannot mix bytes and nonbytes literals"
  else
    let sofar := { sofar with isBytes := some parts.isBytes }
    match constant with
    | some (.str s) => return { sofar with text := sofar.text ++ s }
    | some (.bytes b) => return { sofar with bytes := sofar.bytes ++ b }
    | some _ => return sofar
    | none =>
      let a := t.text.toList.toArray
      let stop := parts.before + parts.body.length
      let (values, _) ← fields g t span a stop parts.isRaw (a.size + 1) 0 parts.before
      return { sofar with formatted := true, values := sofar.values ++ values }

/-- One or more string literals side by side. -/
def strings (g : Rules) : Parser Expr :=
  rememberExpr Slot.strings.number do
    let first ← current
    let tokens ← many1 (kind .string)
    let span ← spanFrom first
    let all ← tokens.foldlM (gather g span) ⟨none, "", [], false, []⟩
    if all.formatted then return ⟨span, .joined all.values⟩
    else if all.isBytes == some true then return ⟨span, .constant (.bytes all.bytes)⟩
    else return ⟨span, .constant (.str all.text)⟩

end VoiceDebugger.Source
