import VoiceDebugger.Source.Token
import VoiceDebugger.Text.Identifier
import VoiceDebugger.Text.Printable
import VoiceDebugger.Text.Quoted
import VoiceDebugger.Text.Utf8

/-!
From text to tokens.

The scanner walks over what is left of the text. A line is begun only when its first character is
looked at, so at the end of the text the last line is still the current one.
-/

namespace VoiceDebugger.Source

/-- A place in the text: what is left, how many characters came before, the current line, and how
much of the line has been read in bytes and in characters. `fresh` says that the next character
begins a line. `back` counts the bytes of earlier lines that belong to the same unbroken piece of
reading. -/
structure Cursor where
  rest : List Char
  offset : Nat
  line : Nat
  column : Nat
  chars : Nat
  fresh : Bool
  back : Nat

namespace Cursor

/-- The place before the first line. -/
def start (text : List Char) : Cursor :=
  ⟨text, 0, 0, 0, 0, true, 0⟩

/-- Begin the next line if one is due. Within a token (`held`) the bytes of the line that ends are
kept in the count. -/
def enter (held : Bool) (c : Cursor) : Cursor :=
  if c.fresh && !c.rest.isEmpty then
    { c with
      line := c.line + 1, column := 0, chars := 0, fresh := false
      back := if held then c.back + c.column else 0 }
  else c

def peek (held : Bool) (c : Cursor) : Option Char × Cursor :=
  let c := c.enter held
  (c.rest.head?, c)

def next (held : Bool) (c : Cursor) : Option Char × Cursor :=
  let c := c.enter held
  match c.rest with
  | [] => (none, c)
  | ch :: rest =>
    (some ch,
      { c with
        rest := rest, offset := c.offset + 1, column := c.column + Text.byteLength ch
        chars := c.chars + 1, fresh := ch == '\n' })

/-- Read `n` characters of one line. -/
def advance (c : Cursor) : Nat → Cursor
  | 0 => c
  | n + 1 => (c.next true).2.advance n

end Cursor

/-- Characters that may start a word: beyond ASCII all are taken and looked at later. -/
def mayStartWord (c : Char) : Bool :=
  c.isAlpha || c == '_' || c.toNat ≥ 128

def mayContinueWord (c : Char) : Bool :=
  c.isAlphanum || c == '_' || c.toNat ≥ 128

/-! ### Numbers -/

/-- How a number ends: how many characters it takes, or how many were read at the fault and its
message. A fault may also name the start of the number. -/
inductive NumberEnd where
  | taken (n : Nat)
  | fault (n : Nat) (message : String)
  | leadingZeros

/-- Whether `word`, and no longer word, stands at the front. -/
def wordFollows (word : String) (cs : List Char) : Bool :=
  word.toList.isPrefixOf cs &&
    match (cs.drop word.length).head? with
    | some c => !mayContinueWord c
    | none => true

/-- What may follow a number directly: anything but a word, and of the words those operators that
may stand there. -/
def numberEnd (n : Nat) (rest : List Char) (kind : String) : NumberEnd :=
  match rest with
  | [] => .taken n
  | c :: tail =>
    let keywordFollows :=
      match c with
      | 'a' => wordFollows "nd" tail
      | 'e' => wordFollows "lse" tail
      | 'f' => wordFollows "or" tail
      | 'i' =>
        match tail.head? with
        | some c₂ => c₂ == 'f' || c₂ == 'n' || c₂ == 's'
        | none => false
      | 'o' => wordFollows "r" tail
      | 'n' => wordFollows "ot" tail
      | _ => false
    if keywordFollows || !mayContinueWord c then .taken n
    else .fault n s!"invalid {kind} literal"

/-- Decimal digits with single underscores between them; `n` characters were read before. -/
def decimalTail (n : Nat) : List Char → Except Nat (Nat × List Char)
  | [] => .ok (n, [])
  | c :: rest =>
    if c.isDigit then decimalTail (n + 1) rest
    else if c == '_' then
      match rest with
      | d :: _ => if d.isDigit then decimalTail (n + 1) rest else .error (n + 1)
      | [] => .error (n + 1)
    else .ok (n, c :: rest)

/-- Continue with the outcome of `decimalTail`. -/
def withTail (r : Except Nat (Nat × List Char)) (k : Nat → List Char → NumberEnd) : NumberEnd :=
  match r with
  | .ok (n, rest) => k n rest
  | .error n => .fault n "invalid decimal literal"

def afterImaginary (n : Nat) (rest : List Char) : NumberEnd :=
  numberEnd n rest "imaginary"

/-- The last part of a decimal number: an imaginary mark or its end. -/
def afterDecimal (n : Nat) : List Char → NumberEnd
  | [] => .taken n
  | c :: rest =>
    if c == 'j' || c == 'J' then afterImaginary (n + 1) rest
    else numberEnd n (c :: rest) "decimal"

/-- An exponent that may stand here, and what follows it. -/
def afterFraction (n : Nat) : List Char → NumberEnd
  | [] => .taken n
  | c :: rest =>
    if c == 'e' || c == 'E' then
      match rest with
      | s :: tail =>
        if s == '+' || s == '-' then
          match tail with
          | d :: _ =>
            if d.isDigit then withTail (decimalTail (n + 2) tail) afterDecimal
            else .fault (n + 2) "invalid decimal literal"
          | [] => .fault (n + 2) "invalid decimal literal"
        else if s.isDigit then withTail (decimalTail (n + 1) rest) afterDecimal
        else numberEnd n (c :: rest) "decimal"
      | [] => numberEnd n (c :: rest) "decimal"
    else afterDecimal n (c :: rest)

def afterPoint (n : Nat) (rest : List Char) : NumberEnd :=
  match rest with
  | d :: _ => if d.isDigit then withTail (decimalTail n rest) afterFraction else afterFraction n rest
  | [] => afterFraction n rest

def afterWhole (n : Nat) : List Char → NumberEnd
  | '.' :: rest => afterPoint (n + 1) rest
  | rest => afterFraction n rest

/-- Zeros with single underscores at the front of a number. -/
def zeroRun (n : Nat) : List Char → Except Nat (Nat × List Char)
  | [] => .ok (n, [])
  | c :: rest =>
    if c == '0' then zeroRun (n + 1) rest
    else if c == '_' then
      match rest with
      | d :: _ =>
        if d == '0' then zeroRun (n + 1) rest
        else if d.isDigit then .ok (n + 1, rest)
        else .error (n + 1)
      | [] => .error (n + 1)
    else .ok (n, c :: rest)

/-- Digits of another base with single underscores before them. `expected` says that a digit must
come next. -/
def basedDigits (isDigit : Char → Bool) (base : String) (expected : Bool) (n : Nat) :
    List Char → NumberEnd
  | [] => if expected then .fault n s!"invalid {base} literal" else .taken n
  | c :: rest =>
    if isDigit c then basedDigits isDigit base false (n + 1) rest
    else if c == '_' && (!expected || n == 2) then
      match rest with
      | d :: _ =>
        if isDigit d then basedDigits isDigit base false (n + 1) rest
        else if d.isDigit && base != "hexadecimal" then
          .fault (n + 2) s!"invalid digit '{d}' in {base} literal"
        else .fault (n + 1) s!"invalid {base} literal"
      | [] => .fault (n + 1) s!"invalid {base} literal"
    else if c.isDigit && base != "hexadecimal" then
      .fault (n + 1) s!"invalid digit '{c}' in {base} literal"
    else if expected then .fault n s!"invalid {base} literal"
    else numberEnd n (c :: rest) base

def isHexDigit (c : Char) : Bool :=
  c.isDigit || ('a' ≤ c && c ≤ 'f') || ('A' ≤ c && c ≤ 'F')

/-- The extent of the number at the front of a text that starts with a digit, or with a point and a
digit. -/
def scanNumber : List Char → NumberEnd
  | '.' :: rest => afterPoint 1 rest
  | '0' :: c :: rest =>
    if c == 'x' || c == 'X' then basedDigits isHexDigit "hexadecimal" true 2 rest
    else if c == 'o' || c == 'O' then
      basedDigits (fun d => '0' ≤ d && d ≤ '7') "octal" true 2 rest
    else if c == 'b' || c == 'B' then
      basedDigits (fun d => d == '0' || d == '1') "binary" true 2 rest
    else
      withTail (zeroRun 1 (c :: rest)) fun n tail =>
        match tail with
        | d :: _ =>
          if d.isDigit then
            withTail (decimalTail n tail) fun m after =>
              match after with
              | a :: more =>
                if a == '.' then afterPoint (m + 1) more
                else if a == 'e' || a == 'E' then afterFraction m after
                else if a == 'j' || a == 'J' then afterImaginary (m + 1) more
                else .leadingZeros
              | [] => .leadingZeros
          else if d == '.' then afterPoint (n + 1) (tail.drop 1)
          else afterFraction n tail
        | [] => .taken n
  | cs => withTail (decimalTail 0 cs) afterWhole

/-! ### Strings -/

/-- How many letters of a string prefix stand at the front, if a quote follows them. -/
def stringPrefix (b r u f : Bool) (n : Nat) : List Char → Option Nat
  | [] => none
  | c :: rest =>
    if c == '"' || c == '\'' then (if n == 0 then none else some n)
    else if !(b || u || f) && (c == 'b' || c == 'B') then stringPrefix true r u f (n + 1) rest
    else if !(b || u || r || f) && (c == 'u' || c == 'U') then stringPrefix b r true f (n + 1) rest
    else if !(r || u) && (c == 'r' || c == 'R') then stringPrefix b true u f (n + 1) rest
    else if !(f || b || u) && (c == 'f' || c == 'F') then stringPrefix b r u true (n + 1) rest
    else none

/-- Read up to the closing quotes: the cursor behind them, or the one where the text or the line
ended. `size` quotes close the string, and `seen` of them have just been read. -/
def stringBody (quote : Char) (size : Nat) : Nat → Nat → Cursor → Except Cursor Cursor
  | 0, _, c => .error c
  | fuel + 1, seen, c =>
    if seen == size then .ok c
    else
      match c.next true with
      | (none, c) => .error c
      | (some ch, c) =>
        if ch == '\n' && size == 1 then .error c
        else if ch == quote then stringBody quote size fuel (seen + 1) c
        else if ch == '\\' then stringBody quote size fuel 0 (c.next true).2
        else stringBody quote size fuel 0 c

def scanString (fuel : Nat) (quote : Char) (c : Cursor) : Except (Cursor × Nat) Cursor :=
  let body (size : Nat) (c : Cursor) : Except (Cursor × Nat) Cursor :=
    match stringBody quote size fuel 0 c with
    | .ok c => .ok c
    | .error c => .error (c, size)
  let c := (c.next true).2
  match c.rest with
  | a :: b :: _ =>
    if a == quote && b == quote then body 3 (c.advance 2)
    else if a == quote then .ok (c.advance 1)
    else body 1 c
  | [a] => if a == quote then .ok (c.advance 1) else body 1 c
  | [] => body 1 c

/-! ### Operators -/

def operators3 : List String := ["**=", "//=", "<<=", ">>="]

def operators2 : List String :=
  ["!=", "%=", "&=", "**", "*=", "+=", "-=", "->", "//", "/=", ":=", "<<", "<=", "<>", "==", ">=",
    ">>", "@=", "^=", "|="]

def operators1 : List Char :=
  ['%', '&', '(', ')', '*', '+', ',', '-', '.', '/', ':', ';', '<', '=', '>', '@', '[', ']', '^',
    '\x7b', '|', '\x7d', '~']

/-- The operator at the front: its length. -/
def operatorLength (cs : List Char) : Nat :=
  if operators2.any fun o => o.toList.isPrefixOf cs then
    if operators3.any fun o => o.toList.isPrefixOf cs then 3 else 2
  else 1

def closes (opening closing : Char) : Bool :=
  (opening == '(' && closing == ')') || (opening == '[' && closing == ']') ||
    (opening == '\x7b' && closing == '\x7d')

/-! ### Layout and the main loop -/

/-- The scanner between two tokens. The indentations of the open blocks are kept twice, with tabs to
the next multiple of eight and with tabs as one column, innermost first; the outermost is zero. The
size is more than the length of the text and bounds every loop. -/
structure Scanner where
  size : Nat
  cursor : Cursor
  lineStart : Bool
  indents : List (Nat × Nat)
  brackets : List OpenBracket
  blankLine : Bool

/-- The most blocks that may be open, counting the outermost. -/
def maxIndents : Nat := 100

def maxBrackets : Nat := 200

/-- A line end behind a backslash, and the look at the line that follows. -/
def continueLine (held : Bool) (c : Cursor) : Except Stop Cursor :=
  let c := c.enter held
  match c.next held with
  | (some '\n', c) =>
    match c.peek held with
    | (none, c) => .error (.endOfText c.line c.column)
    | (some _, c) => .ok c
  | (_, _) => .error (.afterContinuation c.line (c.back + c.column))

/-- Measure the indentation of a line, both ways, and the place where it ends. A backslash in the
indentation fixes it at what stood before the first one. -/
def measureIndent : Nat → Nat → Nat → Nat → Cursor → Except Stop (Nat × Nat × Cursor)
  | 0, col, alt, _, c => .ok (col, alt, c)
  | fuel + 1, col, alt, fixed, c =>
    match c.peek false with
    | (some ' ', c) => measureIndent fuel (col + 1) (alt + 1) fixed (c.next false).2
    | (some '\t', c) => measureIndent fuel ((col / 8 + 1) * 8) (alt + 1) fixed (c.next false).2
    | (some ch, c) =>
      if ch.toNat == 12 then measureIndent fuel 0 0 fixed (c.next false).2
      else if ch == '\\' then
        match continueLine false (c.next false).2 with
        | .ok c => measureIndent fuel col alt (if fixed == 0 then col else fixed) c
        | .error e => .error e
      else if fixed == 0 then .ok (col, alt, c) else .ok (fixed, fixed, c)
    | (none, c) => if fixed == 0 then .ok (col, alt, c) else .ok (fixed, fixed, c)

def lineEnd : Nat → Cursor → Cursor
  | 0, c => c
  | fuel + 1, c => if c.fresh || c.rest.isEmpty then c else lineEnd fuel (c.next true).2

def layoutToken (kind : TokenKind) (c : Cursor) (level : Nat) : Token :=
  ⟨kind, "", c.line, none, c.line, 0, level, c.column⟩

/-- Compare the indentation of a line with the open blocks: the new blocks and the layout tokens. -/
def applyIndent (size col alt : Nat) (c : Cursor) (indents : List (Nat × Nat)) :
    Except Stop (List (Nat × Nat) × List Token) :=
  match indents with
  | [] => .ok ([], [])
  | (top, topAlt) :: _ =>
    if col == top then
      if alt == topAlt then .ok (indents, []) else .error (.mixedTabs c.line)
    else if col > top then
      if indents.length ≥ maxIndents then .error (.tooDeep c.line)
      else if alt ≤ topAlt then .error (.mixedTabs c.line)
      else .ok ((col, alt) :: indents, [layoutToken .indent c 0])
    else
      let remaining := indents.dropWhile fun i => i.1 > col
      let closed := indents.length - remaining.length
      match remaining with
      | (base, baseAlt) :: _ =>
        if base != col then
          .error (.badDedent c.line (lineEnd size c).column)
        else if baseAlt != alt then .error (.mixedTabs c.line)
        else .ok (remaining, List.replicate closed (layoutToken .dedent c 0))
      | [] => .error (.badDedent c.line (lineEnd size c).column)

def skipSpaces : Nat → Cursor → Cursor
  | 0, c => c
  | fuel + 1, c =>
    match c.peek false with
    | (some ch, c) =>
      if ch == ' ' || ch == '\t' || ch.toNat == 12 then skipSpaces fuel (c.next false).2 else c
    | (none, c) => c

/-- Skip to the line feed that ends the line. -/
def skipComment : Nat → Cursor → Cursor
  | 0, c => c
  | fuel + 1, c =>
    match c.peek true with
    | (some '\n', c) => c
    | (some _, c) => skipComment fuel (c.next true).2
    | (none, c) => c

/-- One step of the scanner: tokens made, the end of the text, or a stop. -/
inductive Step where
  | more (tokens : List Token) (s : Scanner)
  | done (token : Token)
  | stop (reason : Stop) (brackets : List OpenBracket)

/-- The token between two places of one line. -/
def spanToken (kind : TokenKind) (text : List Char) (first last : Cursor) (level : Nat) : Token :=
  ⟨kind, String.ofList text, first.line, some first.column, last.line, last.column, level,
    last.column⟩

/-- A fault at a place: its column counts the characters read on the line. -/
def faultAt (c : Cursor) (message : String) : Stop :=
  .malformed (.exact c.line c.chars) message

/-- The first character of a word that may not stand where it does, by its place in the word. -/
def badWordChar (cs : List Char) : Option (Nat × Char) :=
  match cs with
  | [] => none
  | c :: rest =>
    if !Text.isIdentifierStart c then some (0, c)
    else
      match rest.findIdx? fun d => !Text.isIdentifierPart d with
      | some i => (rest[i]?).map fun d => (i + 1, d)
      | none => none

def codePoint (c : Char) : String :=
  "U+" ++ (String.ofList (Text.hexDigits 4 c.toNat)).toUpper

/-- A word: a name or a reserved word. -/
def wordStep (s : Scanner) (c : Cursor) : Step :=
  let cs := c.rest.takeWhile mayContinueWord
  let last := c.advance cs.length
  let level := s.brackets.length
  let made : Step :=
    let text := String.ofList cs
    let kind := if keywords.contains text then TokenKind.keyword else .name
    .more [spanToken kind cs c last level] { s with cursor := last }
  if cs.all (·.toNat < 128) then made
  else
    match badWordChar cs with
    | none => made
    | some (i, ch) =>
      let place := c.advance (i + 1)
      if Text.isPrintable ch then
        .stop (faultAt place s!"invalid character '{ch}' ({codePoint ch})") s.brackets
      else .stop (faultAt place s!"invalid non-printable character {codePoint ch}") s.brackets

def numberStep (s : Scanner) (c : Cursor) : Step :=
  match scanNumber c.rest with
  | .taken n =>
    let last := c.advance n
    .more [spanToken .number (c.rest.take n) c last s.brackets.length] { s with cursor := last }
  | .fault n message => .stop (faultAt (c.advance n) message) s.brackets
  | .leadingZeros =>
    .stop (.malformed (.exact c.line (c.column + 1))
      ("leading zeros in decimal integer literals are not permitted; " ++
        "use an 0o prefix for octal integers")) s.brackets

/-- A string; `n` prefix letters stand before its quote. -/
def stringStep (s : Scanner) (c : Cursor) (n : Nat) (quote : Char) : Step :=
  match scanString s.size quote (c.advance n) with
  | .ok last =>
    let text := c.rest.take (last.offset - c.offset)
    .more [spanToken .string text c last s.brackets.length] { s with cursor := last }
  | .error (last, size) =>
    let kind := if size == 3 then "triple-quoted string" else "string"
    .stop (.malformed (.exact c.line (c.chars + 1))
      s!"unterminated {kind} literal (detected at line {last.line})") s.brackets

/-- An operator, or a character that no token starts with. -/
def operatorStep (s : Scanner) (c : Cursor) (ch : Char) : Step :=
  let n := operatorLength c.rest
  let last := c.advance n
  let text := c.rest.take n
  let level := s.brackets.length
  if n > 1 then .more [spanToken .operator text c last level] { s with cursor := last }
  else if ch == '(' || ch == '[' || ch == '\x7b' then
    if level ≥ maxBrackets then .stop (faultAt last "too many nested parentheses") s.brackets
    else
      .more [spanToken .operator text c last (level + 1)]
        { s with cursor := last, brackets := ⟨ch, c.line, c.column⟩ :: s.brackets }
  else if ch == ')' || ch == ']' || ch == '\x7d' then
    match s.brackets with
    | [] => .stop (faultAt last s!"unmatched '{ch}'") []
    | o :: outer =>
      if closes o.bracket ch then
        .more [spanToken .operator text c last outer.length]
          { s with cursor := last, brackets := outer }
      else
        let head :=
          s!"closing parenthesis '{ch}' does not match opening parenthesis '{o.bracket}'"
        if o.line == last.line then .stop (faultAt last head) outer
        else .stop (faultAt last (head ++ s!" on line {o.line}")) outer
  else if !Text.isPrintable ch then
    .stop (faultAt last s!"invalid non-printable character {codePoint ch}") s.brackets
  else if operators1.contains ch then
    .more [spanToken .operator text c last level] { s with cursor := last }
  else .more [spanToken .stray text c last level] { s with cursor := last }

def tokenStep (s : Scanner) (c : Cursor) : Step :=
  match c.rest with
  | [] =>
    if s.brackets.isEmpty then .done (layoutToken .finish c 0)
    else .stop (.endOfText c.line c.column) s.brackets
  | ch :: rest =>
    if ch == '#' || ch == '\n' then
      let last := if ch == '#' then skipComment s.size c else c
      match last.next true with
      | (some _, after) =>
        let s' := { s with cursor := after, lineStart := true, blankLine := false }
        if s.blankLine || !s.brackets.isEmpty then .more [] s'
        else
          .more [⟨.newline, "", c.line, some c.column, last.line, last.column, 0, after.column⟩] s'
      | (none, after) =>
        if s.brackets.isEmpty then .done (layoutToken .finish after 0)
        else .stop (.endOfText after.line after.column) s.brackets
    else if mayStartWord ch then
      match stringPrefix false false false false 0 (ch :: rest) with
      | some n =>
        match (ch :: rest)[n]? with
        | some quote => stringStep s c n quote
        | none => wordStep s c
      | none => wordStep s c
    else if ch == '.' then
      match rest with
      | '.' :: '.' :: _ =>
        let last := c.advance 3
        .more [spanToken .operator ['.', '.', '.'] c last s.brackets.length] { s with cursor := last }
      | d :: _ => if d.isDigit then numberStep s c else operatorStep s c ch
      | [] => operatorStep s c ch
    else if ch.isDigit then numberStep s c
    else if ch == '"' || ch == '\'' then stringStep s c 0 ch
    else if ch == '\\' then
      match continueLine true (c.advance 1) with
      | .ok after => .more [] { s with cursor := after }
      | .error e => .stop e s.brackets
    else operatorStep s c ch

/-- One step: at the start of a line its indentation, elsewhere a token. -/
def step (s : Scanner) : Step :=
  if s.lineStart then
    match measureIndent s.size 0 0 0 s.cursor with
    | .error e => .stop e s.brackets
    | .ok (col, alt, c) =>
      let ends := match c.rest with
        | ch :: _ => ch == '#' || ch == '\n'
        | [] => false
      let s := { s with cursor := c, lineStart := false, blankLine := ends }
      if ends || !s.brackets.isEmpty then .more [] s
      else
        match applyIndent s.size col alt c s.indents with
        | .error e => .stop e s.brackets
        | .ok (indents, tokens) => .more tokens { s with indents := indents }
  else tokenStep s (skipSpaces s.size s.cursor)

/-- Run the scanner. Every second step at the latest reads a character, except at the end. -/
def run : Nat → Scanner → Array Token → TokenStream
  | 0, s, tokens => ⟨tokens, none, s.brackets⟩
  | fuel + 1, s, tokens =>
    match step s with
    | .more made s => run fuel s (tokens ++ made.toArray)
    | .done token => ⟨tokens.push token, none, []⟩
    | .stop reason brackets => ⟨tokens, some reason, brackets⟩

/-- The text with a line feed at its end. -/
def closeLastLine (text : List Char) : List Char :=
  if text.getLast? == some '\n' then text else text ++ ['\n']

def tokenize (text : List Char) : TokenStream :=
  let text := closeLastLine text
  let size := text.length + 2
  run (2 * size) ⟨size, Cursor.start text, true, [(0, 0)], [], false⟩ #[]

end VoiceDebugger.Source
