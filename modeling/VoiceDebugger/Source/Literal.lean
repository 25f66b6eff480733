import VoiceDebugger.Source.Tree
import VoiceDebugger.Text.CharName
import VoiceDebugger.Text.Quoted
import VoiceDebugger.Text.Utf8
import VoiceDebugger.Json.Reader

/-!
The values of number and string literals.
-/

namespace VoiceDebugger.Source

/-! ### Numbers -/

/-- The value of digits in a base; characters that are no digits are left out by the caller. -/
def digitsIn (base : Nat) (cs : List Char) : Nat :=
  cs.foldl (fun n c => n * base + Text.hexDigitValue c) 0

/-- The double that a decimal literal without underscores writes. -/
def literalFloat (cs : List Char) : Float :=
  (Number.readFloat? (String.ofList cs)).getD 0

/-- The constant that a number token writes; a decimal integer may be too long. -/
def numberConstant (text : String) : Except Nat Constant :=
  let cs := text.toList.filter (· != '_')
  match cs with
  | '0' :: c :: digits =>
    if c == 'x' || c == 'X' then .ok (.int (digitsIn 16 digits))
    else if c == 'o' || c == 'O' then .ok (.int (digitsIn 8 digits))
    else if c == 'b' || c == 'B' then .ok (.int (digitsIn 2 digits))
    else decimal cs
  | _ => decimal cs
where
  decimal (cs : List Char) : Except Nat Constant :=
    if cs.getLast? == some 'j' || cs.getLast? == some 'J' then
      .ok (.imaginary (literalFloat cs.dropLast))
    else if cs.any fun c => c == '.' || c == 'e' || c == 'E' then .ok (.float (literalFloat cs))
    else if cs.length > Number.digitLimit then .error cs.length
    else .ok (.int (digitsIn 10 cs))

/-! ### Escapes in texts -/

/-- Why an escape in a text cannot be read: the bytes it takes, and the reason. Positions count the
text with each character beyond ASCII written as an escape of ten bytes. -/
structure EscapeFault where
  first : Nat
  past : Nat
  reason : String

def EscapeFault.message (f : EscapeFault) : String :=
  if f.past == f.first + 1 then
    "(unicode error) 'unicodeescape' codec can't decode byte 0x5c in position " ++
      s!"{f.first}: {f.reason}"
  else
    "(unicode error) 'unicodeescape' codec can't decode bytes in position " ++
      s!"{f.first}-{f.past - 1}: {f.reason}"

/-- How many bytes a character takes where escapes are read. -/
def escapeWidth (c : Char) : Nat :=
  if c.toNat < 128 then 1 else 10

/-- Exactly `count` hexadecimal digits: their value and what follows, or how many there were. -/
def hexRun (value seen : Nat) : Nat → List Char → Except Nat (Nat × List Char)
  | 0, rest => .ok (value, rest)
  | _ + 1, [] => .error seen
  | count + 1, c :: rest =>
    if Json.unit?.hex? c |>.isSome then
      hexRun (value * 16 + Text.hexDigitValue c) (seen + 1) count rest
    else .error seen

/-- At most `count` octal digits: their value and what follows. -/
def octalRun (value : Nat) : Nat → List Char → Nat × List Char
  | 0, rest => (value, rest)
  | count + 1, c :: rest =>
    if '0' ≤ c ∧ c ≤ '7' then octalRun (value * 8 + (c.toNat - 48)) count rest
    else (value, c :: rest)
  | _ + 1, [] => (value, [])

def simpleEscape? : Char → Option Char
  | '\\' => some '\\'
  | '\'' => some '\''
  | '"' => some '"'
  | 'a' => some (Char.ofNat 7)
  | 'b' => some (Char.ofNat 8)
  | 'f' => some (Char.ofNat 12)
  | 'n' => some '\n'
  | 'r' => some '\r'
  | 't' => some '\t'
  | 'v' => some (Char.ofNat 11)
  | _ => none

/-- How many digits an escape by number takes. -/
def hexCount? : Char → Option (Nat × String)
  | 'x' => some (2, "truncated \\xXX escape")
  | 'u' => some (4, "truncated \\uXXXX escape")
  | 'U' => some (8, "truncated \\UXXXXXXXX escape")
  | _ => none

/-- Read the escapes of a text. The fuel is the length of the text. -/
def unescape : Nat → Nat → List Char → Except EscapeFault (List Char)
  | 0, _, _ => .ok []
  | _ + 1, _, [] => .ok []
  | _ + 1, _, ['\\'] => .ok ['\\']
  | fuel + 1, at_, '\\' :: c :: rest =>
    let next (width : Nat) (out : List Char) (tail : List Char) : Except EscapeFault (List Char) := do
      let more ← unescape fuel (at_ + width) tail
      return out ++ more
    if c.toNat ≥ 128 then next 16 ['\\', c] rest
    else if c == '\n' then next 2 [] rest
    else
      match simpleEscape? c with
      | some e => next 2 [e] rest
      | none =>
        if '0' ≤ c ∧ c ≤ '7' then
          let (value, tail) := octalRun 0 3 (c :: rest)
          next (1 + ((c :: rest).length - tail.length)) [Char.ofNat value] tail
        else
          match hexCount? c with
          | some (count, reason) =>
            match hexRun 0 0 count rest with
            | .ok (value, tail) =>
              if value > 0x10FFFF then .error ⟨at_, at_ + 2 + count, "illegal Unicode character"⟩
              else next (2 + count) [(Code.ofNat value).shown] tail
            | .error seen => .error ⟨at_, at_ + 2 + seen, reason⟩
          | none =>
            if c == 'N' then named at_ rest next
            else next 2 ['\\', c] rest
  | fuel + 1, at_, c :: rest => do
    let more ← unescape fuel (at_ + escapeWidth c) rest
    return c :: more
where
  /-- A character given by its name in braces. -/
  named (at_ : Nat) (rest : List Char)
      (next : Nat → List Char → List Char → Except EscapeFault (List Char)) :
      Except EscapeFault (List Char) :=
    let malformed (past : Nat) : Except EscapeFault (List Char) :=
      .error ⟨at_, past, "malformed \\N character escape"⟩
    match rest with
    | '\x7b' :: tail =>
      let name := tail.takeWhile (· != '\x7d')
      let width := name.foldl (fun n c => n + escapeWidth c) 0
      match tail.dropWhile (· != '\x7d') with
      | [] => malformed (at_ + 3 + width)
      | _ :: after =>
        if name.isEmpty then malformed (at_ + 3)
        else
          match Text.charNamed? (String.ofList name) with
          | some ch => next (4 + width) [ch] after
          | none => .error ⟨at_, at_ + 4 + width, "unknown Unicode character name"⟩
    | _ => malformed (at_ + 2)

def unescapeText (cs : List Char) : Except EscapeFault String :=
  (unescape (cs.length + 1) 0 cs).map String.ofList

/-- Read the escapes of a byte string; a fault is the place of the escape. -/
def unescapeBytes : Nat → Nat → List Char → Except Nat (List UInt8)
  | 0, _, _ => .ok []
  | _ + 1, _, [] => .ok []
  | _ + 1, _, ['\\'] => .ok [92]
  | fuel + 1, at_, '\\' :: c :: rest =>
    let next (width : Nat) (out : List UInt8) (tail : List Char) : Except Nat (List UInt8) := do
      let more ← unescapeBytes fuel (at_ + width) tail
      return out ++ more
    if c == '\n' then next 2 [] rest
    else
      match simpleEscape? c with
      | some e => next 2 [UInt8.ofNat e.toNat] rest
      | none =>
        if '0' ≤ c ∧ c ≤ '7' then
          let (value, tail) := octalRun 0 3 (c :: rest)
          next (1 + ((c :: rest).length - tail.length)) [UInt8.ofNat value] tail
        else if c == 'x' then
          match hexRun 0 0 2 rest with
          | .ok (value, tail) => next 4 [UInt8.ofNat value] tail
          | .error _ => .error at_
        else next 2 [92, UInt8.ofNat c.toNat] rest
  | fuel + 1, at_, c :: rest => do
    let more ← unescapeBytes fuel (at_ + 1) rest
    return UInt8.ofNat c.toNat :: more

/-! ### String tokens -/

/-- A string token taken apart: its prefix letters, and the characters between its quotes with the
number of characters before them. -/
structure StringParts where
  isBytes : Bool
  isRaw : Bool
  isFormatted : Bool
  body : List Char
  before : Nat

/-- Take a string token apart. -/
def StringParts.of (text : String) : StringParts :=
  let cs := text.toList
  let letters := cs.takeWhile fun c => c != '"' && c != '\''
  let has (c : Char) : Bool := letters.any fun l => l.toLower == c
  let quotesAndBody := cs.drop letters.length
  let size :=
    match quotesAndBody with
    | a :: b :: c :: _ => if a == b && b == c then 3 else 1
    | _ => 1
  let inner := quotesAndBody.drop size
  ⟨has 'b', has 'r', has 'f', inner.take (inner.length - size), letters.length + size⟩

/-- Where a fault in a literal is reported: at the token, or behind the last token read. -/
inductive LiteralFault where
  | atToken (message : String)
  | behind (message : String)

def stringConstant (p : StringParts) : Except LiteralFault Constant :=
  if p.isBytes then
    if p.body.any (·.toNat ≥ 128) then
      .error (.atToken "bytes can only contain ASCII literal characters")
    else if p.isRaw then .ok (.bytes (p.body.map fun c => UInt8.ofNat c.toNat))
    else
      match unescapeBytes (p.body.length + 1) 0 p.body with
      | .ok bytes => .ok (.bytes bytes)
      | .error at_ => .error (.behind s!"(value error) invalid \\x escape at position {at_}")
  else if p.isRaw then .ok (.str (String.ofList p.body))
  else
    match unescapeText p.body with
    | .ok s => .ok (.str s)
    | .error f => .error (.behind f.message)

end VoiceDebugger.Source
