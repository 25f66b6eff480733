import VoiceDebugger.Json.Basic
import VoiceDebugger.Number.Read

/-!
Reading values from text, with the place of the first fault.

Besides the standard forms the words `NaN`, `Infinity` and `-Infinity` are read. A name that comes
twice in an object keeps its first place and its last value.
-/

namespace VoiceDebugger.Json

/-- Why a text is no value. -/
inductive ReadCause where
  | expectedValue
  | expectedName
  | expectedColon
  | expectedComma
  | extraData
  | unterminated
  | badEscape
  | badUnit
  | controlCharacter
  | byteOrderMark
  deriving Repr, BEq, DecidableEq

def ReadCause.message : ReadCause → String
  | .expectedValue => "Expecting value"
  | .expectedName => "Expecting property name enclosed in double quotes"
  | .expectedColon => "Expecting ':' delimiter"
  | .expectedComma => "Expecting ',' delimiter"
  | .extraData => "Extra data"
  | .unterminated => "Unterminated string starting at"
  | .badEscape => "Invalid \\escape"
  | .badUnit => "Invalid \\uXXXX escape"
  | .controlCharacter => "Invalid control character at"
  | .byteOrderMark => "Unexpected UTF-8 BOM (decode using utf-8-sig)"

/-- A fault: a cause with what was left of the text there, or an integer that is too long. -/
inductive ReadFault where
  | at (cause : ReadCause) (rest : List Char)
  | longInteger (digits : Nat)

/-- The wording of a fault in a text: the place is given as line, column and offset. -/
def ReadFault.message (text : List Char) : ReadFault → String
  | .longInteger digits => Number.longIntegerMessage digits
  | .at cause rest =>
    let offset := text.length - rest.length
    let before := text.take offset
    let line := before.count '\n' + 1
    let column := (before.reverse.takeWhile (· != '\n')).length + 1
    s!"{cause.message}: line {line} column {column} (char {offset})"

/-- The characters between tokens. -/
def isSpace (c : Char) : Bool :=
  c == ' ' || c == '\t' || c == '\n' || c == '\r'

def skipSpace (cs : List Char) : List Char :=
  cs.dropWhile isSpace

/-- The value of four hexadecimal digits. -/
def unit? (a b c d : Char) : Option Nat := do
  let a ← hex? a
  let b ← hex? b
  let c ← hex? c
  let d ← hex? d
  return ((a * 16 + b) * 16 + c) * 16 + d
where
  hex? (c : Char) : Option Nat :=
    if c.isDigit then some (c.toNat - 48)
    else if 'a' ≤ c ∧ c ≤ 'f' then some (c.toNat - 87)
    else if 'A' ≤ c ∧ c ≤ 'F' then some (c.toNat - 55)
    else none

/-- The character of a one-letter escape. -/
def escaped? : Char → Option Char
  | '"' => some '"'
  | '\\' => some '\\'
  | '/' => some '/'
  | 'b' => some (Char.ofNat 8)
  | 'f' => some (Char.ofNat 12)
  | 'n' => some '\n'
  | 'r' => some '\r'
  | 't' => some '\t'
  | _ => none

/-- The rest of a text behind its opening quote: its code points, and what follows the closing
quote. `start` is the text from its opening quote on. -/
def readText (start : List Char) : List Char → Except ReadFault (List Code × List Char)
  | [] => .error (.at .unterminated start)
  | '"' :: rest => .ok ([], rest)
  | ['\\'] => .error (.at .unterminated start)
  | '\\' :: 'u' :: tail =>
    match tail with
    | a :: b :: c :: d :: next :: rest =>
      match unit? a b c d with
      | none => .error (.at .badUnit ('u' :: tail))
      | some high =>
        match next, rest with
        | '\\', 'u' :: e :: f :: g :: h :: after :: more =>
          if 0xD800 ≤ high ∧ high ≤ 0xDBFF then
            match unit? e f g h with
            | none => .error (.at .badUnit ('u' :: e :: f :: g :: h :: after :: more))
            | some low =>
              if 0xDC00 ≤ low ∧ low ≤ 0xDFFF then do
                let (cs, rest') ← readText start (after :: more)
                return (Code.ofNat (0x10000 + (high - 0xD800) * 1024 + (low - 0xDC00)) :: cs, rest')
              else do
                let (cs, rest') ← readText start ('\\' :: 'u' :: e :: f :: g :: h :: after :: more)
                return (Code.ofNat high :: cs, rest')
          else do
            let (cs, rest') ← readText start ('\\' :: 'u' :: e :: f :: g :: h :: after :: more)
            return (Code.ofNat high :: cs, rest')
        | next, rest => do
          let (cs, rest') ← readText start (next :: rest)
          return (Code.ofNat high :: cs, rest')
    | _ => .error (.at .badUnit ('u' :: tail))
  | '\\' :: c :: rest =>
    match escaped? c with
    | none => .error (.at .badEscape ('\\' :: c :: rest))
    | some e => do
      let (cs, rest') ← readText start rest
      return (Code.ofChar e :: cs, rest')
  | c :: rest =>
    if c.toNat < 32 then .error (.at .controlCharacter (c :: rest))
    else do
      let (cs, rest') ← readText start rest
      return (Code.ofChar c :: cs, rest')
termination_by cs => cs.length

def asciiDigits (cs : List Char) : List Char × List Char :=
  (cs.takeWhile Char.isDigit, cs.dropWhile Char.isDigit)

/-- The number that ASCII digits write. -/
def digitsValue (ds : List Char) : Nat :=
  ds.foldl (fun n c => 10 * n + (c.toNat - 48)) 0

/-- The digits of an integer part: a zero stands alone. -/
def integerPart : List Char → Option (List Char × List Char)
  | '0' :: rest => some (['0'], rest)
  | c :: rest => if c.isDigit then some (asciiDigits (c :: rest)) else none
  | [] => none

/-- The fraction behind a point, if a digit follows the point. -/
def fractionPart : List Char → Option (List Char × List Char)
  | '.' :: d :: rest => if d.isDigit then some (asciiDigits (d :: rest)) else none
  | _ => none

def exponentPart : List Char → Option (Int × List Char)
  | c :: rest =>
    if c == 'e' || c == 'E' then
      let (negative, cs) := Number.takeSign rest
      let (ds, tail) := asciiDigits cs
      if ds.isEmpty then none
      else some (if negative then -(digitsValue ds : Int) else digitsValue ds, tail)
    else none
  | [] => none

/-- Whether a minus sign stands in front, and what follows it. -/
def takeMinus : List Char → Bool × List Char
  | '-' :: rest => (true, rest)
  | cs => (false, cs)

/-- A number; `none` if none stands here. -/
def readNumber (cs : List Char) : Except ReadFault (Option (Json × List Char)) :=
  let (negative, body) := takeMinus cs
  match integerPart body with
  | none => .ok none
  | some (whole, afterWhole) =>
    let (fraction, afterFraction) := (fractionPart afterWhole).getD ([], afterWhole)
    match exponentPart afterFraction with
    | some (e, tail) =>
      .ok (some (.float (Number.ofDecimal negative (digitsValue (whole ++ fraction))
        (e - fraction.length)), tail))
    | none =>
      if fraction.isEmpty then
        if whole.length > Number.digitLimit then .error (.longInteger whole.length)
        else
          let n : Int := digitsValue whole
          .ok (some (.int (if negative then -n else n), afterFraction))
      else
        .ok (some (.float (Number.ofDecimal negative (digitsValue (whole ++ fraction))
          (-(fraction.length : Int))), afterFraction))

def readWord (cs : List Char) : Option (Json × List Char) :=
  let word (w : String) (v : Json) : Option (Json × List Char) :=
    if w.toList.isPrefixOf cs then some (v, cs.drop w.length) else none
  word "null" .null <|> word "true" (.bool true) <|> word "false" (.bool false) <|>
    word "NaN" (.float (Float.ofBits 0x7FF8000000000000)) <|>
    word "Infinity" (.float (Number.pack false (Nat.pow 2 52) 972)) <|>
    word "-Infinity" (.float (Number.pack true (Nat.pow 2 52) 972))

mutual

/-- A value at the front of a text. The fuel bounds the number of nested steps. -/
def readValue : Nat → List Char → Except ReadFault (Json × List Char)
  | 0, cs => .error (.at .expectedValue cs)
  | fuel + 1, cs =>
    match cs with
    | '"' :: rest => do
      let (text, tail) ← readText cs rest
      return (.str ⟨text⟩, tail)
    | '\x7b' :: rest =>
      match skipSpace rest with
      | '\x7d' :: tail => .ok (.obj [], tail)
      | inside => readFields fuel [] inside
    | '[' :: rest =>
      match skipSpace rest with
      | ']' :: tail => .ok (.arr [], tail)
      | inside => readItems fuel inside
    | _ =>
      match readWord cs with
      | some result => .ok result
      | none => do
        match ← readNumber cs with
        | some result => return result
        | none => .error (.at .expectedValue cs)

/-- The fields of an object from a name on; `done` holds those already read. -/
def readFields : Nat → List (CodeText × Json) → List Char → Except ReadFault (Json × List Char)
  | 0, _, cs => .error (.at .expectedName cs)
  | fuel + 1, done, cs =>
    match cs with
    | '"' :: rest => do
      let (name, afterName) ← readText cs rest
      match skipSpace afterName with
      | ':' :: afterColon =>
        let (value, afterValue) ← readValue fuel (skipSpace afterColon)
        let fields := setField ⟨name⟩ value done
        match skipSpace afterValue with
        | '\x7d' :: tail => return (.obj fields, tail)
        | ',' :: tail => readFields fuel fields (skipSpace tail)
        | other => .error (.at .expectedComma other)
      | other => .error (.at .expectedColon other)
    | other => .error (.at .expectedName other)

def readItems : Nat → List Char → Except ReadFault (Json × List Char)
  | 0, cs => .error (.at .expectedValue cs)
  | fuel + 1, cs => do
    let (value, afterValue) ← readValue fuel cs
    match skipSpace afterValue with
    | ']' :: tail => return (.arr [value], tail)
    | ',' :: tail =>
      let (more, rest) ← readItems fuel (skipSpace tail)
      match more with
      | .arr items => return (.arr (value :: items), rest)
      | _ => return (.arr [value], rest)
    | other => .error (.at .expectedComma other)

end

/-- The value that a whole text writes. Steps nest at most twice for each character, which bounds
them. -/
def parse (text : List Char) : Except ReadFault Json :=
  if text.head? == some (Char.ofNat 0xFEFF) then .error (.at .byteOrderMark text)
  else do
    let (value, rest) ← readValue (2 * text.length + 2) (skipSpace text)
    match skipSpace rest with
    | [] => return value
    | extra => .error (.at .extraData extra)

/-- The value that a whole text writes, or the wording of the fault. -/
def parseString (s : String) : Except String Json :=
  let text := s.toList
  match parse text with
  | .ok v => .ok v
  | .error f => .error (f.message text)

end VoiceDebugger.Json
