import VoiceDebugger.Number.Binary
import VoiceDebugger.Text.Blank
import VoiceDebugger.Text.Digit

/-!
Reading integers and doubles from text.

Blanks around a number are skipped, digits may be of any script, and a single underscore may stand
between two digits. An integer has at most 4300 digits.
-/

namespace VoiceDebugger.Number

/-- Why a text is no integer. -/
inductive IntegerFault where
  | malformed
  | tooLong (digits : Nat)
  deriving Repr, BEq

def digitLimit : Nat := 4300

/-- The wording of the limit on an integer's digits. -/
def longIntegerMessage (digits : Nat) : String :=
  s!"Exceeds the limit (4300 digits) for integer string conversion: value has {digits} digits; " ++
    "use sys.set_int_max_str_digits() to increase the limit"

/-- Digits with single underscores between them: the values, and what follows. The Boolean tells
whether a digit has just been read. -/
def takeDigits (afterDigit : Bool) : List Char → List Nat × List Char
  | [] => ([], [])
  | c :: rest =>
    match Text.digitValue? c with
    | some d =>
      let (ds, tail) := takeDigits true rest
      (d :: ds, tail)
    | none =>
      if c == '_' && afterDigit then
        match rest with
        | c' :: _ =>
          if (Text.digitValue? c').isSome then takeDigits false rest else ([], c :: rest)
        | [] => ([], c :: rest)
      else ([], c :: rest)

/-- The number that a list of digit values writes. -/
def ofDigits (ds : List Nat) : Nat :=
  ds.foldl (fun n d => 10 * n + d) 0

def takeSign : List Char → Bool × List Char
  | '-' :: rest => (true, rest)
  | '+' :: rest => (false, rest)
  | cs => (false, cs)

def readInt (s : String) : Except IntegerFault Int :=
  let (negative, cs) := takeSign (Text.trim s.toList)
  let (ds, rest) := takeDigits false cs
  if ds.isEmpty || !rest.isEmpty then .error .malformed
  else if ds.length > digitLimit then .error (.tooLong ds.length)
  else
    let n : Int := ofDigits ds
    .ok (if negative then -n else n)

/-- Fraction digits after a point, which may be missing. -/
def takeFraction : List Char → List Nat × List Char
  | '.' :: rest => takeDigits false rest
  | cs => ([], cs)

/-- An exponent mark with its digits, and what follows; `none` if the mark has no digits. -/
def takeExponent : List Char → Option (Int × List Char)
  | c :: rest =>
    if c == 'e' || c == 'E' then
      let (negative, cs) := takeSign rest
      let (ds, tail) := takeDigits false cs
      if ds.isEmpty then none
      else
        let n : Int := ofDigits ds
        some (if negative then -n else n, tail)
    else some (0, c :: rest)
  | [] => some (0, [])

def asciiLower (cs : List Char) : String :=
  String.ofList (cs.map Char.toLower)

/-- The double that a text writes: digits with a point and an exponent, `inf`, `infinity` or
`nan`. -/
def readFloat? (s : String) : Option Float :=
  let (negative, cs) := takeSign (Text.trim s.toList)
  let word := asciiLower cs
  if word == "inf" || word == "infinity" then some (pack negative (Nat.pow 2 52) 972)
  else if word == "nan" then some (Float.ofBits 0x7FF8000000000000)
  else
    let (whole, afterWhole) := takeDigits false cs
    let (fraction, afterFraction) := takeFraction afterWhole
    if whole.isEmpty && fraction.isEmpty then none
    else
      match takeExponent afterFraction with
      | some (e, []) => some (ofDecimal negative (ofDigits (whole ++ fraction)) (e - fraction.length))
      | _ => none

end VoiceDebugger.Number
