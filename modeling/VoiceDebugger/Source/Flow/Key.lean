import VoiceDebugger.Json.Display
import VoiceDebugger.Source.Tree

/-!
The constant keys of mapping patterns: when two are equal, and how they are written.

Truth values count as numbers, and a number equals another one of the same value whatever its kind.
-/

namespace VoiceDebugger.Source

inductive KeyValue where
  | none
  | ellipsis
  | int (value : Int)
  | float (value : Float)
  | complex (re im : Float)
  | str (value : String)
  | bytes (value : List UInt8)

/-- A constant key and how it is written. -/
structure Key where
  value : KeyValue
  text : String

/-- An integer equals a double that has no fraction and the same value. -/
def sameAsFloat (n : Int) (x : Float) : Bool :=
  match Number.parts x with
  | .finite negative mantissa exponent =>
    let whole := Number.truncate negative mantissa exponent
    whole == n && (exponent ≥ 0 || mantissa % Nat.pow 2 (-exponent).toNat == 0)
  | _ => false

def KeyValue.same : KeyValue → KeyValue → Bool
  | .none, .none => true
  | .ellipsis, .ellipsis => true
  | .int a, .int b => a == b
  | .int a, .float b => sameAsFloat a b
  | .float a, .int b => sameAsFloat b a
  | .float a, .float b => a == b
  | .complex a b, .complex c d => a == c && b == d
  | .complex a b, .int c => b == 0 && sameAsFloat c a
  | .int c, .complex a b => b == 0 && sameAsFloat c a
  | .complex a b, .float c => b == 0 && a == c
  | .float c, .complex a b => b == 0 && a == c
  | .str a, .str b => a == b
  | .bytes a, .bytes b => a == b
  | _, _ => false

/-- A double without a trailing `.0`. -/
def shortNumber (x : Float) : String :=
  let cs := (Number.text x).toList
  String.ofList (if ['.', '0'].isSuffixOf cs then cs.take (cs.length - 2) else cs)

/-- A complex number as it is written: a real part that is plain zero is left out. -/
def complexText (re im : Float) : String :=
  if re.toBits == 0 then shortNumber im ++ "j"
  else
    let tail := shortNumber im
    let mark := if ['-'].isPrefixOf tail.toList then "" else "+"
    "(" ++ shortNumber re ++ mark ++ tail ++ "j)"

def byteText (quote : Char) (b : UInt8) : List Char :=
  let c := Char.ofNat b.toNat
  if c == quote || c == '\\' then ['\\', c]
  else if c == '\t' then ['\\', 't']
  else if c == '\n' then ['\\', 'n']
  else if c == '\r' then ['\\', 'r']
  else if b < 0x20 || b ≥ 0x7F then '\\' :: 'x' :: Text.hexDigits 2 b.toNat
  else [c]

def bytesText (bs : List UInt8) : String :=
  let q := Text.quoteFor (bs.map fun b => Char.ofNat b.toNat)
  String.ofList ('b' :: q :: bs.flatMap (byteText q) ++ [q])

def Constant.key : Constant → Key
  | .none => ⟨.none, "None"⟩
  | .bool b => if b then ⟨.int 1, "True"⟩ else ⟨.int 0, "False"⟩
  | .ellipsis => ⟨.ellipsis, "Ellipsis"⟩
  | .int n => ⟨.int n, Json.intText n⟩
  | .float x => ⟨.float x, Number.text x⟩
  | .imaginary x => ⟨.complex 0 x, complexText 0 x⟩
  | .str s => ⟨.str s, Text.quoted s⟩
  | .bytes bs => ⟨.bytes bs, bytesText bs⟩

def Key.negated (k : Key) : Key :=
  match k.value with
  | .int n => ⟨.int (-n), Json.intText (-n)⟩
  | .float x => ⟨.float (-x), Number.text (-x)⟩
  | .complex a b => ⟨.complex (-a) (-b), complexText (-a) (-b)⟩
  | _ => k

def Key.real (k : Key) : Float :=
  match k.value with
  | .int n => (Number.ofInt? n).getD 0
  | .float x => x
  | .complex a _ => a
  | _ => 0

/-- The constant key that an expression is: a literal, perhaps with a sign, or a complex number. -/
def Expr.key? (e : Expr) : Option Key :=
  match e.form with
  | .constant c => some c.key
  | .unary "-" ⟨_, .constant c⟩ => some c.key.negated
  | .binary left op ⟨_, .constant (.imaginary y)⟩ =>
    let re :=
      match left.form with
      | .constant c => c.key.real
      | .unary "-" ⟨_, .constant c⟩ => c.key.negated.real
      | _ => 0
    let im := if op == "-" then 0 - y else 0 + y
    let re := if op == "-" then re - 0 else re + 0
    some ⟨.complex re im, complexText re im⟩
  | _ => none

end VoiceDebugger.Source
