/-!
Texts as bytes: encoding, and strict decoding that tells where and why it stops.
-/

namespace VoiceDebugger.Text

/-- Why a byte sequence is no text. -/
inductive Utf8Cause where
  | badStart
  | badContinuation
  | truncated
  deriving Repr, BEq, DecidableEq

/-- A run of bytes that is no text: its first position, its first byte, its length and the cause. -/
structure Utf8Fault where
  position : Nat
  byte : UInt8
  length : Nat
  cause : Utf8Cause
  deriving Repr, BEq

def Utf8Cause.message : Utf8Cause → String
  | .badStart => "invalid start byte"
  | .badContinuation => "invalid continuation byte"
  | .truncated => "unexpected end of data"

/-- A byte as two hexadecimal digits. -/
def byteHex (b : UInt8) : String :=
  let ds := Nat.toDigits 16 b.toNat
  String.ofList (List.replicate (2 - ds.length) '0' ++ ds)

def Utf8Fault.message (f : Utf8Fault) : String :=
  let reason := f.cause.message
  if f.length == 1 then
    s!"'utf-8' codec can't decode byte 0x{byteHex f.byte} in position {f.position}: {reason}"
  else
    s!"'utf-8' codec can't decode bytes in position {f.position}-{f.position + f.length - 1}: {reason}"

/-- A byte that continues a character. -/
def isTail (b : UInt8) : Bool :=
  0x80 ≤ b && b ≤ 0xBF

/-- The second bytes that may follow a lead byte: overlong forms, surrogates and code points beyond
the last are shut out here. -/
def secondFits (lead second : UInt8) : Bool :=
  isTail second &&
    !(lead == 0xE0 && second < 0xA0) && !(lead == 0xED && second ≥ 0xA0) &&
    !(lead == 0xF0 && second < 0x90) && !(lead == 0xF4 && second ≥ 0x90)

/-- The six payload bits of a continuation byte. -/
def tailBits (b : UInt8) : Nat :=
  b.toNat % 64

def decodeFrom (position : Nat) : List UInt8 → Except Utf8Fault (List Char)
  | [] => .ok []
  | a :: rest =>
    let fault (length : Nat) (cause : Utf8Cause) : Except Utf8Fault (List Char) :=
      .error ⟨position, a, length, cause⟩
    if a < 0x80 then do
      let cs ← decodeFrom (position + 1) rest
      return Char.ofNat a.toNat :: cs
    else if a < 0xC2 || a > 0xF4 then fault 1 .badStart
    else
      match rest with
      | [] => fault 1 .truncated
      | b :: rest₂ =>
        if !secondFits a b then fault 1 .badContinuation
        else if a < 0xE0 then do
          let cs ← decodeFrom (position + 2) rest₂
          return Char.ofNat ((a.toNat - 0xC0) * 64 + tailBits b) :: cs
        else
          match rest₂ with
          | [] => fault 2 .truncated
          | c :: rest₃ =>
            if !isTail c then fault 2 .badContinuation
            else if a < 0xF0 then do
              let cs ← decodeFrom (position + 3) rest₃
              return Char.ofNat ((a.toNat - 0xE0) * 4096 + tailBits b * 64 + tailBits c) :: cs
            else
              match rest₃ with
              | [] => fault 3 .truncated
              | d :: rest₄ =>
                if !isTail d then fault 3 .badContinuation
                else do
                  let cs ← decodeFrom (position + 4) rest₄
                  return Char.ofNat ((a.toNat - 0xF0) * 262144 + tailBits b * 4096 +
                    tailBits c * 64 + tailBits d) :: cs

/-- The text that a byte sequence encodes. -/
def decode (bytes : List UInt8) : Except Utf8Fault String :=
  (decodeFrom 0 bytes).map String.ofList

/-- How many bytes a character takes. -/
def byteLength (c : Char) : Nat :=
  let n := c.toNat
  if n < 0x80 then 1 else if n < 0x800 then 2 else if n < 0x10000 then 3 else 4

def encodeChar (c : Char) : List UInt8 :=
  let n := c.toNat
  if n < 0x80 then [UInt8.ofNat n]
  else if n < 0x800 then [UInt8.ofNat (0xC0 + n / 64), UInt8.ofNat (0x80 + n % 64)]
  else if n < 0x10000 then
    [UInt8.ofNat (0xE0 + n / 4096), UInt8.ofNat (0x80 + n / 64 % 64), UInt8.ofNat (0x80 + n % 64)]
  else
    [UInt8.ofNat (0xF0 + n / 262144), UInt8.ofNat (0x80 + n / 4096 % 64),
      UInt8.ofNat (0x80 + n / 64 % 64), UInt8.ofNat (0x80 + n % 64)]

def encode (s : String) : List UInt8 :=
  s.toList.flatMap encodeChar

end VoiceDebugger.Text
