/-!
Bytes written in characters, six bits each.

Characters outside the alphabet are skipped, and the padding that completes a group ends the text.
-/

namespace VoiceDebugger.Base64

/-- Why a text stands for no bytes. -/
inductive Fault where
  | foreignCharacter
  | incomplete
  /-- One character is left over. -/
  | leftOver (characters : Nat)
  deriving Repr, BEq, DecidableEq

def Fault.message : Fault → String
  | .foreignCharacter => "string argument should contain only ASCII characters"
  | .incomplete => "Incorrect padding"
  | .leftOver characters =>
    s!"Invalid base64-encoded string: number of data characters ({characters}) cannot be 1 more " ++
      "than a multiple of 4"

/-- The six bits of a character. -/
def sextet? (c : Char) : Option Nat :=
  if 'A' ≤ c && c ≤ 'Z' then some (c.toNat - 'A'.toNat)
  else if 'a' ≤ c && c ≤ 'z' then some (c.toNat - 'a'.toNat + 26)
  else if '0' ≤ c && c ≤ '9' then some (c.toNat - '0'.toNat + 52)
  else if c == '+' then some 62
  else if c == '/' then some 63
  else none

/-- The bytes of a group of two, three or four times six bits; bits that fill no byte are
dropped. -/
def bytesOf : List Nat → List UInt8
  | [a, b] => [UInt8.ofNat (a * 4 + b / 16)]
  | [a, b, c] => [UInt8.ofNat (a * 4 + b / 16), UInt8.ofNat (b * 16 + c / 4)]
  | [a, b, c, d] =>
    [UInt8.ofNat (a * 4 + b / 16), UInt8.ofNat (b * 16 + c / 4), UInt8.ofNat (c * 64 + d)]
  | _ => []

/-- The bytes of what is left of a text. `group` holds the bits read since the last whole group,
`padding` counts the padding behind them, `count` all characters that carry bits. -/
def decodeFrom (group : List Nat) (padding count : Nat) :
    List Char → Except Fault (List UInt8)
  | [] =>
    match group with
    | [] => .ok []
    | [_] => .error (.leftOver count)
    | _ => .error .incomplete
  | c :: rest =>
    if c == '=' then
      if group.length < 2 then decodeFrom group padding count rest
      else if group.length + padding + 1 ≥ 4 then .ok (bytesOf group)
      else decodeFrom group (padding + 1) count rest
    else
      match sextet? c with
      | none => decodeFrom group padding count rest
      | some n =>
        if group.length == 3 then do
          let later ← decodeFrom [] 0 (count + 1) rest
          return bytesOf (group ++ [n]) ++ later
        else decodeFrom (group ++ [n]) 0 (count + 1) rest

def decode (text : List Char) : Except Fault (List UInt8) :=
  if text.any fun c => c.toNat ≥ 128 then .error .foreignCharacter
  else decodeFrom [] 0 0 text

end VoiceDebugger.Base64
