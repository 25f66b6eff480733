import VoiceDebugger.Number.Shortest

/-!
The written forms of a double: shortest, and with a fixed number of places.

The shortest form is positional while the point stands within 16 digits, and keeps `.0` on whole
numbers; other numbers have an exponent of at least two digits with its sign.
-/

namespace VoiceDebugger.Number

def digitChars (n : Nat) : List Char :=
  Nat.toDigits 10 n

/-- `n` in at least `width` decimal digits. -/
def padded (width n : Nat) : List Char :=
  let ds := digitChars n
  List.replicate (width - ds.length) '0' ++ ds

/-- A positive decimal in positional notation. -/
def positional (digits : List Char) (point : Int) : List Char :=
  if point ≤ 0 then '0' :: '.' :: List.replicate (-point).toNat '0' ++ digits
  else if point.toNat ≥ digits.length then
    digits ++ List.replicate (point.toNat - digits.length) '0' ++ ['.', '0']
  else digits.take point.toNat ++ '.' :: digits.drop point.toNat

/-- A positive decimal with one digit before the point and an exponent. -/
def scientific (digits : List Char) (point : Int) : List Char :=
  let e := point - 1
  let mark := if e < 0 then '-' else '+'
  let tail := 'e' :: mark :: padded 2 e.natAbs
  match digits with
  | [] => tail
  | [d] => d :: tail
  | d :: ds => d :: '.' :: ds ++ tail

def signed (negative : Bool) (magnitude : List Char) : String :=
  String.ofList (if negative then '-' :: magnitude else magnitude)

/-- The shortest text that reads back as the number. -/
def text (x : Float) : String :=
  match parts x with
  | .nan => "nan"
  | .infinite negative => signed negative "inf".toList
  | .finite negative mantissa exponent =>
    if mantissa == 0 then signed negative "0.0".toList
    else
      let d := shortest mantissa exponent
      let digits := digitChars d.digits
      if -4 < d.point ∧ d.point ≤ 16 then signed negative (positional digits d.point)
      else signed negative (scientific digits d.point)

/-- The number with `places` digits behind the point; a tie goes to the even neighbour. -/
def fixed (places : Nat) (x : Float) : String :=
  match parts x with
  | .nan => "nan"
  | .infinite negative => signed negative "inf".toList
  | .finite negative mantissa exponent =>
    let (num, den) := binaryQuotient mantissa exponent
    let n := divRound (num * Nat.pow 10 places) den
    let digits := padded (places + 1) n
    let whole := digits.take (digits.length - places)
    if places == 0 then signed negative digits
    else signed negative (whole ++ '.' :: digits.drop (digits.length - places))

end VoiceDebugger.Number
