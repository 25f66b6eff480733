/-!
Double precision numbers as integers times powers of two, in both directions.

A finite nonzero double is `mantissa * 2 ^ exponent`. In the other direction a positive quotient
of naturals is rounded to the nearest double, a tie to the even one, by exact arithmetic.
-/

namespace VoiceDebugger.Number

inductive Parts where
  | nan
  | infinite (negative : Bool)
  | finite (negative : Bool) (mantissa : Nat) (exponent : Int)
  deriving Repr, BEq

/-- Split a double: a subnormal number and zero have the least exponent. -/
def parts (x : Float) : Parts :=
  let bits := x.toBits.toNat
  let negative := bits / Nat.pow 2 63 == 1
  let field : Nat := bits / Nat.pow 2 52 % Nat.pow 2 11
  let fraction : Nat := bits % Nat.pow 2 52
  if field == 2047 then
    if fraction == 0 then .infinite negative else .nan
  else if field == 0 then .finite negative fraction (-1074)
  else .finite negative (Nat.pow 2 52 + fraction) ((field : Int) - 1075)

/-- `num / den` to the nearest integer, a tie to the even one. -/
def divRound (num den : Nat) : Nat :=
  let q := num / den
  let r := num % den
  if 2 * r < den then q
  else if den < 2 * r then q + 1
  else if q % 2 == 0 then q else q + 1

/-- Put `mantissa * 2 ^ exponent` together; the mantissa has at most 53 bits, and fewer only at
the least exponent. Too large a number is infinite. -/
def pack (negative : Bool) (mantissa : Nat) (exponent : Int) : Float :=
  let magnitude :=
    if mantissa < Nat.pow 2 52 then mantissa
    else if exponent > 971 then 2047 * Nat.pow 2 52
    else (exponent + 1075).toNat * Nat.pow 2 52 + (mantissa - Nat.pow 2 52)
  Float.ofBits (UInt64.ofNat ((if negative then Nat.pow 2 63 else 0) + magnitude))

/-- The double nearest to `num / den`. The denominator is not zero. -/
def ofQuotient (negative : Bool) (num den : Nat) : Float :=
  if num == 0 then pack negative 0 (-1074)
  else
    let guess : Int := (Nat.log2 num : Int) - (Nat.log2 den : Int) - 52
    -- The quotient lies in `(2 ^ (guess + 51), 2 ^ (guess + 53))`, so one step down may be due.
    let scaled (e : Int) : Nat × Nat :=
      if e ≥ 0 then (num, den * Nat.pow 2 e.toNat) else (num * Nat.pow 2 (-e).toNat, den)
    let e₀ := if (scaled guess).1 < Nat.pow 2 52 * (scaled guess).2 then guess - 1 else guess
    let e := max e₀ (-1074)
    let m := divRound (scaled e).1 (scaled e).2
    if m == Nat.pow 2 53 then pack negative (Nat.pow 2 52) (e + 1) else pack negative m e

/-- The double nearest to `digits * 10 ^ exponent`. Exponents beyond the range of doubles are
settled without forming the power. -/
def ofDecimal (negative : Bool) (digits : Nat) (exponent : Int) : Float :=
  let size : Int := (Nat.toDigits 10 digits).length
  if digits == 0 then pack negative 0 (-1074)
  else if exponent + size > 400 then pack negative (Nat.pow 2 52) 972
  else if exponent + size < -400 then pack negative 0 (-1074)
  else if exponent ≥ 0 then ofQuotient negative (digits * Nat.pow 10 exponent.toNat) 1
  else ofQuotient negative digits (Nat.pow 10 (-exponent).toNat)

/-- The double nearest to an integer, unless the integer is beyond the largest double. -/
def ofInt? (n : Int) : Option Float :=
  let x := ofQuotient (n < 0) n.natAbs 1
  match parts x with
  | .infinite _ => none
  | _ => some x

/-- The integer part of a finite double, cut toward zero. -/
def truncate (negative : Bool) (mantissa : Nat) (exponent : Int) : Int :=
  let magnitude : Nat :=
    if exponent ≥ 0 then mantissa * Nat.pow 2 exponent.toNat
    else mantissa / Nat.pow 2 (-exponent).toNat
  if negative then -(magnitude : Int) else magnitude

end VoiceDebugger.Number
