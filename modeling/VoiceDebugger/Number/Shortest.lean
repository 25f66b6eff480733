import VoiceDebugger.Number.Binary

/-!
The fewest decimal digits that read back as a given double, and of those the nearest.
-/

namespace VoiceDebugger.Number

/-- A positive decimal: `digits`, as a number without trailing zeros, with the point placed so that
the value is `0.digits * 10 ^ point`. -/
structure Decimal where
  digits : Nat
  point : Int
  deriving Repr, BEq

/-- `a * 2 ^ q` as a quotient of naturals. -/
def binaryQuotient (a : Nat) (q : Int) : Nat × Nat :=
  if q ≥ 0 then (a * Nat.pow 2 q.toNat, 1) else (a, Nat.pow 2 (-q).toNat)

/-- `d * 10 ^ k` as a quotient of naturals. -/
def decimalQuotient (d : Nat) (k : Int) : Nat × Nat :=
  if k ≥ 0 then (d * Nat.pow 10 k.toNat, 1) else (d, Nat.pow 10 (-k).toNat)

def quotientLe (a b : Nat × Nat) : Bool :=
  a.1 * b.2 ≤ b.1 * a.2

/-- Strict comparison of two quotients. -/
def quotientLt (a b : Nat × Nat) : Bool :=
  a.1 * b.2 < b.1 * a.2

/-- The least `k` with `value < 10 ^ k`, searched upward from `k`. -/
def pointFrom (value : Nat × Nat) : Nat → Int → Int
  | 0, k => k
  | fuel + 1, k => if quotientLt value (decimalQuotient 1 k) then k else pointFrom value fuel (k + 1)

def dropZeros : Nat → Nat → Nat
  | 0, n => n
  | fuel + 1, n => if n % 10 == 0 && n != 0 then dropZeros fuel (n / 10) else n

/-- Search for a grid point with `count`, `count + 1`, … digits that reads back. -/
def shortestFrom (value low high : Nat × Nat) (closed : Bool) (point : Int) : Nat → Nat → Nat × Int
  | 0, count =>
    let unit := point - count
    let scaled := decimalQuotient 1 unit
    (value.1 * scaled.2 / (value.2 * scaled.1), unit)
  | fuel + 1, count =>
    let unit := point - count
    let scaled := decimalQuotient 1 unit
    let below := value.1 * scaled.2 / (value.2 * scaled.1)
    let inside (d : Nat) : Bool :=
      let v := decimalQuotient d unit
      if closed then quotientLe low v && quotientLe v high
      else quotientLt low v && quotientLt v high
    -- Twice the value against the sum of its two neighbours tells which is nearer.
    let middle := decimalQuotient (2 * below + 1) unit
    let doubled := (2 * value.1, value.2)
    let belowNearer :=
      quotientLt doubled middle || (quotientLe doubled middle && below % 2 == 0)
    match inside below, inside (below + 1) with
    | true, true => if belowNearer then (below, unit) else (below + 1, unit)
    | true, false => (below, unit)
    | false, true => (below + 1, unit)
    | false, false => shortestFrom value low high closed point fuel (count + 1)

/-- The shortest decimal that reads back as `mantissa * 2 ^ exponent`, for a positive mantissa. -/
def shortest (mantissa : Nat) (exponent : Int) : Decimal :=
  let value := binaryQuotient (4 * mantissa) (exponent - 2)
  let high := binaryQuotient (4 * mantissa + 2) (exponent - 2)
  -- Below a power of two the doubles lie twice as close.
  let gap := if mantissa == Nat.pow 2 52 && exponent > -1074 then 1 else 2
  let low := binaryQuotient (4 * mantissa - gap) (exponent - 2)
  let size : Int := (Nat.log2 mantissa : Int) + exponent
  let point := pointFrom value 6 ((size * 30103).fdiv 100000 - 1)
  let (d, unit) := shortestFrom value low high (mantissa % 2 == 0) point 17 1
  let trimmed := dropZeros 20 d
  ⟨trimmed, unit + (Nat.toDigits 10 d).length⟩

end VoiceDebugger.Number
