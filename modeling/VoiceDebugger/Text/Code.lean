import VoiceDebugger.Text.Quoted

/-!
Texts as code points.

A `String` holds characters only. A text that was written with escapes may also hold one half of a
pair of code units on its own, which is no character.
-/

namespace VoiceDebugger

/-- A code point. -/
abbrev Code := Fin 0x110000

namespace Code

def ofChar (c : Char) : Code :=
  ⟨c.toNat, by
    have valid : c.toNat < 0xD800 ∨ 0xDFFF < c.toNat ∧ c.toNat < 0x110000 := c.valid
    omega⟩

/-- The code point of a number, which should be small enough. -/
def ofNat (n : Nat) : Code :=
  Fin.ofNat 0x110000 n

/-- The first half of a pair. -/
def isHigh (p : Code) : Bool :=
  0xD800 ≤ p.val && p.val ≤ 0xDBFF

/-- The second half of a pair. -/
def isLow (p : Code) : Bool :=
  0xDC00 ≤ p.val && p.val ≤ 0xDFFF

/-- The character of a code point; half of a pair has none and is shown as the replacement
character. -/
def shown (p : Code) : Char :=
  if p.isHigh || p.isLow then Char.ofNat 0xFFFD else Char.ofNat p.val

end Code

/-- A text as its code points. -/
structure CodeText where
  codes : List Code
  deriving Repr, DecidableEq, Inhabited

namespace CodeText

def ofString (s : String) : CodeText :=
  ⟨s.toList.map Code.ofChar⟩

instance : Coe String CodeText := ⟨ofString⟩

/-- The text as it is shown. -/
def shown (t : CodeText) : String :=
  String.ofList (t.codes.map Code.shown)

def isEmpty (t : CodeText) : Bool :=
  t.codes.isEmpty

def length (t : CodeText) : Nat :=
  t.codes.length

def quoted (t : CodeText) : String :=
  let q := Text.quoteFor t.shown.toList
  let escape (p : Code) : List Char :=
    if p.isHigh || p.isLow then '\\' :: 'u' :: Text.hexDigits 4 p.val
    else Text.escapeChar q p.shown
  String.ofList (q :: t.codes.flatMap escape ++ [q])

end CodeText

end VoiceDebugger
