import Mathlib.Data.List.Chain
import VoiceDebugger.Json.Printer
import VoiceDebugger.Json.Reader
import VoiceDebugger.Proofs.Text.Code

/-!
Reading back a written text.

Every code point is written so that it reads back, with one exception: a first half of a pair that
stands directly before a second half is read as the one code point that the pair stands for.
-/

namespace VoiceDebugger

/-- No first half of a pair stands directly before a second half. -/
def CodeText.Unpaired (t : CodeText) : Prop :=
  t.codes.IsChain fun p q => ¬ (p.isHigh = true ∧ q.isLow = true)

instance (t : CodeText) : Decidable t.Unpaired :=
  inferInstanceAs (Decidable (List.IsChain _ t.codes))

theorem Code.ofNat_val (p : Code) : Code.ofNat p.val = p := by
  apply Fin.ext
  exact Nat.mod_eq_of_lt p.isLt

theorem toNat_charOfNat (n : Nat) (small : n < 0xD800) : (Char.ofNat n).toNat = n := by
  have valid : n.isValidChar := Or.inl small
  rw [Char.ofNat, dif_pos valid]
  rfl

namespace Json

/-! ### Hexadecimal digits -/

theorem hex?_digitChar : ∀ d < 16, unit?.hex? d.digitChar = some d := by
  decide

theorem toDigits_step (n : Nat) (large : 16 ≤ n) :
    Nat.toDigits 16 n = Nat.toDigits 16 (n / 16) ++ [(n % 16).digitChar] :=
  Nat.toDigits_of_base_le (by decide) large

/-- Four digits write a code unit. -/
theorem hexDigits_four (n : Nat) (small : n < 0x10000) :
    Text.hexDigits 4 n =
      [(n / 4096).digitChar, (n / 256 % 16).digitChar, (n / 16 % 16).digitChar,
        (n % 16).digitChar] := by
  simp only [Text.hexDigits]
  by_cases one : n < 16
  · have high : n / 4096 = 0 ∧ n / 256 % 16 = 0 ∧ n / 16 % 16 = 0 ∧ n % 16 = n := by omega
    rw [Nat.toDigits_of_lt_base one, high.1, high.2.1, high.2.2.1, high.2.2.2]
    rfl
  rw [toDigits_step n (by omega)]
  by_cases two : n < 256
  · have high : n / 4096 = 0 ∧ n / 256 % 16 = 0 ∧ n / 16 % 16 = n / 16 := by omega
    rw [Nat.toDigits_of_lt_base (by omega), high.1, high.2.1, high.2.2]
    rfl
  rw [toDigits_step (n / 16) (by omega), Nat.div_div_eq_div_mul]
  by_cases three : n < 4096
  · have high : n / 4096 = 0 ∧ n / 256 % 16 = n / 256 := by omega
    rw [Nat.toDigits_of_lt_base (by omega), high.1, high.2]
    rfl
  · rw [toDigits_step (n / (16 * 16)) (by omega), Nat.div_div_eq_div_mul,
      Nat.toDigits_of_lt_base (by omega)]
    rfl

theorem unit?_digitChars (n : Nat) (small : n < 0x10000) :
    unit? (n / 4096).digitChar (n / 256 % 16).digitChar (n / 16 % 16).digitChar
      (n % 16).digitChar = some n := by
  simp only [unit?, hex?_digitChar (n / 4096) (by omega),
    hex?_digitChar (n / 256 % 16) (by omega), hex?_digitChar (n / 16 % 16) (by omega),
    hex?_digitChar (n % 16) (by omega)]
  simp only [Option.bind_eq_bind, Option.bind_some, Option.pure_def, Option.some.injEq]
  omega

/-! ### One step of reading -/

/-- Put a code point in front of what is read. -/
def before (p : Code) (r : Except ReadFault (List Code × List Char)) :
    Except ReadFault (List Code × List Char) :=
  r.map fun (cs, rest) => (p :: cs, rest)

theorem readText_quote (start rest : List Char) : readText start ('"' :: rest) = .ok ([], rest) := by
  rw [readText]

-- What stands behind the closing quote is left over.
example : readText [] ['"', ','] = .ok ([], [',']) := by cbv

theorem readText_plain (start rest : List Char) (c : Char) (quote : c ≠ '"') (escape : c ≠ '\\')
    (visible : 32 ≤ c.toNat) :
    readText start (c :: rest) = before (Code.ofChar c) (readText start rest) := by
  rw [readText]
  · have shown : ¬ c.toNat < 32 := by omega
    simp only [shown, ↓reduceIte]
    cases readText start rest <;> rfl
  · exact quote
  · exact fun equal _ => escape equal
  · exact fun _ equal _ => escape equal
  · exact fun _ _ equal _ => escape equal

theorem readText_letter (start rest : List Char) (c e : Char) (unit : c ≠ 'u')
    (letter : escaped? c = some e) :
    readText start ('\\' :: c :: rest) = before (Code.ofChar e) (readText start rest) := by
  rw [readText]
  · simp only [letter]
    cases readText start rest <;> rfl
  · exact unit

/-- A unit is read on its own if it is no first half, or if no other unit follows. -/
theorem readText_unit (start tail : List Char) (n : Nat) (small : n < 0x10000) (more : tail ≠ [])
    (alone : ¬ (0xD800 ≤ n ∧ n ≤ 0xDBFF) ∨ ∀ rest, tail ≠ '\\' :: 'u' :: rest) :
    readText start (unitEscape n ++ tail) = before (Code.ofNat n) (readText start tail) := by
  obtain ⟨next, rest, rfl⟩ := List.exists_cons_of_ne_nil more
  simp only [unitEscape, hexDigits_four n small, List.cons_append, List.nil_append]
  rw [readText]
  simp only [unit?_digitChars n small]
  split
  · rename_i equal
    rcases alone with low | apart
    · rw [if_neg low]
      cases readText start _ <;> rfl
    · exact absurd rfl (apart _)
  · cases readText start _ <;> rfl

theorem readText_unit_unit (start tail : List Char) (n m : Nat) (small : n < 0x10000)
    (smallNext : m < 0x10000) (more : tail ≠ []) (apart : ¬ (0xDC00 ≤ m ∧ m ≤ 0xDFFF)) :
    readText start (unitEscape n ++ (unitEscape m ++ tail)) =
      before (Code.ofNat n) (readText start (unitEscape m ++ tail)) := by
  obtain ⟨next, rest, rfl⟩ := List.exists_cons_of_ne_nil more
  simp only [unitEscape, hexDigits_four n small, hexDigits_four m smallNext, List.cons_append,
    List.nil_append]
  rw [readText]
  simp only [unit?_digitChars n small, unit?_digitChars m smallNext, apart, ↓reduceIte]
  split <;> cases readText start _ <;> rfl

theorem readText_pair (start tail : List Char) (high low : Nat)
    (first : 0xD800 ≤ high ∧ high ≤ 0xDBFF) (second : 0xDC00 ≤ low ∧ low ≤ 0xDFFF)
    (more : tail ≠ []) :
    readText start (unitEscape high ++ (unitEscape low ++ tail)) =
      before (Code.ofNat (0x10000 + (high - 0xD800) * 1024 + (low - 0xDC00)))
        (readText start tail) := by
  obtain ⟨next, rest, rfl⟩ := List.exists_cons_of_ne_nil more
  simp only [unitEscape, hexDigits_four high (by omega), hexDigits_four low (by omega),
    List.cons_append, List.nil_append]
  rw [readText]
  simp only [unit?_digitChars high (by omega), unit?_digitChars low (by omega), first, second,
    and_self, ↓reduceIte]
  cases readText start (next :: rest) <;> rfl

/-! ### Written code points -/

/-- The forms in which a code point is written: a letter behind a backslash, the character itself,
one unit, or the two units of a pair. -/
inductive CodeForm (p : Code) : List Char → Prop where
  | letter (c e : Char) (unit : c ≠ 'u') (known : escaped? c = some e)
      (ascii : 32 ≤ c.toNat ∧ c.toNat < 127) (value : Code.ofChar e = p) : CodeForm p ['\\', c]
  | plain (c : Char) (quote : c ≠ '"') (escape : c ≠ '\\')
      (ascii : 32 ≤ c.toNat ∧ c.toNat < 127) (value : Code.ofChar c = p) : CodeForm p [c]
  | unit (small : p.val < 0x10000) : CodeForm p (unitEscape p.val)
  | pair (high low : Nat) (first : 0xD800 ≤ high ∧ high ≤ 0xDBFF)
      (second : 0xDC00 ≤ low ∧ low ≤ 0xDFFF)
      (value : 0x10000 + (high - 0xD800) * 1024 + (low - 0xDC00) = p.val) :
      CodeForm p (unitEscape high ++ unitEscape low)

theorem writtenCode_form (p : Code) : CodeForm p (writtenCode p) := by
  have bound := p.isLt
  have letter (c e : Char) (unit : c ≠ 'u') (known : escaped? c = some e)
      (ascii : 32 ≤ c.toNat ∧ c.toNat < 127) (value : p.val = e.toNat) :
      CodeForm p ['\\', c] := .letter c e unit known ascii (Fin.ext value.symm)
  simp only [writtenCode, beq_iff_eq]
  split
  · exact letter '"' '"' (by decide) rfl (by decide) ‹_›
  split
  · exact letter '\\' '\\' (by decide) rfl (by decide) ‹_›
  split
  · exact letter 'n' '\n' (by decide) rfl (by decide) ‹_›
  split
  · exact letter 'r' '\r' (by decide) rfl (by decide) ‹_›
  split
  · exact letter 't' '\t' (by decide) rfl (by decide) ‹_›
  split
  · exact letter 'b' (Char.ofNat 8) (by decide) rfl (by decide) ‹_›
  split
  · exact letter 'f' (Char.ofNat 12) (by decide) rfl (by decide) ‹_›
  split
  · rename_i quote escape _ _ _ _ _ visible
    have value : (Char.ofNat p.val).toNat = p.val := toNat_charOfNat p.val (by omega)
    refine .plain (Char.ofNat p.val) ?_ ?_ (by omega) (Fin.ext value)
    · intro equal
      rw [equal] at value
      exact quote value.symm
    · intro equal
      rw [equal] at value
      exact escape value.symm
  split
  · exact .unit ‹_›
  · refine .pair _ _ ?_ ?_ ?_ <;> omega

/-- Unless it begins with a second half, a written code point does not complete a pair: it begins
with no unit, or with one that is no second half. -/
theorem writtenCode_begin (q : Code) (tail : List Char) (apart : q.isLow = false) (more : tail ≠ []) :
    (∀ rest, writtenCode q ++ tail ≠ '\\' :: 'u' :: rest) ∨
    ∃ m rest, m < 0x10000 ∧ ¬ (0xDC00 ≤ m ∧ m ≤ 0xDFFF) ∧ rest ≠ [] ∧
      writtenCode q ++ tail = unitEscape m ++ rest := by
  have form := writtenCode_form q
  generalize writtenCode q = written at form ⊢
  cases form with
  | letter c e unit =>
    refine Or.inl fun rest equal => unit ?_
    simp only [List.cons_append, List.cons.injEq] at equal
    exact equal.2.1
  | plain c quote escape =>
    refine Or.inl fun rest equal => escape ?_
    simp only [List.cons_append, List.cons.injEq] at equal
    exact equal.1
  | unit small =>
    simp only [Code.isLow, Bool.and_eq_false_iff, decide_eq_false_iff_not] at apart
    exact Or.inr ⟨q.val, tail, small, by omega, more, rfl⟩
  | pair high low first =>
    exact Or.inr ⟨high, unitEscape low ++ tail, by omega, by omega, by simp [unitEscape],
      List.append_assoc _ _ _⟩

/-- A written code point reads back, unless it makes a pair with what follows. -/
theorem readText_writtenCode (start tail : List Char) (p : Code) (more : tail ≠ [])
    (alone : p.isHigh = true → (∀ rest, tail ≠ '\\' :: 'u' :: rest) ∨
      ∃ m rest, m < 0x10000 ∧ ¬ (0xDC00 ≤ m ∧ m ≤ 0xDFFF) ∧ rest ≠ [] ∧
        tail = unitEscape m ++ rest) :
    readText start (writtenCode p ++ tail) = before p (readText start tail) := by
  have form := writtenCode_form p
  generalize writtenCode p = written at form ⊢
  cases form with
  | letter c e unit known ascii value =>
    rw [← value]
    exact readText_letter start tail c e unit known
  | plain c quote escape ascii value =>
    rw [← value]
    exact readText_plain start tail c quote escape ascii.1
  | unit small =>
    have unitValue : Code.ofNat p.val = p := Code.ofNat_val p
    by_cases first : p.isHigh = true
    · rcases alone first with apart | ⟨m, rest, smallNext, second, moreRest, rfl⟩
      · rw [readText_unit start tail p.val small more (Or.inr apart), unitValue]
      · rw [readText_unit_unit start rest p.val m small smallNext moreRest second, unitValue]
    · simp only [Code.isHigh, Bool.and_eq_true, decide_eq_true_eq] at first
      rw [readText_unit start tail p.val small more (Or.inl first), unitValue]
  | pair high low first second value =>
    rw [List.append_assoc, readText_pair start tail high low first second more, value,
      Code.ofNat_val]

/-- A written text reads back if no pair stands in it as two halves. -/
theorem readText_written (start rest : List Char) (codes : List Code)
    (unpaired : CodeText.Unpaired ⟨codes⟩) :
    readText start (codes.flatMap writtenCode ++ '"' :: rest) = .ok (codes, rest) := by
  induction codes with
  | nil => exact readText_quote start rest
  | cons p codes ih =>
    have chain : List.IsChain (fun p q : Code => ¬ (p.isHigh = true ∧ q.isLow = true))
      (p :: codes) := unpaired
    rw [List.flatMap_cons, List.append_assoc, readText_writtenCode start _ p (by simp),
      ih (List.IsChain.tail chain)]
    · rfl
    · intro first
      cases codes with
      | nil => exact Or.inl fun rest equal => by simp at equal
      | cons q codes =>
        have second : q.isLow = false := by
          have apart := (List.isChain_cons_cons.mp chain).1
          simpa [first] using apart
        rw [List.flatMap_cons, List.append_assoc]
        exact writtenCode_begin q _ second (by simp)

end Json

end VoiceDebugger
