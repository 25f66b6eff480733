import Mathlib.Algebra.Group.Nat.Defs
import VoiceDebugger.Json.Printer
import VoiceDebugger.Json.Reader

/-!
Reading back a written integer.

An integer reads back if it has no more digits than the reader takes; otherwise the reader stops and
tells how many there are.
-/

namespace VoiceDebugger.Json

/-- Nothing follows by which a number would go on. -/
def EndsNumber (rest : List Char) : Prop :=
  ∀ c more, rest = c :: more → c.isDigit = false ∧ c ≠ '.' ∧ c ≠ 'e' ∧ c ≠ 'E'

theorem endsNumber_nil : EndsNumber [] := by
  intro c more equal
  cases equal

theorem endsNumber_cons (c : Char) (more : List Char)
    (apart : c.isDigit = false ∧ c ≠ '.' ∧ c ≠ 'e' ∧ c ≠ 'E') : EndsNumber (c :: more) := by
  intro d other equal
  cases equal
  exact apart

/-- What reading gives where an integer may be too long: the value, or the number of digits. -/
def outcome {α : Type} (excess : Option Nat) (a : α) : Except ReadFault α :=
  match excess with
  | none => .ok a
  | some digits => .error (.longInteger digits)

/-- The number of digits of an integer that has too many. -/
def excess? (n : Int) : Option Nat :=
  let count := (Number.digitChars n.natAbs).length
  if count > Number.digitLimit then some count else none

theorem excess?_eq_none_iff (n : Int) :
    excess? n = none ↔ n.natAbs < 10 ^ Number.digitLimit := by
  have bound : (Number.digitChars n.natAbs).length ≤ Number.digitLimit ↔
      n.natAbs < 10 ^ Number.digitLimit :=
    Nat.length_toDigits_le_iff (by decide) (by decide)
  simp only [excess?, ite_eq_right_iff, reduceCtorEq, imp_false, gt_iff_lt, Nat.not_lt]
  exact bound

theorem isDigit_of_mem_digitChars (n : Nat) (c : Char) (mem : c ∈ Number.digitChars n) :
    c.isDigit = true :=
  Nat.isDigit_of_mem_toDigits (by decide) (by decide) mem

theorem digitsValue_digitChars (n : Nat) : digitsValue (Number.digitChars n) = n :=
  Nat.ofDigitChars_ten_toDigits

/-- Only zero is written with a zero in front. -/
theorem digitChars_head (n : Nat) (positive : 0 < n) :
    ∃ c ds, Number.digitChars n = c :: ds ∧ c ≠ '0' := by
  induction n using Nat.strongRecOn with
  | ind n ih =>
    by_cases small : n < 10
    · refine ⟨n.digitChar, [], Nat.toDigits_of_lt_base small, ?_⟩
      have values : ∀ d < 10, 0 < d → d.digitChar ≠ '0' := by decide
      exact values n small positive
    · obtain ⟨c, ds, front, nonzero⟩ := ih (n / 10) (by omega) (by omega)
      refine ⟨c, ds ++ [(n % 10).digitChar], ?_, nonzero⟩
      have step : Number.digitChars n = Number.digitChars (n / 10) ++ [(n % 10).digitChar] :=
        Nat.toDigits_of_base_le (by decide) (by omega)
      rw [step, front, List.cons_append]

theorem asciiDigits_append (ds rest : List Char) (digits : ∀ c ∈ ds, c.isDigit = true)
    (ends : EndsNumber rest) : asciiDigits (ds ++ rest) = (ds, rest) := by
  have stop : rest.takeWhile Char.isDigit = [] ∧ rest.dropWhile Char.isDigit = rest := by
    cases rest with
    | nil => exact ⟨rfl, rfl⟩
    | cons c more =>
      have apart := (ends c more rfl).1
      simp only [List.takeWhile_cons, List.dropWhile_cons, apart, Bool.false_eq_true, ↓reduceIte,
        and_self]
  simp only [asciiDigits, List.takeWhile_append_of_pos digits, List.dropWhile_append_of_pos digits,
    stop, List.append_nil]

theorem integerPart_digitChars (n : Nat) (rest : List Char) (ends : EndsNumber rest) :
    integerPart (Number.digitChars n ++ rest) = some (Number.digitChars n, rest) := by
  by_cases zero : n = 0
  · subst zero
    rfl
  obtain ⟨c, ds, front, nonzero⟩ := digitChars_head n (by omega)
  have digit : c.isDigit = true := isDigit_of_mem_digitChars n c (by rw [front]; simp)
  have digits := asciiDigits_append (Number.digitChars n) rest (isDigit_of_mem_digitChars n) ends
  rw [front] at digits ⊢
  rw [List.cons_append] at digits ⊢
  rw [integerPart]
  · simp only [digit, ↓reduceIte, digits]
  · exact nonzero

theorem fractionPart_ends (rest : List Char) (ends : EndsNumber rest) : fractionPart rest = none := by
  cases rest with
  | nil => rfl
  | cons c more =>
    have apart := (ends c more rfl).2.1
    rw [fractionPart]
    intro d tail equal
    exact apart (List.cons.inj equal).1

theorem exponentPart_ends (rest : List Char) (ends : EndsNumber rest) : exponentPart rest = none := by
  cases rest with
  | nil => rfl
  | cons c more =>
    obtain ⟨-, -, lower, upper⟩ := ends c more rfl
    simp [exponentPart, lower, upper]

theorem intText_toList (n : Int) :
    (intText n).toList = (if n < 0 then ['-'] else []) ++ Number.digitChars n.natAbs := by
  simp only [intText, Number.signed, decide_eq_true_eq, String.toList_ofList]
  split <;> rfl

theorem takeMinus_digitChars (n : Nat) (rest : List Char) :
    takeMinus (Number.digitChars n ++ rest) = (false, Number.digitChars n ++ rest) := by
  obtain ⟨c, ds, front⟩ := List.exists_cons_of_ne_nil
    (show Number.digitChars n ≠ [] from Nat.toDigits_ne_nil)
  have digit : c.isDigit = true := isDigit_of_mem_digitChars n c (by rw [front]; simp)
  rw [front, List.cons_append, takeMinus]
  intro tail equal
  rw [(List.cons.inj equal).1] at digit
  exact absurd digit (by decide)

theorem takeMinus_intText (n : Int) (rest : List Char) :
    takeMinus ((intText n).toList ++ rest) =
      (decide (n < 0), Number.digitChars n.natAbs ++ rest) := by
  rw [intText_toList]
  by_cases negative : n < 0
  · simp only [negative, ↓reduceIte, decide_true, List.cons_append, List.nil_append]
    rfl
  · simp only [negative, ↓reduceIte, decide_false, List.nil_append]
    exact takeMinus_digitChars n.natAbs rest

/-- A written integer reads back, up to the limit on its digits. -/
theorem readNumber_intText (n : Int) (rest : List Char) (ends : EndsNumber rest) :
    readNumber ((intText n).toList ++ rest) = outcome (excess? n) (some (.int n, rest)) := by
  have value : (if decide (n < 0) = true then -(n.natAbs : Int) else n.natAbs) = n := by
    simp only [decide_eq_true_eq]
    split <;> omega
  simp only [readNumber, takeMinus_intText, integerPart_digitChars n.natAbs rest ends,
    fractionPart_ends rest ends, exponentPart_ends rest ends, Option.getD_none, List.isEmpty_nil,
    ↓reduceIte, digitsValue_digitChars, value]
  by_cases long : (Number.digitChars n.natAbs).length > Number.digitLimit
  · simp only [excess?, long, ↓reduceIte, outcome]
  · simp only [excess?, long, ↓reduceIte, outcome]

end VoiceDebugger.Json
