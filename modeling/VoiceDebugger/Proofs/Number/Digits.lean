import VoiceDebugger.Number.Read

/-!
Reading an integer that is written with digits alone.

A digit of any script is neither blank nor a sign, so a run of digits is read as a whole, and only
its length can stand in the way.
-/

namespace VoiceDebugger

namespace Text

theorem isBlank_digitRow :
    ∀ z ∈ zeros.toList, ∀ k < 10, isBlank (Char.ofNat (z + k)) = false := by
  decide

theorem not_isBlank_of_isDecimal {c : Char} (decimal : isDecimal c = true) : isBlank c = false := by
  rw [isDecimal, digitValue?] at decimal
  split at decimal
  · next ascii =>
    split at decimal
    · next digit => grind [isBlank]
    · simp at decimal
  · rw [Option.isSome_map, Array.find?_isSome] at decimal
    obtain ⟨z, row, within⟩ := decimal
    obtain ⟨low, high⟩ : z ≤ c.toNat ∧ c.toNat < z + 10 := by simpa using within
    have blank := isBlank_digitRow z (Array.mem_def.mp row) (c.toNat - z) (by omega)
    rwa [Nat.add_sub_cancel' low, Char.ofNat_toNat] at blank

/-- A text without blanks is its own trimmed form. -/
theorem trim_eq_self {cs : List Char} (solid : ∀ c ∈ cs, isBlank c = false) : trim cs = cs := by
  have dropped : ∀ ds : List Char, (∀ c ∈ ds, isBlank c = false) → ds.dropWhile isBlank = ds := by
    intro ds solid
    cases ds with
    | nil => rfl
    | cons d ds => rw [List.dropWhile_cons, solid d List.mem_cons_self]; rfl
  rw [trim, trimStart, dropped cs solid, trimEnd, dropped _ (by simpa using solid),
    List.reverse_reverse]

end Text

namespace Number

/-- The number that some digits write, whatever their scripts. -/
def valueOf (digits : List Char) : Nat :=
  ofDigits (digits.filterMap Text.digitValue?)

theorem length_digitValues {cs : List Char} (decimal : ∀ c ∈ cs, Text.isDecimal c = true) :
    (cs.filterMap Text.digitValue?).length = cs.length :=
  List.filterMap_length_eq_length.mpr decimal

theorem takeDigits_decimal (afterDigit : Bool) (cs : List Char)
    (decimal : ∀ c ∈ cs, Text.isDecimal c = true) :
    takeDigits afterDigit cs = (cs.filterMap Text.digitValue?, []) := by
  induction cs generalizing afterDigit with
  | nil => rfl
  | cons c cs ih =>
    obtain ⟨first, others⟩ := List.forall_mem_cons.mp decimal
    obtain ⟨d, value⟩ := Option.isSome_iff_exists.mp first
    rw [takeDigits.eq_def]
    simp only [value, ih true others, List.filterMap_cons]

theorem takeSign_decimal {cs : List Char} (decimal : ∀ c ∈ cs, Text.isDecimal c = true) :
    takeSign cs = (false, cs) := by
  unfold takeSign
  split
  · exact absurd (decimal '-' List.mem_cons_self) (by decide)
  · exact absurd (decimal '+' List.mem_cons_self) (by decide)
  · rfl

/-- Digits alone are an integer, unless there are too many. -/
theorem readInt_digits (s : String) (written : s.toList ≠ [])
    (decimal : ∀ c ∈ s.toList, Text.isDecimal c = true) :
    readInt s = if digitLimit < s.toList.length then .error (.tooLong s.toList.length)
      else .ok (valueOf s.toList) := by
  have some : (s.toList.filterMap Text.digitValue?).isEmpty = false := by
    rw [List.isEmpty_eq_false_iff, ← List.length_pos_iff, length_digitValues decimal,
      List.length_pos_iff]
    exact written
  have solid := fun c member => Text.not_isBlank_of_isDecimal (decimal c member)
  rw [readInt, Text.trim_eq_self solid, takeSign_decimal decimal]
  dsimp only
  rw [takeDigits_decimal false s.toList decimal]
  simp only [some, List.isEmpty_nil, Bool.not_true, Bool.or_self, Bool.false_eq_true, ↓reduceIte,
    length_digitValues decimal]
  rfl

theorem readInt_decimal (s : String) (written : s.toList ≠ [])
    (decimal : ∀ c ∈ s.toList, Text.isDecimal c = true) :
    (∃ n, readInt s = .ok n) ∨
      readInt s = .error (.tooLong s.toList.length) ∧ digitLimit < s.toList.length := by
  rw [readInt_digits s written decimal]
  split
  · next long => exact .inr ⟨rfl, long⟩
  · exact .inl ⟨_, rfl⟩

/-! ### Written numbers -/

theorem digitValue?_of_isDigit {c : Char} (digit : c.isDigit = true) :
    Text.digitValue? c = some (c.toNat - '0'.toNat) := by
  obtain ⟨low, high⟩ : '0'.toNat ≤ c.toNat ∧ c.toNat ≤ '9'.toNat := by
    simpa [Char.isDigit, UInt32.le_iff_toNat_le] using digit
  have zero : '0'.toNat = 48 := rfl
  have nine : '9'.toNat = 57 := rfl
  rw [Text.digitValue?, if_pos (by omega), if_pos (by omega), zero]

theorem digitValues_of_isDigit {cs : List Char} (digits : ∀ c ∈ cs, c.isDigit = true) :
    cs.filterMap Text.digitValue? = cs.map fun c => c.toNat - '0'.toNat := by
  induction cs with
  | nil => rfl
  | cons c cs ih =>
    obtain ⟨first, others⟩ := List.forall_mem_cons.mp digits
    rw [List.filterMap_cons, digitValue?_of_isDigit first, List.map_cons, ih others]

theorem isDecimal_of_mem_toDigits {n : Nat} {c : Char} (member : c ∈ Nat.toDigits 10 n) :
    Text.isDecimal c = true := by
  rw [Text.isDecimal, digitValue?_of_isDigit
    (Nat.isDigit_of_mem_toDigits (by decide) (by decide) member)]
  rfl

/-- A number is the value of the digits with which it is written. -/
theorem valueOf_toDigits (n : Nat) : valueOf (Nat.toDigits 10 n) = n := by
  have digits : ∀ c ∈ Nat.toDigits 10 n, c.isDigit = true := fun c member =>
    Nat.isDigit_of_mem_toDigits (by decide) (by decide) member
  rw [valueOf, digitValues_of_isDigit digits, ofDigits, List.foldl_map]
  exact Nat.ofDigitChars_ten_toDigits

end Number

/-- Some digits that follow each other in a text are too many to be read. -/
def HasLongNumber (text : List Char) : Prop :=
  ∃ digits, digits <:+: text ∧ 4300 < digits.length ∧ ∀ c ∈ digits, Text.isDecimal c = true

end VoiceDebugger
