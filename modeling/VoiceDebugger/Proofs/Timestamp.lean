import Mathlib.Data.List.TakeWhile
import VoiceDebugger.Timestamp

/-!
Reading back a written point in time.
-/

namespace VoiceDebugger.Timestamp

/-- A point in time on a clock that names no distance from universal time. -/
structure IsLocal (t : Timestamp) : Prop where
  real : t.isReal = true
  fraction : t.microsecond < 1000000
  zone : t.offset = none

/-! ### Fixed numbers of digits -/

theorem padded_succ (width n : Nat) (positive : 0 < width) :
    Number.padded (width + 1) n = Number.padded width (n / 10) ++ [(n % 10).digitChar] := by
  simp only [Number.padded, Number.digitChars]
  by_cases small : n < 10
  · have quotient : n / 10 = 0 := by omega
    have remainder : n % 10 = n := by omega
    rw [Nat.toDigits_of_lt_base small, quotient, remainder, Nat.toDigits_zero]
    obtain ⟨less, rfl⟩ : ∃ less, width = less + 1 := ⟨width - 1, by omega⟩
    simp only [List.length_cons, List.length_nil, Nat.add_sub_cancel, Nat.zero_add,
      List.replicate_succ', List.append_assoc]
  · rw [Nat.toDigits_of_base_le (by decide) (by omega), List.length_append, List.length_singleton,
      Nat.add_sub_add_right, List.append_assoc]

theorem padded_one (n : Nat) (small : n < 10) : Number.padded 1 n = [n.digitChar] := by
  simp only [Number.padded, Number.digitChars, Nat.toDigits_of_lt_base small]
  rfl

theorem padded_two (n : Nat) (small : n < 100) :
    Number.padded 2 n = [(n / 10).digitChar, (n % 10).digitChar] := by
  rw [padded_succ 1 n (by decide), padded_one (n / 10) (by omega)]
  rfl

theorem padded_four (n : Nat) (small : n < 10000) :
    Number.padded 4 n = [(n / 1000).digitChar, (n / 100 % 10).digitChar, (n / 10 % 10).digitChar,
      (n % 10).digitChar] := by
  rw [padded_succ 3 n (by decide), padded_succ 2 (n / 10) (by decide),
    padded_two (n / 10 / 10) (by omega)]
  simp only [Nat.div_div_eq_div_mul]
  rfl

theorem padded_six (n : Nat) (small : n < 1000000) :
    Number.padded 6 n = [(n / 100000).digitChar, (n / 10000 % 10).digitChar,
      (n / 1000 % 10).digitChar, (n / 100 % 10).digitChar, (n / 10 % 10).digitChar,
      (n % 10).digitChar] := by
  rw [padded_succ 5 n (by decide), padded_succ 4 (n / 10) (by decide),
    padded_four (n / 10 / 10) (by omega)]
  simp only [Nat.div_div_eq_div_mul]
  rfl

theorem digit?_digitChar : ∀ d < 10, digit? d.digitChar = some d := by
  decide

theorem takeNumber_two (n : Nat) (rest : List Char) (small : n < 100) :
    takeNumber 2 0 (Number.padded 2 n ++ rest) = some (n, rest) := by
  rw [padded_two n small]
  simp only [List.cons_append, List.nil_append, takeNumber, digit?_digitChar (n / 10) (by omega),
    digit?_digitChar (n % 10) (by omega), Option.bind_some, Option.some.injEq, Prod.mk.injEq,
    and_true]
  omega

theorem takeNumber_four (n : Nat) (rest : List Char) (small : n < 10000) :
    takeNumber 4 0 (Number.padded 4 n ++ rest) = some (n, rest) := by
  rw [padded_four n small]
  simp only [List.cons_append, List.nil_append, takeNumber, digit?_digitChar (n / 1000) (by omega),
    digit?_digitChar (n / 100 % 10) (by omega), digit?_digitChar (n / 10 % 10) (by omega),
    digit?_digitChar (n % 10) (by omega), Option.bind_some, Option.some.injEq, Prod.mk.injEq,
    and_true]
  omega

theorem takeNumber_six (n : Nat) (rest : List Char) (small : n < 1000000) :
    takeNumber 6 0 (Number.padded 6 n ++ rest) = some (n, rest) := by
  rw [padded_six n small]
  simp only [List.cons_append, List.nil_append, takeNumber,
    digit?_digitChar (n / 100000) (by omega), digit?_digitChar (n / 10000 % 10) (by omega),
    digit?_digitChar (n / 1000 % 10) (by omega), digit?_digitChar (n / 100 % 10) (by omega),
    digit?_digitChar (n / 10 % 10) (by omega), digit?_digitChar (n % 10) (by omega),
    Option.bind_some, Option.some.injEq, Prod.mk.injEq, and_true]
  omega

/-- Digits are taken for nothing else that a date or a time may hold. -/
theorem digitChar_apart : ∀ d < 10, d.digitChar ≠ 'W' ∧ d.digitChar ≠ '-' ∧
    isZoneMark d.digitChar = false := by
  decide

/-! ### The parts of a written point in time -/

/-- A written date. -/
def dateChars (year month day : Nat) : List Char :=
  Number.padded 4 year ++ '-' :: (Number.padded 2 month ++ '-' :: Number.padded 2 day)

/-- A written fraction of a second. -/
def fractionChars (microsecond : Nat) : List Char :=
  if microsecond = 0 then [] else '.' :: Number.padded 6 microsecond

/-- A written time of day. -/
def clockChars (hour minute second microsecond : Nat) : List Char :=
  Number.padded 2 hour ++ ':' :: (Number.padded 2 minute ++ ':' ::
    (Number.padded 2 second ++ fractionChars microsecond))

theorem text_toList (t : Timestamp) (zone : t.offset = none) :
    t.text.toList = dateChars t.year t.month t.day ++
      'T' :: clockChars t.hour t.minute t.second t.microsecond := by
  have fraction : (fractionText t.microsecond).toList = fractionChars t.microsecond := by
    simp only [fractionText, fractionChars, beq_iff_eq, digits]
    split
    · rfl
    · simp only [String.toList_append, String.toList_ofList]
      rfl
  simp only [text, zone, Option.map_none, Option.getD_none, String.toList_append, digits,
    String.toList_ofList, fraction, dateChars, clockChars, List.append_assoc, List.cons_append]
  simp

theorem readDate_dateChars (year month day : Nat) (smallYear : year < 10000)
    (smallMonth : month < 100) (smallDay : day < 100) :
    readDate (dateChars year month day) = some (year, month, day) := by
  have year' := takeNumber_four year ('-' :: (Number.padded 2 month ++ '-' :: Number.padded 2 day))
    smallYear
  have month' := takeNumber_two month ('-' :: Number.padded 2 day) smallMonth
  have day' := takeNumber_two day [] smallDay
  have week : ((Number.padded 2 month ++ '-' :: Number.padded 2 day).head? == some 'W') = false := by
    rw [padded_two month smallMonth]
    simp [(digitChar_apart (month / 10) (by omega)).1]
  rw [List.append_nil] at day'
  simp only [readDate, dateChars, year', List.head?_cons, beq_self_eq_true, ↓reduceIte,
    List.drop_one, List.tail_cons, week, month', skip, day', Bool.false_eq_true, List.isEmpty_nil,
    Option.bind_eq_bind, Option.bind_some]

theorem dateLength_dateChars (year month day : Nat) (rest : List Char) (smallYear : year < 10000)
    (smallMonth : month < 100) (smallDay : day < 100) :
    dateLength (dateChars year month day ++ rest) = some 10 := by
  have week := (digitChar_apart (month / 10) (by omega)).1
  rw [dateChars, padded_four year smallYear, padded_two month smallMonth, padded_two day smallDay]
  simp [dateLength, week]

theorem mayEnd_nil (zoned : Bool) : mayEnd zoned [] = true := by
  cases zoned <;> rfl

theorem readFraction_six (zoned : Bool) (n : Nat) (small : n < 1000000) :
    readFraction zoned (Number.padded 6 n) = some n := by
  have number := takeNumber_six n [] small
  have length : (Number.padded 6 n).length = 6 := by
    rw [padded_six n small]
    rfl
  rw [List.append_nil] at number
  simp only [readFraction, length, Nat.min_self, number, Option.bind_eq_bind, Option.bind_some,
    List.dropWhile_nil, mayEnd_nil, ↓reduceIte, Nat.sub_self, Nat.pow, Nat.mul_one]

theorem readClock_clockChars (zoned : Bool) (hour minute second microsecond : Nat)
    (smallHour : hour < 100) (smallMinute : minute < 100) (smallSecond : second < 100)
    (smallFraction : microsecond < 1000000) :
    readClock zoned (clockChars hour minute second microsecond) =
      some (hour, minute, second, microsecond) := by
  have hour' := takeNumber_two hour (':' :: (Number.padded 2 minute ++ ':' ::
    (Number.padded 2 second ++ fractionChars microsecond))) smallHour
  have minute' := takeNumber_two minute (':' :: (Number.padded 2 second ++ fractionChars microsecond))
    smallMinute
  have second' := takeNumber_two second (fractionChars microsecond) smallSecond
  simp only [clockChars, readClock, hour', Option.bind_eq_bind, Option.bind_some]
  split
  · rename_i equal
    cases equal
  · rename_i equal
    rw [padded_two minute smallMinute] at equal
    cases equal
  rename_i c rest _ equal
  cases equal
  simp only [beq_self_eq_true, ↓reduceIte, minute', Option.bind_some]
  simp only [show (':' == '.') = false from rfl, show (':' == ',') = false from rfl, Bool.or_self,
    Bool.false_eq_true, ↓reduceIte]
  split
  · rename_i equal
    cases equal
  · rename_i equal
    rw [padded_two second smallSecond] at equal
    cases equal
  rename_i c rest _ equal
  cases equal
  simp only [show (':' == '.') = false from rfl, show (':' == ',') = false from rfl, Bool.or_self,
    Bool.false_eq_true, ↓reduceIte, bne_self_eq_false, Bool.and_false, second', Option.bind_some]
  by_cases whole : microsecond = 0
  · simp only [fractionChars, whole, ↓reduceIte]
  · simp only [fractionChars, whole, ↓reduceIte]
    split
    · rename_i equal
      cases equal
    · rename_i equal
      rw [padded_six microsecond smallFraction] at equal
      cases equal
    rename_i c rest _ equal
    cases equal
    simp only [beq_self_eq_true, Bool.true_or, ↓reduceIte,
      readFraction_six zoned microsecond smallFraction, Option.bind_some]

theorem clockChars_zone (hour minute second microsecond : Nat) (smallHour : hour < 100)
    (smallMinute : minute < 100) (smallSecond : second < 100)
    (smallFraction : microsecond < 1000000) :
    ∀ c ∈ clockChars hour minute second microsecond, (!isZoneMark c) = true := by
  have digit (d : Nat) (small : d < 10) : isZoneMark d.digitChar = false :=
    (digitChar_apart d small).2.2
  have pair (n : Nat) (small : n < 100) : ∀ c ∈ Number.padded 2 n, isZoneMark c = false := by
    intro c mem
    rw [padded_two n small] at mem
    simp only [List.mem_cons, List.not_mem_nil, or_false] at mem
    rcases mem with rfl | rfl
    · exact digit _ (by omega)
    · exact digit _ (by omega)
  have tail : ∀ c ∈ fractionChars microsecond, isZoneMark c = false := by
    intro c mem
    rw [fractionChars] at mem
    split at mem
    · cases mem
    rw [padded_six microsecond smallFraction] at mem
    simp only [List.mem_cons, List.not_mem_nil, or_false] at mem
    rcases mem with rfl | rfl | rfl | rfl | rfl | rfl | rfl
    · rfl
    all_goals exact digit _ (by omega)
  intro c mem
  rw [Bool.not_eq_true']
  simp only [clockChars, List.mem_append, List.mem_cons] at mem
  rcases mem with first | rfl | first | rfl | first | last
  · exact pair hour smallHour c first
  · rfl
  · exact pair minute smallMinute c first
  · rfl
  · exact pair second smallSecond c first
  · exact tail c last

theorem dateChars_length (year month day : Nat) (smallYear : year < 10000)
    (smallMonth : month < 100) (smallDay : day < 100) : (dateChars year month day).length = 10 := by
  rw [dateChars, padded_four year smallYear, padded_two month smallMonth, padded_two day smallDay]
  rfl

theorem bounds_of_isReal (t : Timestamp) (real : t.isReal = true) :
    t.year < 10000 ∧ t.month < 100 ∧ t.day < 100 ∧ t.hour < 100 ∧ t.minute < 100 ∧
      t.second < 100 := by
  simp only [isReal, Bool.and_eq_true, decide_eq_true_eq] at real
  have month : daysIn t.year t.month ≤ 31 := by
    simp only [daysIn]
    split
    · split <;> omega
    · split <;> omega
  omega

/-- A point in time on a local clock reads back. -/
theorem read?_text (t : Timestamp) (clock : t.IsLocal) : read? t.text = some t := by
  obtain ⟨year, month, day, hour, minute, second⟩ := bounds_of_isReal t clock.real
  have length := dateChars_length t.year t.month t.day year month day
  have zones := clockChars_zone t.hour t.minute t.second t.microsecond hour minute second
    clock.fraction
  have time : (t.text.toList.drop (10 + 1)) =
      clockChars t.hour t.minute t.second t.microsecond := by
    rw [text_toList t clock.zone, ← length, List.drop_append]
    simp
  have date : t.text.toList.take 10 = dateChars t.year t.month t.day := by
    rw [text_toList t clock.zone, ← length, List.take_left]
  have long : ¬ t.text.toList.length ≤ 10 := by
    rw [text_toList t clock.zone, List.length_append, length]
    simp
  have mark : dateLength t.text.toList = some 10 := by
    rw [text_toList t clock.zone]
    exact dateLength_dateChars t.year t.month t.day _ year month day
  have all : (clockChars t.hour t.minute t.second t.microsecond).takeWhile
      (fun c => !isZoneMark c) = clockChars t.hour t.minute t.second t.microsecond :=
    List.takeWhile_eq_self_iff.mpr zones
  simp only [read?, mark, date, long, time, all, ↓reduceIte, Option.bind_eq_bind, Option.bind_some,
    readDate_dateChars t.year t.month t.day year month day,
    readClock_clockChars _ t.hour t.minute t.second t.microsecond hour minute second clock.fraction,
    List.drop_length, readOffset]
  have same : (⟨t.year, t.month, t.day, t.hour, t.minute, t.second, t.microsecond, none⟩ :
      Timestamp) = t := by
    rw [← clock.zone]
  rw [same, clock.real]
  rfl

end VoiceDebugger.Timestamp
