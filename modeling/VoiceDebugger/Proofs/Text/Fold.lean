import Mathlib.Data.List.Forall2
import VoiceDebugger.Text.Blank
import VoiceDebugger.Text.Digit
import VoiceDebugger.Text.Lines
import VoiceDebugger.Text.Lower
import VoiceDebugger.Text.Word

/-!
Texts that differ only in the case of letters and in the kinds of blanks.

Folding a character forgets just that: capital letters of ASCII become small and every blank becomes
a space. Similar texts have one folded form, so what can be said about a text by its folded form is
the same for all texts that are similar to it. Lower case is of this kind, up to the kinds of
blanks.
-/

namespace VoiceDebugger.Text

/-- Two characters that are equal, or the same letter of ASCII in either case, or both blank. -/
def Alike (a b : Char) : Prop :=
  a = b ∨ (a.isAlpha = true ∧ b.isAlpha = true ∧ a.toLower = b.toLower) ∨
    (isBlank a = true ∧ isBlank b = true)

instance (a b : Char) : Decidable (Alike a b) :=
  inferInstanceAs (Decidable (_ ∨ _))

/-- Two texts of equal length whose characters are alike at every position. -/
def Similar (text other : List Char) : Prop :=
  List.Forall₂ Alike text other

instance (text other : List Char) : Decidable (Similar text other) :=
  inferInstanceAs (Decidable (List.Forall₂ Alike text other))

/-- A character without its case, where it is a letter of ASCII, and without its kind, where it is a
blank. -/
def fold (c : Char) : Char :=
  if isBlank c then ' ' else c.toLower

/-- A character without its kind, where it is a blank. -/
def foldBlank (c : Char) : Char :=
  if isBlank c then ' ' else c

/-! ### Blanks -/

/-- The code points of the blanks. -/
def blankCodes : List Nat := [
  9, 10, 11, 12, 13, 28, 29, 30, 31, 32, 0x85, 0xA0, 0x1680, 0x2000, 0x2001, 0x2002, 0x2003, 0x2004,
  0x2005, 0x2006, 0x2007, 0x2008, 0x2009, 0x200A, 0x2028, 0x2029, 0x202F, 0x205F, 0x3000]

/-- What holds of each code point in the table holds of every blank. -/
theorem of_isBlank (P : Char → Prop) (table : ∀ n ∈ blankCodes, P (Char.ofNat n)) {c : Char}
    (blank : isBlank c = true) : P c := by
  have listed : c.toNat ∈ blankCodes := by
    simp only [isBlank, Bool.or_eq_true, Bool.and_eq_true, decide_eq_true_eq, beq_iff_eq] at blank
    simp only [blankCodes, List.mem_cons, List.not_mem_nil, or_false]
    omega
  rw [← Char.ofNat_toNat c]
  exact table c.toNat listed

/-- What holds of each code point below 128 holds of every character of ASCII. -/
theorem of_ascii (P : Char → Prop) (table : ∀ n < 128, P (Char.ofNat n)) {c : Char}
    (ascii : c.toNat < 128) : P c := by
  rw [← Char.ofNat_toNat c]
  exact table c.toNat ascii

/-- Blanks are in none of the classes of letters and digits, and each is its own lower case. -/
theorem classes_of_isBlank {c : Char} (blank : isBlank c = true) :
    isWordChar c = false ∧ isDecimal c = false ∧ isCased c = false ∧ isCaseIgnorable c = false ∧
      lowerChar c = c :=
  of_isBlank (fun c => isWordChar c = false ∧ isDecimal c = false ∧ isCased c = false ∧
    isCaseIgnorable c = false ∧ lowerChar c = c) (by decide +kernel) blank

theorem isWordChar_of_isBlank {c : Char} (blank : isBlank c = true) : isWordChar c = false :=
  (classes_of_isBlank blank).1

theorem isDecimal_of_isBlank {c : Char} (blank : isBlank c = true) : isDecimal c = false :=
  (classes_of_isBlank blank).2.1

/-! ### Letters -/

/-- What holds of the twenty-six capital letters holds of every capital letter. -/
theorem of_capital (P : Char → Prop) (table : ∀ k < 26, P (Char.ofNat (65 + k))) {c : Char}
    (low : 65 ≤ c.toNat) (high : c.toNat ≤ 90) : P c := by
  have capital := table (c.toNat - 65) (by omega)
  rwa [Nat.add_sub_cancel' low, Char.ofNat_toNat] at capital

theorem toLower_of_no_capital {c : Char} (other : ¬ (65 ≤ c.toNat ∧ c.toNat ≤ 90)) :
    c.toLower = c :=
  dif_neg fun capital => other ⟨capital.1, capital.2⟩

/-- What folding does to a character: a blank becomes a space, a capital becomes small, and nothing
happens to any other. -/
theorem fold_cases (c : Char) :
    (isBlank c = true ∧ fold c = ' ') ∨
    (isBlank c = false ∧ 65 ≤ c.toNat ∧ c.toNat ≤ 90 ∧ fold c = c.toLower) ∨
    (isBlank c = false ∧ fold c = c) := by
  cases blank : isBlank c with
  | true => exact .inl ⟨rfl, by rw [fold, blank]; rfl⟩
  | false =>
    have folded : fold c = c.toLower := by
      rw [fold, blank]
      rfl
    by_cases capital : 65 ≤ c.toNat ∧ c.toNat ≤ 90
    · exact .inr (.inl ⟨rfl, capital.1, capital.2, folded⟩)
    · exact .inr (.inr ⟨rfl, folded.trans (toLower_of_no_capital capital)⟩)

/-- A function that gives the same for all blanks, and the same for each letter in either case, does
not notice folding. -/
theorem apply_fold {α : Type} {f : Char → α} (c : Char)
    (blanks : isBlank c = true → f c = f ' ')
    (letters : ∀ k < 26, f (Char.ofNat (65 + k)) = f (Char.ofNat (65 + k)).toLower) :
    f (fold c) = f c := by
  rcases fold_cases c with ⟨blank, folded⟩ | ⟨-, low, high, folded⟩ | ⟨-, folded⟩
  · rw [folded, blanks blank]
  · rw [folded]
    exact (of_capital (fun c => f c = f c.toLower) letters low high).symm
  · rw [folded]

theorem isBlank_fold (c : Char) : isBlank (fold c) = isBlank c :=
  apply_fold c (fun blank => by rw [blank]; rfl) (by decide)

/-- The classes of letters and digits hold a capital letter exactly if they hold the small one, and
the two have one lower case. -/
theorem classes_toLower : ∀ k < 26, let c := Char.ofNat (65 + k)
    isWordChar c = isWordChar c.toLower ∧ isDecimal c = isDecimal c.toLower ∧
      isCased c = isCased c.toLower ∧ isCaseIgnorable c = isCaseIgnorable c.toLower ∧
      lowerChar c = lowerChar c.toLower := by
  decide

theorem isWordChar_fold (c : Char) : isWordChar (fold c) = isWordChar c :=
  apply_fold c (fun blank => by rw [isWordChar_of_isBlank blank]; rfl)
    fun k capital => (classes_toLower k capital).1

theorem isDecimal_fold (c : Char) : isDecimal (fold c) = isDecimal c :=
  apply_fold c (fun blank => by rw [isDecimal_of_isBlank blank]; rfl)
    fun k capital => (classes_toLower k capital).2.1

theorem isCased_fold (c : Char) : isCased (fold c) = isCased c :=
  apply_fold c (fun blank => by rw [(classes_of_isBlank blank).2.2.1]; rfl)
    fun k capital => (classes_toLower k capital).2.2.1

theorem isCaseIgnorable_fold (c : Char) : isCaseIgnorable (fold c) = isCaseIgnorable c :=
  apply_fold c (fun blank => by rw [(classes_of_isBlank blank).2.2.2.1]; rfl)
    fun k capital => (classes_toLower k capital).2.2.2.1

/-- A character that is neither a letter of ASCII nor blank is only folded from itself. -/
theorem fold_eq_iff {c x : Char} (letter : c.isAlpha = false) (blank : isBlank c = false) :
    fold x = c ↔ x = c := by
  constructor
  · rintro rfl
    rcases fold_cases x with ⟨-, folded⟩ | ⟨-, low, high, folded⟩ | ⟨-, folded⟩
    · rw [folded] at blank
      cases blank
    · rw [folded] at letter
      have small : x.toLower.isAlpha = true :=
        of_capital (·.toLower.isAlpha = true) (by decide) low high
      rw [small] at letter
      cases letter
    · exact folded.symm
  · rintro rfl
    rcases fold_cases x with ⟨blank', -⟩ | ⟨-, low, high, -⟩ | ⟨-, folded⟩
    · rw [blank'] at blank
      cases blank
    · have capital : x.isAlpha = true :=
        of_capital (·.isAlpha = true) (by decide) low high
      rw [capital] at letter
      cases letter
    · exact folded

theorem ascii_of_isAlpha {c : Char} (letter : c.isAlpha = true) : c.toNat < 128 := by
  rcases Bool.or_eq_true_iff.mp letter with capital | small
  · have high : c.val ≤ 'Z'.val := (of_decide_eq_true capital).2
    exact Nat.lt_of_le_of_lt (UInt32.le_iff_toNat_le.mp high) (by decide)
  · have high : c.val ≤ 'z'.val := of_decide_eq_true (Bool.and_eq_true_iff.mp small).2
    exact Nat.lt_of_le_of_lt (UInt32.le_iff_toNat_le.mp high) (by decide)

theorem isDecimal_of_isAlpha {c : Char} (letter : c.isAlpha = true) : isDecimal c = false :=
  of_ascii (fun c => c.isAlpha = true → isDecimal c = false) (by decide)
    (ascii_of_isAlpha letter) letter

/-! ### Similar texts -/

theorem not_isBlank_of_isAlpha {c : Char} (letter : c.isAlpha = true) : isBlank c = false := by
  cases blank : isBlank c with
  | false => rfl
  | true =>
    have none : c.isAlpha = false := of_isBlank (·.isAlpha = false) (by decide) blank
    rw [none] at letter
    cases letter

theorem Alike.fold_eq {a b : Char} (alike : Alike a b) : fold a = fold b := by
  rcases alike with rfl | ⟨letter, letter', same⟩ | ⟨blank, blank'⟩
  · rfl
  · rw [fold, fold, not_isBlank_of_isAlpha letter, not_isBlank_of_isAlpha letter']
    exact same
  · rw [fold, fold, blank, blank']
    rfl

theorem Similar.map_fold_eq {text other : List Char} (similar : Similar text other) :
    text.map fold = other.map fold := by
  induction similar with
  | nil => rfl
  | cons alike _ ih => rw [List.map_cons, List.map_cons, alike.fold_eq, ih]

theorem Alike.symm {a b : Char} (alike : Alike a b) : Alike b a := by
  rcases alike with rfl | ⟨letter, letter', same⟩ | ⟨blank, blank'⟩
  · exact .inl rfl
  · exact .inr (.inl ⟨letter', letter, same.symm⟩)
  · exact .inr (.inr ⟨blank', blank⟩)

theorem Similar.symm {text other : List Char} (similar : Similar text other) :
    Similar other text := by
  induction similar with
  | nil => exact .nil
  | cons alike _ ih => exact .cons alike.symm ih

theorem Similar.length_eq {text other : List Char} (similar : Similar text other) :
    text.length = other.length :=
  List.Forall₂.length_eq similar

/-- Digits have neither case nor kinds, so similar numbers are equal. -/
theorem Similar.eq_of_isDecimal {text other : List Char} (similar : Similar text other)
    (digits : ∀ c ∈ text, isDecimal c = true) : text = other := by
  induction similar with
  | nil => rfl
  | @cons a b text other alike _ ih =>
    obtain ⟨first, others⟩ := List.forall_mem_cons.mp digits
    rw [ih others]
    rcases alike with rfl | ⟨letter, -, -⟩ | ⟨blank, -⟩
    · rfl
    · rw [isDecimal_of_isAlpha letter] at first
      cases first
    · rw [isDecimal_of_isBlank blank] at first
      cases first

/-! ### Lower case -/

theorem foldBlank_lowerChar_fold (c : Char) :
    foldBlank (lowerChar (fold c)) = foldBlank (lowerChar c) := by
  refine apply_fold (f := fun c => foldBlank (lowerChar c)) c (fun blank => ?_) fun k capital => ?_
  · rw [(classes_of_isBlank blank).2.2.2.2, foldBlank, blank]
    rfl
  · exact congrArg foldBlank (classes_toLower k capital).2.2.2.2

theorem startsCased_fold (cs : List Char) : startsCased (cs.map fold) = startsCased cs := by
  induction cs with
  | nil => rfl
  | cons c cs ih =>
    rw [startsCased, startsCased, List.map_cons, List.dropWhile_cons, List.dropWhile_cons,
      isCaseIgnorable_fold]
    by_cases ignored : isCaseIgnorable c = true
    · rw [if_pos ignored, if_pos ignored]
      exact ih
    · rw [if_neg ignored, if_neg ignored]
      exact isCased_fold c

theorem toNat_fold_beq {c : Char} {n : Nat} (valid : (Char.ofNat n).toNat = n)
    (letter : (Char.ofNat n).isAlpha = false) (blank : isBlank (Char.ofNat n) = false) :
    ((fold c).toNat == n) = (c.toNat == n) := by
  have same : ∀ x : Char, x.toNat = n ↔ x = Char.ofNat n := by
    intro x
    constructor
    · rintro rfl
      exact (Char.ofNat_toNat x).symm
    · rintro rfl
      exact valid
  rw [Bool.eq_iff_iff, beq_iff_eq, beq_iff_eq, same, same, fold_eq_iff letter blank]

/-- A folded text has the same lower case, up to the kinds of blanks. -/
theorem lowerFrom_fold (before text : List Char) :
    (lowerFrom (before.map fold) (text.map fold)).map foldBlank =
      (lowerFrom before text).map foldBlank := by
  induction text generalizing before with
  | nil => rfl
  | cons c text ih =>
    have rest := ih (c :: before)
    rw [List.map_cons] at rest
    rw [List.map_cons, lowerFrom, lowerFrom, toNat_fold_beq rfl rfl rfl, toNat_fold_beq rfl rfl rfl,
      startsCased_fold, startsCased_fold]
    split
    · rw [List.map_cons, List.map_cons, List.map_cons, List.map_cons, rest]
    · split
      · split
        · rw [List.map_cons, List.map_cons, rest]
        · rw [List.map_cons, List.map_cons, rest]
      · rw [List.map_cons, List.map_cons, rest, foldBlank_lowerChar_fold]

theorem Similar.lowerFrom_eq {text other : List Char} (similar : Similar text other) :
    (lowerFrom [] text).map foldBlank = (lowerFrom [] other).map foldBlank := by
  rw [← lowerFrom_fold [] text, ← lowerFrom_fold [] other, similar.map_fold_eq]

/-! ### Words in a text -/

theorem foldBlank_beq {c x : Char} (blank : isBlank c = false) : (c == foldBlank x) = (c == x) := by
  rw [foldBlank]
  split
  · next blank' =>
    have other : c ≠ x := by
      rintro rfl
      rw [blank] at blank'
      cases blank'
    have noSpace : c ≠ ' ' := by
      rintro rfl
      cases blank
    rw [beq_false_of_ne other, beq_false_of_ne noSpace]
  · rfl

/-- A text without blanks has no other text with the same folded form. -/
theorem eq_of_map_foldBlank {text other : List Char} (solid : ∀ c ∈ text, isBlank c = false)
    (same : text.map foldBlank = other.map foldBlank) : text = other := by
  induction text generalizing other with
  | nil => exact (List.map_eq_nil_iff.mp same.symm).symm
  | cons c text ih =>
    obtain ⟨first, others⟩ := List.forall_mem_cons.mp solid
    cases other with
    | nil => cases same
    | cons x other =>
      obtain ⟨head, tail⟩ := List.cons.inj same
      have kept : foldBlank c = c := by
        rw [foldBlank, first]
        rfl
      have equal : (c == x) = true := by
        rw [← foldBlank_beq first, ← head, kept]
        exact beq_self_eq_true c
      rw [beq_iff_eq.mp equal, ih others tail]

theorem isPrefixOf_foldBlank {word : List Char} (solid : ∀ c ∈ word, isBlank c = false)
    (text : List Char) : word.isPrefixOf (text.map foldBlank) = word.isPrefixOf text := by
  induction word generalizing text with
  | nil => rfl
  | cons c word ih =>
    obtain ⟨first, others⟩ := List.forall_mem_cons.mp solid
    cases text with
    | nil => rfl
    | cons x text =>
      rw [List.map_cons, List.isPrefixOf, List.isPrefixOf, foldBlank_beq first, ih others]

/-- A word without blanks is found without looking at the kinds of blanks. -/
theorem occursIn_foldBlank {word : List Char} (solid : ∀ c ∈ word, isBlank c = false)
    (text : List Char) : occursIn word (text.map foldBlank) = occursIn word text := by
  induction text with
  | nil => rfl
  | cons x text ih =>
    have here := isPrefixOf_foldBlank solid (x :: text)
    rw [List.map_cons] at here
    rw [List.map_cons, occursIn, occursIn, here, ih]

end VoiceDebugger.Text
