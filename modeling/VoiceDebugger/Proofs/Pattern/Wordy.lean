import VoiceDebugger.Proofs.Pattern.Kept
import VoiceDebugger.Proofs.Text.Fold

/-!
Patterns that read words: word characters only, and at least one.
-/

namespace VoiceDebugger

/-- The letters that match a small letter are word characters. -/
theorem isWordChar_of_smallLetter? {x : Char} (letter : (smallLetter? x).isSome = true) :
    Text.isWordChar x = true := by
  have wide : ∀ n ∈ [0x130, 0x131, 0x17F, 0x212A], Text.isWordChar (Char.ofNat n) = true := by
    decide +kernel
  by_cases low : x.toNat < 128
  · exact Text.of_ascii (fun x => (smallLetter? x).isSome = true → Text.isWordChar x = true)
      (by decide) low letter
  · have listed : x.toNat ∈ [0x130, 0x131, 0x17F, 0x212A] := by grind [smallLetter?]
    have known := wide x.toNat listed
    rwa [Char.ofNat_toNat] at known

/-- Whether a class is known to hold word characters only. -/
def CharClass.isWordy : CharClass → Bool
  | .letter _ | .anyLetter | .wordChar => true
  | _ => false

theorem CharClass.isWordChar_of_contains {k : CharClass} (wordy : k.isWordy = true) {x : Char}
    (holds : k.contains x = true) : Text.isWordChar x = true := by
  cases k with
  | letter c =>
    apply isWordChar_of_smallLetter?
    rw [contains, beq_iff_eq] at holds
    rw [holds]
    rfl
  | anyLetter => exact isWordChar_of_smallLetter? holds
  | wordChar => exact holds
  | _ => cases wordy

namespace Pattern

/-- Whether a pattern reads word characters only. -/
def isWordy : Pattern → Bool
  | .one k | .many k => k.isWordy
  | .both p q | .either p q => p.isWordy && q.isWordy
  | .keep p => p.isWordy
  | .empty | .edge => true

/-- Whether a pattern never matches without reading. -/
def isReading : Pattern → Bool
  | .one _ => true
  | .both p q => p.isReading || q.isReading
  | .either p q => p.isReading && q.isReading
  | .keep p => p.isReading
  | .many _ | .empty | .edge => false

theorem reads_wordy (p : Pattern) (wordy : p.isWordy = true) {read : List Char}
    (reads : p.Reads read) : ∀ c ∈ read, Text.isWordChar c = true := by
  induction p generalizing read with
  | empty =>
    intro c member
    rw [show read = [] from reads] at member
    cases member
  | one k =>
    obtain ⟨x, rfl, holds⟩ := reads
    intro c member
    rw [List.mem_singleton.mp member]
    exact CharClass.isWordChar_of_contains wordy holds
  | many k => exact fun c member => CharClass.isWordChar_of_contains wordy (reads c member)
  | edge =>
    intro c member
    rw [show read = [] from reads] at member
    cases member
  | both p q ihp ihq =>
    obtain ⟨wordyp, wordyq⟩ := Bool.and_eq_true_iff.mp wordy
    obtain ⟨front, back, rfl, first, second⟩ := reads
    intro c member
    rcases List.mem_append.mp member with member | member
    · exact ihp wordyp first c member
    · exact ihq wordyq second c member
  | either p q ihp ihq =>
    obtain ⟨wordyp, wordyq⟩ := Bool.and_eq_true_iff.mp wordy
    rcases reads with reads | reads
    · exact ihp wordyp reads
    · exact ihq wordyq reads
  | keep p ih => exact ih wordy reads

theorem reads_reading (p : Pattern) (reading : p.isReading = true) {read : List Char}
    (reads : p.Reads read) : read ≠ [] := by
  induction p generalizing read with
  | one k =>
    obtain ⟨x, rfl, -⟩ := reads
    exact List.cons_ne_nil x []
  | both p q ihp ihq =>
    obtain ⟨front, back, rfl, first, second⟩ := reads
    rcases Bool.or_eq_true_iff.mp reading with reading | reading
    · exact List.append_ne_nil_of_left_ne_nil (ihp reading first) back
    · exact List.append_ne_nil_of_right_ne_nil front (ihq reading second)
  | either p q ihp ihq =>
    obtain ⟨readingp, readingq⟩ := Bool.and_eq_true_iff.mp reading
    rcases reads with reads | reads
    · exact ihp readingp reads
    · exact ihq readingq reads
  | keep p ih => exact ih reading reads
  | _ => cases reading

end Pattern

end VoiceDebugger
