import VoiceDebugger.Text.Code

/-!
The code points of a text of characters: they show as that text, so no two texts share them.
-/

namespace VoiceDebugger

theorem Code.ofChar_val (c : Char) : (Code.ofChar c).val = c.toNat := rfl

theorem Code.ofChar_whole (c : Char) :
    (Code.ofChar c).isHigh = false ∧ (Code.ofChar c).isLow = false := by
  have valid : c.toNat < 0xD800 ∨ 0xDFFF < c.toNat ∧ c.toNat < 0x110000 := c.valid
  constructor
  · apply Bool.eq_false_iff.mpr
    intro high
    simp only [Code.isHigh, Bool.and_eq_true, decide_eq_true_eq] at high
    rw [Code.ofChar_val] at high
    omega
  · apply Bool.eq_false_iff.mpr
    intro low
    simp only [Code.isLow, Bool.and_eq_true, decide_eq_true_eq] at low
    rw [Code.ofChar_val] at low
    omega

theorem Code.shown_ofChar (c : Char) : (Code.ofChar c).shown = c := by
  rw [Code.shown, (Code.ofChar_whole c).1, (Code.ofChar_whole c).2, Code.ofChar_val]
  exact Char.ofNat_toNat c

theorem CodeText.shown_ofString (s : String) : (CodeText.ofString s).shown = s := by
  rw [CodeText.shown, CodeText.ofString, List.map_map]
  have same : Code.shown ∘ Code.ofChar = id := funext Code.shown_ofChar
  rw [same, List.map_id, String.ofList_toList]

theorem CodeText.ofString_inj (a b : String) :
    CodeText.ofString a = CodeText.ofString b ↔ a = b := by
  refine ⟨fun same => ?_, fun same => by rw [same]⟩
  rw [← CodeText.shown_ofString a, same, CodeText.shown_ofString]

end VoiceDebugger
