import Mathlib.Data.List.Induction
import Mathlib.Data.List.TakeWhile
import VoiceDebugger.Text.Blank

/-!
Blanks at the ends of a text.

What stands before or behind a character that is no blank is trimmed on its own.
-/

namespace VoiceDebugger.Text

theorem trimStart_append_solid {c : Char} (solid : isBlank c = false) (front back : List Char) :
    trimStart (front ++ c :: back) = trimStart front ++ c :: back := by
  rw [trimStart, trimStart, List.dropWhile_append, List.dropWhile_cons_of_neg (by simp [solid])]
  split
  · next blank => rw [List.isEmpty_iff.mp blank, List.nil_append]
  · rfl

theorem trimEnd_append_solid {c : Char} (solid : isBlank c = false) (front back : List Char) :
    trimEnd (front ++ c :: back) = front ++ c :: trimEnd back := by
  have turned : (front ++ c :: back).reverse = back.reverse ++ c :: front.reverse := by simp
  have dropped := trimStart_append_solid solid back.reverse front.reverse
  rw [trimStart, trimStart] at dropped
  rw [trimEnd, turned, dropped, trimEnd]
  simp

theorem trimEnd_append_blank {c : Char} (blank : isBlank c = true) (front : List Char) :
    trimEnd (front ++ [c]) = trimEnd front := by
  rw [trimEnd, List.reverse_append, List.reverse_singleton, List.singleton_append,
    List.dropWhile_cons_of_pos blank, trimEnd]

theorem prefix_trimEnd (cs : List Char) : trimEnd cs <+: cs := by
  rw [trimEnd, ← List.reverse_suffix, List.reverse_reverse]
  exact List.dropWhile_suffix _

/-- Blanks that are dropped at the back first make no difference. -/
theorem trim_trimEnd (cs : List Char) : trim (trimEnd cs) = trim cs := by
  induction cs using List.reverseRecOn with
  | nil => rfl
  | append_singleton cs c ih =>
    cases solid : isBlank c with
    | true =>
      have dropped : trimEnd (trimStart (cs ++ [c])) = trimEnd (trimStart cs) := by
        rw [trimStart, List.dropWhile_append]
        split
        · next blank =>
          rw [List.dropWhile_cons_of_pos solid, trimStart, List.isEmpty_iff.mp blank,
            List.dropWhile_nil]
        · exact trimEnd_append_blank solid _
      rw [trimEnd_append_blank solid, ih, trim, trim, dropped]
    | false => rw [trimEnd_append_solid solid]; rfl

/-- A text that ends in no blank stands in another one just where it stands in that one trimmed. -/
theorem infix_trimEnd {c : Char} (solid : isBlank c = false) (word cs : List Char) :
    word ++ [c] <:+: trimEnd cs ↔ word ++ [c] <:+: cs := by
  constructor
  · intro inside
    exact inside.trans (prefix_trimEnd cs).isInfix
  · rintro ⟨front, back, rfl⟩
    have kept := trimEnd_append_solid solid (front ++ word) back
    refine ⟨front, trimEnd back, ?_⟩
    simpa using kept.symm

/-- A text with the blanks around it taken away: none is left at its ends. -/
structure Stripped (text inner : List Char) : Prop where
  blanks : ∃ front back, text = front ++ inner ++ back ∧ ∀ c ∈ front ++ back, isBlank c = true
  first : ∀ c, inner.head? = some c → isBlank c = false
  last : ∀ c, inner.getLast? = some c → isBlank c = false

theorem head?_trimStart (cs : List Char) : ∀ c, (trimStart cs).head? = some c → isBlank c = false := by
  intro c first
  have solid := List.head?_dropWhile_not isBlank cs
  rw [← trimStart, first] at solid
  simpa using solid

/-- What is dropped at the back is blank. -/
theorem trimEnd_append_dropped (cs : List Char) :
    trimEnd cs ++ (cs.reverse.takeWhile isBlank).reverse = cs := by
  rw [trimEnd, ← List.reverse_append, List.takeWhile_append_dropWhile, List.reverse_reverse]

theorem stripped_trim (cs : List Char) : Stripped cs (trim cs) where
  blanks := by
    refine ⟨cs.takeWhile isBlank, ((trimStart cs).reverse.takeWhile isBlank).reverse, ?_, ?_⟩
    · rw [trim, List.append_assoc, trimEnd_append_dropped, trimStart,
        List.takeWhile_append_dropWhile]
    · intro c member
      rw [List.mem_append, List.mem_reverse] at member
      cases member with
      | inl front => exact List.mem_takeWhile_imp front
      | inr back => exact List.mem_takeWhile_imp back
  first := by
    intro c first
    apply head?_trimStart cs
    obtain ⟨rest, starts⟩ := List.head?_eq_some_iff.mp first
    obtain ⟨back, whole⟩ := prefix_trimEnd (trimStart cs)
    rw [← whole, ← trim, starts]
    rfl
  last := by
    intro c last
    apply head?_trimStart (trimStart cs).reverse
    rwa [trim, trimEnd, List.getLast?_reverse] at last

end VoiceDebugger.Text
