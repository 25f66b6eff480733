import VoiceDebugger.Pattern.Basic

/-!
Matches in a longer text.

What a pattern matches, it still matches when text is put around it, as long as no word runs over
the seams. A candidate need not stay the preferred one, since runs may go on behind the old end of
the text, but it stays a candidate.
-/

namespace VoiceDebugger

namespace Cursor

variable {back : List Char} {c d e : Cursor}

/-- Two cursors stand at the same place, the second one in a text that goes on with `back`. What
they have kept does not count. -/
structure GoesOn (back : List Char) (c d : Cursor) : Prop where
  rest : d.rest = c.rest ++ back
  before : d.before.any Text.isWordChar = c.before.any Text.isWordChar

theorem GoesOn.atEdge (apart : back.head?.any Text.isWordChar = false) (same : GoesOn back c d) :
    d.atEdge = c.atEdge := by
  have next : d.rest.head?.any Text.isWordChar = c.rest.head?.any Text.isWordChar := by
    rw [same.rest]
    cases c.rest with
    | nil => exact apart
    | cons x rest => rfl
  rw [Cursor.atEdge, Cursor.atEdge, same.before, next]

theorem shorter_subset_runs (k : CharClass) (kept : List (Nat × Nat)) (shorter : List Cursor)
    (position : Nat) (before : Option Char) (rest : List Char) :
    shorter ⊆ runs k kept shorter position before rest := by
  induction rest generalizing shorter position before with
  | nil => exact List.subset_cons_self _ _
  | cons x rest ih =>
    rw [runs]
    split
    · exact List.Subset.trans (List.subset_cons_self _ _) (ih _ _ _)
    · exact List.subset_cons_self _ _

/-- The empty run is a run. -/
theorem here_mem_runs (k : CharClass) (kept : List (Nat × Nat)) (shorter : List Cursor)
    (position : Nat) (before : Option Char) (rest : List Char) :
    ⟨position, before, rest, kept⟩ ∈ runs k kept shorter position before rest := by
  cases rest with
  | nil => exact List.mem_cons_self
  | cons x rest =>
    rw [runs]
    split
    · exact shorter_subset_runs _ _ _ _ _ _ List.mem_cons_self
    · exact List.mem_cons_self

theorem runs_goesOn {k : CharClass} {kept kept' : List (Nat × Nat)} {shorter shorter' : List Cursor}
    {position position' : Nat} {before before' : Option Char} {rest : List Char}
    (seen : before'.any Text.isWordChar = before.any Text.isWordChar)
    (others : ∀ e ∈ shorter, ∃ f ∈ shorter', GoesOn back e f)
    (member : e ∈ runs k kept shorter position before rest) :
    ∃ f ∈ runs k kept' shorter' position' before' (rest ++ back), GoesOn back e f := by
  induction rest generalizing shorter shorter' position position' before before' with
  | nil =>
    rcases List.mem_cons.mp member with rfl | member
    · exact ⟨_, here_mem_runs k kept' shorter' position' before' back, rfl, seen⟩
    · obtain ⟨f, known, same⟩ := others e member
      exact ⟨f, shorter_subset_runs _ _ _ _ _ _ known, same⟩
  | cons x rest ih =>
    have extended : ∀ e ∈ (⟨position, before, x :: rest, kept⟩ : Cursor) :: shorter,
        ∃ f ∈ (⟨position', before', x :: (rest ++ back), kept'⟩ : Cursor) :: shorter',
          GoesOn back e f := by
      intro e member
      rcases List.mem_cons.mp member with rfl | member
      · exact ⟨_, List.mem_cons_self, rfl, seen⟩
      · obtain ⟨f, known, same⟩ := others e member
        exact ⟨f, List.mem_cons_of_mem _ known, same⟩
    rw [List.cons_append, runs]
    rw [runs] at member
    split at member
    · next holds =>
      rw [if_pos holds]
      exact ih rfl extended member
    · next fails =>
      rw [if_neg fails]
      exact extended e member

end Cursor

namespace Pattern

open Cursor

/-- Each candidate stays one where the text goes on, if it does not go on with a word. -/
theorem candidates_goesOn (p : Pattern) {back : List Char} {c d e : Cursor}
    (apart : back.head?.any Text.isWordChar = false) (same : GoesOn back c d)
    (member : e ∈ p.candidates c) : ∃ f ∈ p.candidates d, GoesOn back e f := by
  induction p generalizing c d e with
  | empty =>
    obtain rfl := List.mem_singleton.mp member
    exact ⟨d, List.mem_singleton_self d, same⟩
  | one k =>
    rw [candidates] at member
    split at member
    · next x rest here =>
      split at member
      · next holds =>
        obtain rfl := List.mem_singleton.mp member
        have there : d.rest = x :: (rest ++ back) := by rw [same.rest, here, List.cons_append]
        refine ⟨⟨d.position + 1, some x, rest ++ back, d.kept⟩, ?_, rfl, rfl⟩
        rw [candidates, there]
        simp only [holds, ↓reduceIte, List.mem_singleton]
      · cases member
    · cases member
  | many k =>
    rw [candidates, same.rest]
    exact runs_goesOn same.before (by simp) member
  | edge =>
    rw [candidates] at member
    split at member
    · next here =>
      obtain rfl := List.mem_singleton.mp member
      rw [candidates, if_pos ((same.atEdge apart).trans here)]
      exact ⟨d, List.mem_singleton_self d, same⟩
    · cases member
  | both p q ihp ihq =>
    obtain ⟨middle, first, second⟩ := List.mem_flatMap.mp member
    obtain ⟨middle', first', between⟩ := ihp same first
    obtain ⟨f, second', behind⟩ := ihq between second
    exact ⟨f, List.mem_flatMap.mpr ⟨middle', first', second'⟩, behind⟩
  | either p q ihp ihq =>
    rcases List.mem_append.mp member with member | member
    · obtain ⟨f, found, behind⟩ := ihp same member
      exact ⟨f, List.mem_append_left _ found, behind⟩
    · obtain ⟨f, found, behind⟩ := ihq same member
      exact ⟨f, List.mem_append_right _ found, behind⟩
  | keep p ih =>
    obtain ⟨last, inside, rfl⟩ := List.mem_map.mp member
    obtain ⟨f, found, behind⟩ := ih same inside
    exact ⟨_, List.mem_map_of_mem found, behind.rest, behind.before⟩

theorem searchFrom_isSome_iff (p : Pattern) (position : Nat) (before : Option Char)
    (rest : List Char) :
    (p.searchFrom position before rest).isSome = true ↔
      ∃ front back, rest = front ++ back ∧
        p.candidates ⟨position + front.length, front.getLast?.or before, back, []⟩ ≠ [] := by
  induction rest generalizing position before with
  | nil =>
    rw [searchFrom, Option.isSome_map, List.isSome_head?]
    constructor
    · intro some
      exact ⟨[], [], rfl, by simpa using some⟩
    · rintro ⟨front, back, whole, some⟩
      obtain ⟨rfl, rfl⟩ := List.append_eq_nil_iff.mp whole.symm
      simpa using some
  | cons x rest ih =>
    rw [searchFrom]
    split
    · next c more here =>
      simp only [Option.isSome_some, true_iff]
      exact ⟨[], x :: rest, rfl, by simp [here]⟩
    · next here =>
      rw [ih]
      constructor
      · rintro ⟨front, back, rfl, some⟩
        refine ⟨x :: front, back, rfl, ?_⟩
        rw [List.length_cons, Nat.add_comm front.length, ← Nat.add_assoc, List.getLast?_cons]
        cases last : front.getLast? <;> simpa [last] using some
      · rintro ⟨front, back, whole, some⟩
        cases front with
        | nil =>
          rw [List.nil_append] at whole
          subst whole
          exact absurd here (by simpa using some)
        | cons y front =>
          obtain ⟨rfl, rfl⟩ := List.cons.inj whole
          refine ⟨front, back, rfl, ?_⟩
          rw [List.length_cons, Nat.add_comm front.length, ← Nat.add_assoc,
            List.getLast?_cons] at some
          cases last : front.getLast? <;> simpa [last] using some

/-- A pattern occurs in a text if it has a candidate at some place. -/
theorem occursIn_iff (p : Pattern) (text : List Char) :
    p.occursIn text = true ↔
      ∃ front back, text = front ++ back ∧
        p.candidates ⟨front.length, front.getLast?, back, []⟩ ≠ [] := by
  rw [occursIn, search, searchFrom_isSome_iff]
  simp only [Nat.zero_add, Option.or_none]

/-- A pattern that occurs in a text occurs in every longer text, if no word runs over the seams. -/
theorem occursIn_surrounded (p : Pattern) {front text back : List Char}
    (apartFront : front.getLast?.any Text.isWordChar = false)
    (apartBack : back.head?.any Text.isWordChar = false) (found : p.occursIn text = true) :
    p.occursIn (front ++ text ++ back) = true := by
  rw [occursIn_iff] at found ⊢
  obtain ⟨before, here, rfl, some⟩ := found
  refine ⟨front ++ before, here ++ back, by simp only [List.append_assoc], ?_⟩
  have seen : (front ++ before).getLast?.any Text.isWordChar =
      before.getLast?.any Text.isWordChar := by
    rw [List.getLast?_append]
    cases before.getLast? with
    | none => exact apartFront
    | some x => rfl
  obtain ⟨e, member⟩ := List.exists_mem_of_ne_nil _ some
  obtain ⟨f, kept, -⟩ := p.candidates_goesOn
    (d := ⟨(front ++ before).length, (front ++ before).getLast?, here ++ back, []⟩)
    apartBack ⟨rfl, seen⟩ member
  exact List.ne_nil_of_mem kept

end Pattern

end VoiceDebugger
