import VoiceDebugger.Pattern.Basic

/-!
What patterns read and keep.

What a pattern reads is said apart from where it stands, so that edges read nothing. The cursor
behind a candidate stands behind something that the pattern reads, and what a match keeps was read
by a part of the pattern that keeps.
-/

namespace VoiceDebugger

namespace Pattern

/-- Whether a pattern can read some characters, wherever they stand. -/
def Reads : Pattern → List Char → Prop
  | .empty, read => read = []
  | .one k, read => ∃ x, read = [x] ∧ k.contains x = true
  | .many k, read => ∀ x ∈ read, k.contains x = true
  | .edge, read => read = []
  | .both p q, read => ∃ front back, read = front ++ back ∧ p.Reads front ∧ q.Reads back
  | .either p q, read => p.Reads read ∨ q.Reads read
  | .keep p, read => p.Reads read

/-- The parts of a pattern that keep what they read. -/
def keeping : Pattern → List Pattern
  | .both p q => p.keeping ++ q.keeping
  | .either p q => p.keeping ++ q.keeping
  | .keep p => p :: p.keeping
  | _ => []

theorem reads_some1 {k : CharClass} {read : List Char} (reads : (some1 k).Reads read) :
    read ≠ [] ∧ ∀ x ∈ read, k.contains x = true := by
  obtain ⟨_, more, rfl, ⟨x, rfl, first⟩, others⟩ := reads
  refine ⟨by simp, fun y member => ?_⟩
  rcases List.mem_cons.mp member with rfl | member
  · exact first
  · exact others y member

theorem slice_of_drop {text read rest : List Char} {position : Nat}
    (behind : text.drop position = read ++ rest) :
    slice text (position, position + read.length) = read := by
  rw [slice, behind, Nat.add_sub_cancel_left, List.take_left]

theorem slice_inside (text : List Char) (range : Nat × Nat) : slice text range <:+: text :=
  (List.take_prefix _ _).isInfix.trans (List.drop_suffix _ _).isInfix

end Pattern

namespace Cursor

/-- A cursor stands in a text, and each range that it keeps was read by one of some patterns. -/
structure Within (text : List Char) (parts : List Pattern) (c : Cursor) : Prop where
  rest : text.drop c.position = c.rest
  kept : ∀ range ∈ c.kept, ∃ q ∈ parts, q.Reads (Pattern.slice text range)

/-- A cursor stands behind another one, with some characters between them. -/
structure Behind (c : Cursor) (read : List Char) (d : Cursor) : Prop where
  rest : c.rest = read ++ d.rest
  position : d.position = c.position + read.length
  before : d.before = read.getLast?.or c.before

variable {text : List Char} {parts : List Pattern} {c d e : Cursor}

theorem Behind.refl (c : Cursor) : Behind c [] c := ⟨rfl, rfl, rfl⟩

theorem Behind.trans {front back : List Char} (first : Behind c front d)
    (second : Behind d back e) : Behind c (front ++ back) e where
  rest := by rw [first.rest, second.rest, List.append_assoc]
  position := by rw [second.position, first.position, List.length_append, Nat.add_assoc]
  before := by rw [second.before, first.before, List.getLast?_append, Option.or_assoc]

theorem Behind.rest_of {read tail : List Char} (moved : Behind c read d)
    (here : c.rest = read ++ tail) : d.rest = tail :=
  (List.append_cancel_left (here.symm.trans moved.rest)).symm

theorem Behind.within {read : List Char} (moved : Behind c read d)
    (within : text.drop c.position = c.rest) : text.drop d.position = d.rest := by
  rw [moved.position, ← List.drop_drop, within, moved.rest, List.drop_left]

/-- A cursor that has moved on still stands in the text. -/
theorem Within.move {read : List Char} (within : c.Within text parts) (moved : Behind c read d)
    (same : d.kept = c.kept) : d.Within text parts where
  rest := moved.within within.rest
  kept := by rw [same]; exact within.kept

theorem mem_runs {k : CharClass} {kept : List (Nat × Nat)} {shorter : List Cursor} {position : Nat}
    {before : Option Char} {rest : List Char}
    (member : d ∈ runs k kept shorter position before rest) :
    d ∈ shorter ∨ ∃ read, (∀ x ∈ read, k.contains x = true) ∧
      Behind ⟨position, before, rest, kept⟩ read d ∧ d.kept = kept := by
  induction rest generalizing shorter position before with
  | nil =>
    rcases List.mem_cons.mp member with rfl | member
    · exact .inr ⟨[], by simp, .refl _, rfl⟩
    · exact .inl member
  | cons x rest ih =>
    rw [runs] at member
    split at member
    · next holds =>
      rcases ih member with shorter | ⟨read, all, moved, same⟩
      · rcases List.mem_cons.mp shorter with rfl | shorter
        · exact .inr ⟨[], by simp, .refl _, rfl⟩
        · exact .inl shorter
      · refine .inr ⟨x :: read, by simpa using ⟨holds, all⟩, ⟨?_, ?_, ?_⟩, same⟩
        · exact congrArg (x :: ·) moved.rest
        · rw [moved.position, List.length_cons, Nat.add_assoc, Nat.add_comm 1]
        · rw [moved.before, List.getLast?_cons, Option.some_or]
          cases read.getLast? <;> rfl
    · rcases List.mem_cons.mp member with rfl | member
      · exact .inr ⟨[], by simp, .refl _, rfl⟩
      · exact .inl member

end Cursor

namespace Pattern

open Cursor

variable {text : List Char} {parts : List Pattern} {c d : Cursor}

/-- The cursor behind a candidate stands behind what the pattern has read. -/
theorem candidates_behind (p : Pattern) (member : d ∈ p.candidates c) :
    ∃ read, p.Reads read ∧ Behind c read d := by
  induction p generalizing c d with
  | empty =>
    obtain rfl := List.mem_singleton.mp member
    exact ⟨[], rfl, .refl _⟩
  | one k =>
    rw [candidates] at member
    split at member
    · next x rest here =>
      split at member
      · next holds =>
        obtain rfl := List.mem_singleton.mp member
        exact ⟨[x], ⟨x, rfl, holds⟩, here, rfl, rfl⟩
      · cases member
    · cases member
  | many k =>
    rcases mem_runs member with none | ⟨read, all, moved, -⟩
    · cases none
    · exact ⟨read, all, moved⟩
  | edge =>
    rw [candidates] at member
    split at member
    · obtain rfl := List.mem_singleton.mp member
      exact ⟨[], rfl, .refl _⟩
    · cases member
  | both p q ihp ihq =>
    obtain ⟨middle, first, second⟩ := List.mem_flatMap.mp member
    obtain ⟨front, readsp, movedp⟩ := ihp first
    obtain ⟨back, readsq, movedq⟩ := ihq second
    exact ⟨front ++ back, ⟨front, back, rfl, readsp, readsq⟩, movedp.trans movedq⟩
  | either p q ihp ihq =>
    rcases List.mem_append.mp member with member | member
    · obtain ⟨read, reads, moved⟩ := ihp member
      exact ⟨read, .inl reads, moved⟩
    · obtain ⟨read, reads, moved⟩ := ihq member
      exact ⟨read, .inr reads, moved⟩
  | keep p ih =>
    obtain ⟨last, inside, rfl⟩ := List.mem_map.mp member
    obtain ⟨read, reads, moved⟩ := ih inside
    exact ⟨read, reads, moved.rest, moved.position, moved.before⟩

/-- A pattern that keeps nothing leaves what was kept before. -/
theorem kept_of_keeping_nil (p : Pattern) (none : p.keeping = [])
    (member : d ∈ p.candidates c) : d.kept = c.kept := by
  induction p generalizing c d with
  | empty => rw [List.mem_singleton.mp member]
  | one k =>
    rw [candidates] at member
    split at member
    · split at member
      · rw [List.mem_singleton.mp member]
      · cases member
    · cases member
  | many k =>
    rcases mem_runs member with none | ⟨-, -, -, same⟩
    · cases none
    · exact same
  | edge =>
    rw [candidates] at member
    split at member
    · rw [List.mem_singleton.mp member]
    · cases member
  | both p q ihp ihq =>
    obtain ⟨nonep, noneq⟩ := List.append_eq_nil_iff.mp none
    obtain ⟨middle, first, second⟩ := List.mem_flatMap.mp member
    rw [ihq noneq second, ihp nonep first]
  | either p q ihp ihq =>
    obtain ⟨nonep, noneq⟩ := List.append_eq_nil_iff.mp none
    rcases List.mem_append.mp member with member | member
    · exact ihp nonep member
    · exact ihq noneq member
  | keep p ih => cases none

/-- The cursor behind a candidate stands in the text as well. -/
theorem candidates_within (p : Pattern) (within : c.Within text parts) (known : p.keeping ⊆ parts)
    (member : d ∈ p.candidates c) : d.Within text parts := by
  have still : ∀ {c d : Cursor} (q : Pattern), c.Within text parts → q.keeping = [] →
      d ∈ q.candidates c → d.Within text parts := by
    intro c d q within none member
    obtain ⟨read, -, moved⟩ := q.candidates_behind member
    exact within.move moved (q.kept_of_keeping_nil none member)
  induction p generalizing c d with
  | empty => exact still .empty within rfl member
  | one k => exact still (.one k) within rfl member
  | many k => exact still (.many k) within rfl member
  | edge => exact still .edge within rfl member
  | both p q ihp ihq =>
    obtain ⟨knownp, knownq⟩ := List.append_subset.mp known
    obtain ⟨middle, first, second⟩ := List.mem_flatMap.mp member
    exact ihq (ihp within knownp first) knownq second
  | either p q ihp ihq =>
    obtain ⟨knownp, knownq⟩ := List.append_subset.mp known
    rcases List.mem_append.mp member with member | member
    · exact ihp within knownp member
    · exact ihq within knownq member
  | keep p ih =>
    obtain ⟨itself, inner⟩ := List.cons_subset.mp known
    obtain ⟨last, inside, rfl⟩ := List.mem_map.mp member
    obtain ⟨read, reads, moved⟩ := p.candidates_behind inside
    have behind := ih within inner inside
    refine ⟨behind.rest, fun range kept => ?_⟩
    rcases List.mem_append.mp kept with kept | kept
    · exact behind.kept range kept
    · -- The range that is added is what the part itself has just read.
      obtain rfl := List.mem_singleton.mp kept
      refine ⟨p, itself, ?_⟩
      rw [moved.position, slice_of_drop (within.rest.trans moved.rest)]
      exact reads

/-- A match that is found starts somewhere in the text. -/
theorem exists_of_searchFrom {p : Pattern} {position n : Nat} {before : Option Char} {rest : List Char}
    (within : text.drop position = rest)
    (found : p.searchFrom position before rest = some (n, d)) :
    ∃ e : Cursor, e.kept = [] ∧ text.drop e.position = e.rest ∧ d ∈ p.candidates e := by
  induction rest generalizing position before with
  | nil =>
    obtain ⟨e, first, same⟩ := Option.map_eq_some_iff.mp found
    obtain ⟨-, rfl⟩ := Prod.mk.inj same
    exact ⟨_, rfl, within, List.mem_of_head? first⟩
  | cons x rest ih =>
    rw [searchFrom] at found
    split at found
    · next e more candidates =>
      obtain ⟨-, rfl⟩ := Prod.mk.inj (Option.some.inj found)
      exact ⟨_, rfl, within, candidates ▸ List.mem_cons_self⟩
    · refine ih ?_ found
      rw [← List.drop_drop, within, List.drop_one, List.tail_cons]

theorem searchFrom_within (p : Pattern) {position start : Nat} {before : Option Char}
    {rest : List Char} {d : Cursor} (here : text.drop position = rest)
    (found : p.searchFrom position before rest = some (start, d)) : d.Within text p.keeping := by
  obtain ⟨c, fresh, within, member⟩ := exists_of_searchFrom here found
  exact candidates_within p ⟨within, by simp [fresh]⟩ (List.Subset.refl _) member

/-- What a match keeps stands in the text, and a part of the pattern that keeps has read it. -/
theorem firstKept?_reads {p : Pattern} {s : String} (found : p.firstKept? text = some s) :
    s.toList <:+: text ∧ ∃ q ∈ p.keeping, q.Reads s.toList := by
  obtain ⟨⟨start, c⟩, matched, rest⟩ := Option.bind_eq_some_iff.mp found
  obtain ⟨range, first, same⟩ := Option.bind_eq_some_iff.mp rest
  obtain rfl := Option.some.inj same
  rw [String.toList_ofList]
  have within := searchFrom_within p (List.drop_zero) matched
  exact ⟨slice_inside text range, within.kept range (List.mem_of_head? first)⟩

end Pattern

end VoiceDebugger
