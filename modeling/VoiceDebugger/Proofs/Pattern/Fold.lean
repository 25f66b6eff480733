import VoiceDebugger.Pattern.Basic
import VoiceDebugger.Proofs.Text.Fold

/-!
Patterns that do not look at the case of letters and at the kinds of blanks.

If none of its classes does, a pattern runs through a folded text just as it runs through the text
itself, with the same candidates in the same order at the same places. So it finds and keeps the
same places in similar texts.
-/

namespace VoiceDebugger

open Text

/-! ### Classes -/

theorem smallLetter?_of_isBlank {c : Char} (blank : isBlank c = true) : smallLetter? c = none :=
  of_isBlank (smallLetter? · = none) (by decide) blank

theorem smallLetter?_fold (c : Char) : smallLetter? (fold c) = smallLetter? c :=
  apply_fold c (fun blank => by rw [smallLetter?_of_isBlank blank]; rfl) (by decide)

namespace CharClass

/-- A character that has neither case nor kinds. -/
def isPlain (c : Char) : Bool :=
  !c.isAlpha && !isBlank c

/-- Whether a class names single characters only if they are plain. -/
def isBlind : CharClass → Bool
  | .only c | .butNot c => isPlain c
  | .oneOf cs => cs.all isPlain
  | _ => true

theorem fold_beq {c : Char} (plain : isPlain c = true) (x : Char) : (fold x == c) = (x == c) := by
  simp only [isPlain, Bool.and_eq_true, Bool.not_eq_true'] at plain
  rw [Bool.eq_iff_iff, beq_iff_eq, beq_iff_eq, fold_eq_iff plain.1 plain.2]

/-- Such a class does not notice folding. -/
theorem contains_fold (k : CharClass) (blind : k.isBlind = true) (x : Char) :
    k.contains (fold x) = k.contains x := by
  cases k with
  | only c => exact fold_beq blind x
  | letter c => rw [contains, contains, smallLetter?_fold]
  | anyLetter => rw [contains, contains, smallLetter?_fold]
  | anyLetterOrScore => rw [contains, contains, smallLetter?_fold, fold_beq rfl]
  | wordChar => exact isWordChar_fold x
  | blank => exact isBlank_fold x
  | digit => exact isDecimal_fold x
  | oneOf cs =>
    rw [contains, contains, Bool.eq_iff_iff, List.contains_iff_mem, List.contains_iff_mem]
    have same : ∀ c ∈ cs, fold x = c ↔ x = c := by
      intro c member
      have equal := fold_beq (List.all_eq_true.mp blind c member) x
      rwa [Bool.eq_iff_iff, beq_iff_eq, beq_iff_eq] at equal
    constructor
    · intro member
      exact ((same _ member).mp rfl) ▸ member
    · intro member
      exact ((same _ member).mpr rfl).symm ▸ member
  | butNot c => exact congrArg Bool.not (fold_beq blind x)

end CharClass

/-! ### Runs through a folded text -/

/-- The cursor at the same place of the folded text. -/
def Cursor.folded (c : Cursor) : Cursor :=
  { c with before := c.before.map fold, rest := c.rest.map fold }

theorem Cursor.atEdge_folded (c : Cursor) : c.folded.atEdge = c.atEdge := by
  have through : (fun x => isWordChar (fold x)) = isWordChar := funext isWordChar_fold
  rw [Cursor.atEdge, Cursor.atEdge]
  congr 1
  · rw [folded, Option.any_map, through]
  · rw [folded, List.head?_map, Option.any_map, through]

theorem Cursor.runs_folded {k : CharClass} (blind : k.isBlind = true) (kept : List (Nat × Nat))
    (shorter : List Cursor) (position : Nat) (before : Option Char) (rest : List Char) :
    runs k kept (shorter.map folded) position (before.map fold) (rest.map fold) =
      (runs k kept shorter position before rest).map folded := by
  induction rest generalizing shorter position before with
  | nil => rfl
  | cons x rest ih =>
    rw [List.map_cons, runs, runs, k.contains_fold blind]
    split
    · exact ih (⟨position, before, x :: rest, kept⟩ :: shorter) (position + 1) (some x)
    · rfl

namespace Pattern

/-- Whether all classes of a pattern are blind. -/
def isBlind : Pattern → Bool
  | .one k | .many k => k.isBlind
  | .both p q | .either p q => p.isBlind && q.isBlind
  | .keep p => p.isBlind
  | .empty | .edge => true

theorem candidates_folded (p : Pattern) (blind : p.isBlind = true) (c : Cursor) :
    p.candidates c.folded = (p.candidates c).map Cursor.folded := by
  induction p generalizing c with
  | empty => rfl
  | one k =>
    obtain ⟨position, before, rest, kept⟩ := c
    cases rest with
    | nil => rfl
    | cons x rest =>
      simp only [candidates, Cursor.folded, List.map_cons]
      rw [k.contains_fold blind]
      split <;> rfl
  | many k => exact Cursor.runs_folded blind c.kept [] c.position c.before c.rest
  | edge =>
    rw [candidates, candidates, c.atEdge_folded]
    split <;> rfl
  | both p q ihp ihq =>
    obtain ⟨blindp, blindq⟩ := Bool.and_eq_true_iff.mp blind
    have second : (fun d : Cursor => q.candidates d.folded) =
        fun d => (q.candidates d).map Cursor.folded := funext (ihq blindq)
    rw [candidates, candidates, ihp blindp, List.flatMap_map, second, List.map_flatMap]
  | either p q ihp ihq =>
    obtain ⟨blindp, blindq⟩ := Bool.and_eq_true_iff.mp blind
    rw [candidates, candidates, ihp blindp, ihq blindq, List.map_append]
  | keep p ih =>
    rw [candidates, candidates, ih blind, List.map_map, List.map_map]
    rfl

theorem searchFrom_folded (p : Pattern) (blind : p.isBlind = true) (position : Nat)
    (before : Option Char) (rest : List Char) :
    p.searchFrom position (before.map fold) (rest.map fold) =
      (p.searchFrom position before rest).map fun found => (found.1, found.2.folded) := by
  induction rest generalizing position before with
  | nil =>
    have here := p.candidates_folded blind ⟨position, before, [], []⟩
    rw [Cursor.folded, List.map_nil] at here
    rw [List.map_nil, searchFrom, searchFrom, here, List.head?_map, Option.map_map, Option.map_map]
    rfl
  | cons x rest ih =>
    have here := p.candidates_folded blind ⟨position, before, x :: rest, []⟩
    rw [Cursor.folded, List.map_cons] at here
    rw [List.map_cons, searchFrom, searchFrom, here]
    cases p.candidates ⟨position, before, x :: rest, []⟩ with
    | nil => exact ih (position + 1) (some x)
    | cons c more => rfl

/-! ### Matches in similar texts -/

/-- The range that the leftmost match keeps first. -/
def firstRange? (p : Pattern) (text : List Char) : Option (Nat × Nat) :=
  (p.search text).bind fun found => found.2.kept.head?

theorem firstKept?_eq (p : Pattern) (text : List Char) :
    p.firstKept? text = (p.firstRange? text).map fun range => String.ofList (slice text range) := by
  rw [firstKept?, firstRange?]
  cases p.search text with
  | none => rfl
  | some found =>
    cases first : found.2.kept.head? with
    | none => simp [first]
    | some range => simp [first]

variable {text other : List Char}

theorem search_similar (p : Pattern) (blind : p.isBlind = true) (similar : Similar text other) :
    (p.search text).map (fun found => (found.1, found.2.folded)) =
      (p.search other).map fun found => (found.1, found.2.folded) := by
  rw [search, search, ← p.searchFrom_folded blind, ← p.searchFrom_folded blind, similar.map_fold_eq]

theorem occursIn_similar (p : Pattern) (blind : p.isBlind = true) (similar : Similar text other) :
    p.occursIn text = p.occursIn other := by
  have same := congrArg Option.isSome (p.search_similar blind similar)
  rwa [Option.isSome_map, Option.isSome_map] at same

theorem firstRange?_similar (p : Pattern) (blind : p.isBlind = true)
    (similar : Similar text other) : p.firstRange? text = p.firstRange? other := by
  have through : ∀ cs, p.firstRange? cs =
      ((p.search cs).map fun found => (found.1, found.2.folded)).bind
        fun found => found.2.kept.head? := by
    intro cs
    rw [firstRange?, Option.bind_map]
    rfl
  rw [through, through, p.search_similar blind similar]

theorem slice_similar (similar : Similar text other) (range : Nat × Nat) :
    Similar (slice text range) (slice other range) :=
  List.forall₂_take _ (List.forall₂_drop _ similar)

end Pattern

end VoiceDebugger
