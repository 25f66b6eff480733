import VoiceDebugger.Proofs.Text.Pieces
import VoiceDebugger.Proofs.Text.Trim

/-!
The words between the blanks of a text.

They are the pieces between blanks, less the empty ones. So a blank parts the words before it from
the words behind it, and a text without blanks is one word.
-/

namespace VoiceDebugger.Text

/-- A text that is one word: it is not empty and holds no blank. -/
structure OneWord (w : List Char) : Prop where
  written : w ≠ []
  solid : ∀ c ∈ w, isBlank c = false

/-- What is read is what splitting at blanks gives, with the word that is being read in front, less
the empty pieces. -/
theorem wordsFrom_eq_pieces (word cs : List Char) :
    wordsFrom word cs =
      (cs.splitOnPPrepend isBlank word).filter fun piece => !piece.isEmpty := by
  induction cs generalizing word with
  | nil =>
    cases word with
    | nil => rfl
    | cons c word => simp [wordsFrom]
  | cons c cs ih =>
    cases kind : isBlank c with
    | true =>
      rw [List.splitOnPPrepend_cons_pos kind, ← List.splitOnPPrepend_nil_right, List.filter_cons, ← ih]
      cases word with
      | nil => simp [wordsFrom, kind]
      | cons d word => simp [wordsFrom, kind]
    | false =>
      rw [List.splitOnPPrepend_cons_neg kind, ← ih]
      cases word with
      | nil => simp [wordsFrom, kind]
      | cons d word => simp [wordsFrom, kind]

/-- The words are the longest runs without blanks. -/
theorem wordsFrom_nil_eq_pieces (cs : List Char) :
    wordsFrom [] cs = (cs.splitOnP isBlank).filter fun piece => !piece.isEmpty :=
  wordsFrom_eq_pieces [] cs

/-- The words of two texts with a blank between them are those of the one and those of the other. -/
theorem wordsFrom_append_blank {b : Char} (blank : isBlank b = true) (front back : List Char) :
    wordsFrom [] (front ++ b :: back) = wordsFrom [] front ++ wordsFrom [] back := by
  simp only [wordsFrom_nil_eq_pieces, List.splitOnP_append_cons front back blank,
    List.filter_append]

theorem wordsFrom_cons_blank {b : Char} (blank : isBlank b = true) (back : List Char) :
    wordsFrom [] (b :: back) = wordsFrom [] back :=
  wordsFrom_append_blank blank [] back

theorem wordsFrom_oneWord {w : List Char} (one : OneWord w) : wordsFrom [] w = [w] := by
  have written : (!w.isEmpty) = true := by simpa using one.written
  rw [wordsFrom_nil_eq_pieces, List.splitOnP_eq_singleton one.solid, List.filter_cons,
    if_pos written, List.filter_nil]

/-- Only blanks hold no word. -/
theorem wordsFrom_eq_nil_iff (cs : List Char) :
    wordsFrom [] cs = [] ↔ ∀ c ∈ cs, isBlank c = true := by
  induction cs with
  | nil => simp [wordsFrom]
  | cons c cs ih =>
    rw [List.forall_mem_cons]
    cases kind : isBlank c with
    | true => rw [wordsFrom_cons_blank kind, ih, and_iff_right rfl]
    | false =>
      obtain ⟨first, rest, cut⟩ := List.exists_cons_of_ne_nil (List.splitOnP_ne_nil isBlank cs)
      simp [wordsFrom_nil_eq_pieces, List.splitOnP_cons_eq_if_modifyHead, kind, cut]

theorem trim_eq_nil_iff (cs : List Char) : trim cs = [] ↔ ∀ c ∈ cs, isBlank c = true := by
  rw [trim, trimEnd, List.reverse_eq_nil_iff, List.dropWhile_eq_nil_iff]
  constructor
  · intro blank
    apply List.dropWhile_eq_nil_iff.mp
    cases start : trimStart cs with
    | nil => exact start
    | cons c rest =>
      have solid := head?_trimStart cs c (by rw [start]; rfl)
      have last := blank c (by rw [start]; simp)
      rw [solid] at last
      cases last
  · intro blank
    rw [trimStart, List.dropWhile_eq_nil_iff.mpr blank]
    exact List.forall_mem_nil _

/-- A text with nothing left when it is stripped is a text without words. -/
theorem strip_isEmpty (s : String) : (strip s).isEmpty = (words s).isEmpty := by
  rw [Bool.eq_iff_iff, strip, words, List.isEmpty_map, List.isEmpty_iff, String.isEmpty_iff,
    String.ofList_eq_empty_iff, trim_eq_nil_iff, wordsFrom_eq_nil_iff]

theorem oneWord_of_mem_words {s w : String} (member : w ∈ words s) : OneWord w.toList := by
  obtain ⟨run, inside, rfl⟩ := List.mem_map.mp member
  rw [wordsFrom_nil_eq_pieces] at inside
  obtain ⟨piece, written⟩ := List.mem_filter.mp inside
  rw [String.toList_ofList]
  exact ⟨by simpa using written, solid_of_mem_splitOnP piece⟩

end VoiceDebugger.Text
