import VoiceDebugger.Text.Lines
import VoiceDebugger.Text.Word

/-!
Texts in pieces.

Cutting a text at separators loses nothing that holds no separator: such a text stands in the whole
just where it stands in one of the pieces. Words are the pieces between characters that are in no
word.
-/

namespace VoiceDebugger.Text

/-- A text stands in another if that one goes on with it from some point. -/
theorem occursIn_iff_infix {α : Type} [BEq α] [LawfulBEq α] (needle cs : List α) :
    occursIn needle cs = true ↔ needle <:+: cs := by
  induction cs with
  | nil => rw [occursIn, List.isEmpty_iff, List.infix_nil]
  | cons c rest ih =>
    rw [occursIn, Bool.or_eq_true, List.isPrefixOf_iff_prefix, ih, List.infix_cons_iff]

/-! ### Pieces -/

variable {p : Char → Bool} {needle : List Char}

/-- At the front of a text there is only the first piece to look at. -/
theorem prefix_iff_first_piece (solid : ∀ c ∈ needle, p c = false) (cs : List Char) :
    needle <+: cs ↔ ∃ first rest, cs.splitOnP p = first :: rest ∧ needle <+: first := by
  induction cs generalizing needle with
  | nil => simp [List.splitOnP_nil]
  | cons x cs ih =>
    cases needle with
    | nil =>
      obtain ⟨first, rest, cut⟩ := List.exists_cons_of_ne_nil (List.splitOnP_ne_nil p (x :: cs))
      exact ⟨fun _ => ⟨first, rest, cut, List.nil_prefix⟩, fun _ => List.nil_prefix⟩
    | cons c needle =>
      obtain ⟨whole, others⟩ := List.forall_mem_cons.mp solid
      rw [List.splitOnP_cons_eq_if_modifyHead, List.cons_prefix_cons]
      split
      · next separates =>
        constructor
        · rintro ⟨rfl, -⟩
          rw [separates] at whole
          cases whole
        · rintro ⟨first, rest, cut, front⟩
          obtain ⟨rfl, -⟩ := List.cons.inj cut
          cases List.prefix_nil.mp front
      · obtain ⟨first, rest, cut⟩ := List.exists_cons_of_ne_nil (List.splitOnP_ne_nil p cs)
        rw [ih others, cut, List.modifyHead_cons]
        constructor
        · rintro ⟨rfl, first', rest', same, front⟩
          obtain ⟨rfl, rfl⟩ := List.cons.inj same
          exact ⟨_, _, rfl, List.cons_prefix_cons.mpr ⟨rfl, front⟩⟩
        · rintro ⟨first', rest', same, front⟩
          obtain ⟨rfl, rfl⟩ := List.cons.inj same
          obtain ⟨here, behind⟩ := List.cons_prefix_cons.mp front
          exact ⟨here, first, rest, rfl, behind⟩

/-- A text without separators stands in another one just where it stands in one of the pieces. -/
theorem infix_iff_piece (solid : ∀ c ∈ needle, p c = false) (cs : List Char) :
    needle <:+: cs ↔ ∃ piece ∈ cs.splitOnP p, needle <:+: piece := by
  induction cs with
  | nil => simp [List.splitOnP_nil]
  | cons x cs ih =>
    have front := prefix_iff_first_piece solid (x :: cs)
    rw [List.infix_cons_iff, front, ih, List.splitOnP_cons_eq_if_modifyHead]
    split
    · constructor
      · rintro (⟨first, rest, cut, front⟩ | ⟨piece, member, inside⟩)
        · obtain ⟨rfl, rfl⟩ := List.cons.inj cut
          exact ⟨[], List.mem_cons_self, front.isInfix⟩
        · exact ⟨piece, List.mem_cons_of_mem _ member, inside⟩
      · rintro ⟨piece, member, inside⟩
        rcases List.mem_cons.mp member with rfl | member
        · have empty : needle = [] := List.infix_nil.mp inside
          exact .inl ⟨_, _, rfl, empty ▸ List.nil_prefix⟩
        · exact .inr ⟨piece, member, inside⟩
    · obtain ⟨first, rest, cut⟩ := List.exists_cons_of_ne_nil (List.splitOnP_ne_nil p cs)
      rw [cut, List.modifyHead_cons]
      constructor
      · rintro (⟨first', rest', same, front⟩ | ⟨piece, member, inside⟩)
        · obtain ⟨rfl, rfl⟩ := List.cons.inj same
          exact ⟨_, List.mem_cons_self, front.isInfix⟩
        · rcases List.mem_cons.mp member with rfl | member
          · exact ⟨_, List.mem_cons_self, List.infix_cons inside⟩
          · exact ⟨piece, List.mem_cons_of_mem _ member, inside⟩
      · rintro ⟨piece, member, inside⟩
        rcases List.mem_cons.mp member with rfl | member
        · rcases List.infix_cons_iff.mp inside with front | inside
          · exact .inl ⟨_, _, rfl, front⟩
          · exact .inr ⟨first, List.mem_cons_self, inside⟩
        · exact .inr ⟨piece, List.mem_cons_of_mem _ member, inside⟩

theorem splitAtChar_eq_splitOnP (sep : Char) (cs : List Char) :
    splitAtChar sep cs = cs.splitOnP (· == sep) := by
  induction cs with
  | nil => rw [splitAtChar, List.splitOnP_nil]
  | cons x cs ih =>
    obtain ⟨first, rest, cut⟩ := List.exists_cons_of_ne_nil (List.splitOnP_ne_nil (· == sep) cs)
    rw [splitAtChar, List.splitOnP_cons_eq_if_modifyHead, ih, cut]
    rfl

/-- A text without the separator stands in one of the parts of another one, or not at all. -/
theorem infix_iff_part {sep : Char} {name : String} (solid : sep ∉ name.toList) (s : String) :
    name.toList <:+: s.toList ↔ ∃ part ∈ splitOn sep s, name.toList <:+: part.toList := by
  have apart : ∀ c ∈ name.toList, (c == sep) = false := by
    intro c member
    rw [beq_eq_false_iff_ne]
    rintro rfl
    exact solid member
  rw [infix_iff_piece apart, splitOn, splitAtChar_eq_splitOnP]
  constructor
  · rintro ⟨piece, member, inside⟩
    refine ⟨String.ofList piece, List.mem_map_of_mem member, ?_⟩
    rw [String.toList_ofList]
    exact inside
  · rintro ⟨part, listed, inside⟩
    obtain ⟨piece, member, rfl⟩ := List.mem_map.mp listed
    rw [String.toList_ofList] at inside
    exact ⟨piece, member, inside⟩

/-- No piece holds what the text is split at. -/
theorem solid_of_mem_splitOnP {cs piece : List Char} (member : piece ∈ cs.splitOnP p) :
    ∀ c ∈ piece, p c = false := by
  induction cs generalizing piece with
  | nil =>
    rw [List.splitOnP_nil, List.mem_singleton] at member
    rw [member]
    exact nofun
  | cons x cs ih =>
    rw [List.splitOnP_cons_eq_if_modifyHead] at member
    split at member
    · rcases List.mem_cons.mp member with rfl | member
      · exact nofun
      · exact ih member
    · next solid =>
      obtain ⟨first, others, pieces⟩ := List.exists_cons_of_ne_nil (List.splitOnP_ne_nil p cs)
      rw [pieces, List.modifyHead_cons, List.mem_cons] at member
      rcases member with rfl | member
      · rw [List.forall_mem_cons]
        exact ⟨Bool.not_eq_true _ ▸ solid, ih (pieces ▸ List.mem_cons_self)⟩
      · exact ih (pieces ▸ List.mem_cons_of_mem first member)

/-! ### Words -/

/-- The words of a text: its longest runs of word characters, in order. -/
def wordRuns (cs : List Char) : List (List Char) :=
  (cs.splitOnP fun c => !isWordChar c).filter fun run => !run.isEmpty

theorem wordRuns_cons_apart {c : Char} (apart : isWordChar c = false) (cs : List Char) :
    wordRuns (c :: cs) = wordRuns cs := by
  have breaks : (!isWordChar c) = true := by rw [apart]; rfl
  rw [wordRuns, List.splitOnP_cons_eq_if_modifyHead, if_pos breaks]
  rfl

/-- A word that ends where it stands is the first one, and the others stand behind it. -/
theorem wordRuns_word_append {word tail : List Char} (written : word ≠ [])
    (chars : ∀ c ∈ word, isWordChar c = true) (apart : tail.head?.any isWordChar = false) :
    wordRuns (word ++ tail) = word :: wordRuns tail := by
  have solid : ∀ c ∈ word, (!isWordChar c) = false := by
    intro c member
    rw [chars c member]
    rfl
  have kept : (!word.isEmpty) = true := by simpa using written
  cases tail with
  | nil =>
    rw [List.append_nil, wordRuns, List.splitOnP_eq_singleton solid, List.filter_cons, if_pos kept]
    rfl
  | cons c tail =>
    rw [List.head?_cons, Option.any_some] at apart
    have breaks : (!isWordChar c) = true := by rw [apart]; rfl
    rw [wordRuns_cons_apart apart, wordRuns,
      List.splitOnP_append_cons_of_forall_mem solid c breaks, List.filter_cons, if_pos kept]
    rfl

/-- A word or a part of one stands in a text just where it stands in one of its words. -/
theorem infix_iff_wordRun {word : List Char} (written : word ≠ [])
    (chars : ∀ c ∈ word, isWordChar c = true) (cs : List Char) :
    word <:+: cs ↔ ∃ run ∈ wordRuns cs, word <:+: run := by
  have solid : ∀ c ∈ word, (!isWordChar c) = false := by
    intro c member
    rw [chars c member]
    rfl
  rw [infix_iff_piece solid]
  constructor
  · rintro ⟨run, member, inside⟩
    refine ⟨run, List.mem_filter.mpr ⟨member, ?_⟩, inside⟩
    cases run with
    | nil => exact absurd (List.infix_nil.mp inside) written
    | cons c run => rfl
  · rintro ⟨run, member, inside⟩
    exact ⟨run, (List.mem_filter.mp member).1, inside⟩

theorem of_mem_wordRuns {cs run : List Char} (member : run ∈ wordRuns cs) :
    (∀ c ∈ run, isWordChar c = true) ∧ run <:+: cs := by
  obtain ⟨piece, written⟩ := List.mem_filter.mp member
  have chars : ∀ c ∈ run, isWordChar c = true := by
    intro c inside
    have solid := solid_of_mem_splitOnP piece c inside
    rwa [Bool.not_eq_false'] at solid
  have some : run ≠ [] := by simpa using written
  exact ⟨chars, (infix_iff_wordRun some chars cs).mpr ⟨run, member, List.infix_refl run⟩⟩

end VoiceDebugger.Text
