import VoiceDebugger.Intent.Extract
import VoiceDebugger.Proofs.Pattern.Seek

/-!
File names in a text.

A file name is a word, a dot and one of some endings, with an edge on either side. Some endings
begin with another one, so that several candidates may stand at a name, but the edge leaves the
whole name only. Before the first dot of a text no name can start, unless it is the one with that
dot.
-/

namespace VoiceDebugger

open Pattern Cursor

/-- A word, a dot and an ending. -/
def dottedName : Pattern :=
  all [word, .one (.only '.'), phrases fileEndings]

/-- The pattern for a file name as it is written. -/
def writtenFile : Pattern :=
  all [.edge, .keep dottedName, .edge]

theorem filePatterns_eq : filePatterns = writtenFile :: filePatterns.tail := rfl

variable {text u v w e tail : List Char} {c d : Cursor}

theorem wordy_of_ending {ending : List Char} (reads : (phrases fileEndings).Reads ending) :
    ending ≠ [] ∧ ∀ x ∈ ending, Text.isWordChar x = true :=
  ⟨(phrases fileEndings).reads_reading (by decide) reads,
    (phrases fileEndings).reads_wordy (by decide) reads⟩

theorem ending_reads {ending : String} (known : ending ∈ fileEndings) :
    (phrases fileEndings).Reads ending.toList :=
  reads_phrases (by decide) known

theorem reads_dottedName {read : List Char} (reads : dottedName.Reads read) :
    ∃ name ending, read = name ++ '.' :: ending ∧
      (name ≠ [] ∧ ∀ x ∈ name, Text.isWordChar x = true) ∧
      ending ≠ [] ∧ ∀ x ∈ ending, Text.isWordChar x = true := by
  obtain ⟨name, _, rfl, first, _, ending, rfl, ⟨x, rfl, dot⟩, last⟩ := reads
  obtain rfl : x = '.' := beq_iff_eq.mp dot
  exact ⟨name, ending, rfl, reads_some1 first, wordy_of_ending last⟩

theorem dottedName_reads {ending : String} (known : ending ∈ fileEndings) (written : w ≠ [])
    (chars : ∀ x ∈ w, Text.isWordChar x = true) :
    dottedName.Reads (w ++ '.' :: ending.toList) := by
  obtain ⟨x, w, rfl⟩ := List.exists_cons_of_ne_nil written
  obtain ⟨first, more⟩ := List.forall_mem_cons.mp chars
  exact ⟨x :: w, _, rfl, ⟨[x], w, rfl, ⟨x, rfl, first⟩, more⟩, ['.'], _, rfl, ⟨'.', rfl, rfl⟩,
    ending_reads known⟩

/-- A candidate reads a name with its dot and stands at the edge behind it. -/
theorem of_mem_writtenFile (member : d ∈ writtenFile.candidates c) :
    ∃ read, dottedName.Reads read ∧ Behind c read d ∧ d.atEdge = true ∧
      d.kept = c.kept ++ [(c.position, c.position + read.length)] := by
  obtain ⟨e, first, more⟩ := List.mem_flatMap.mp member
  obtain ⟨rfl, -⟩ := mem_edge_iff.mp first
  obtain ⟨f, kept, last⟩ := List.mem_flatMap.mp more
  obtain ⟨g, inside, rfl⟩ := List.mem_map.mp kept
  obtain ⟨rfl, edge⟩ := mem_edge_iff.mp last
  obtain ⟨read, reads, moved⟩ := dottedName.candidates_behind inside
  refine ⟨read, reads, ⟨moved.rest, moved.position, moved.before⟩, edge, ?_⟩
  rw [← moved.position, ← dottedName.kept_of_keeping_nil (by decide) inside]

/-- A word that a dot ends does not start in a text without dots. -/
theorem not_dotted_across {name : List Char} (chars : ∀ x ∈ name, Text.isWordChar x = true)
    (undotted : '.' ∉ u) : name ++ '.' :: tail ≠ u ++ ' ' :: v := by
  intro same
  rcases List.append_eq_append_iff.mp same with ⟨between, rfl, rest⟩ | ⟨between, rfl, rest⟩
  · cases between with
    | nil => exact absurd (List.cons.inj rest).1 (by decide)
    | cons x between =>
      obtain rfl := (List.cons.inj rest).1
      exact undotted (by simp)
  · cases between with
    | nil => exact absurd (List.cons.inj rest).1 (by decide)
    | cons x between =>
      obtain rfl := (List.cons.inj rest).1
      exact absurd (chars ' ' (by simp)) (by decide)

theorem writtenFile_missing (undotted : '.' ∉ u) (here : c.rest = u ++ ' ' :: v) :
    writtenFile.candidates c = [] := by
  rw [List.eq_nil_iff_forall_not_mem]
  intro d member
  obtain ⟨_, reads, moved, -⟩ := of_mem_writtenFile member
  obtain ⟨name, ending, rfl, ⟨-, chars⟩, -⟩ := reads_dottedName reads
  have same := here.symm.trans moved.rest
  rw [List.append_assoc, List.cons_append] at same
  exact not_dotted_across chars undotted same.symm

/-- A text without dots and the space behind it are passed over. -/
theorem seek_writtenFile (undotted : '.' ∉ u) (fresh : c.kept = [])
    (here : c.rest = u ++ ' ' :: v) :
    writtenFile.seek c = writtenFile.seek (c.skip (u.length + 1)) := by
  have lead : c.rest = (u ++ [' ']) ++ v := by rw [here, List.append_assoc]; rfl
  rw [seek_pass fresh lead, List.length_append, List.length_singleton]
  intro n within
  rw [List.length_append, List.length_singleton] at within
  apply writtenFile_missing (u := u.drop n) (v := v)
  · exact fun member => undotted (List.mem_of_mem_drop member)
  · rw [skip_rest, here, List.drop_append_of_le_length (by omega)]

theorem last_of_dotted (name : List Char) (written : e ≠ [])
    (chars : ∀ x ∈ e, Text.isWordChar x = true) :
    (name ++ '.' :: e).getLast?.any Text.isWordChar = true := by
  rw [List.getLast?_append_of_ne_nil name (List.cons_ne_nil '.' e),
    List.getLast?_cons_of_ne_nil written, List.getLast?_eq_some_getLast written]
  exact chars _ (List.getLast_mem written)

/-- Where a name stands, all candidates keep the whole of it. -/
theorem writtenFile_kept (here : c.AtWord w ('.' :: (e ++ tail)))
    (chars : ∀ x ∈ e, Text.isWordChar x = true) (apart : tail.head?.any Text.isWordChar = false)
    (member : d ∈ writtenFile.candidates c) :
    d.kept = c.kept ++ [(c.position, c.position + (w ++ '.' :: e).length)] := by
  obtain ⟨_, reads, moved, edge, kept⟩ := of_mem_writtenFile member
  obtain ⟨name, ending, rfl, ⟨-, letters⟩, written, endLetters⟩ := reads_dottedName reads
  have rest : c.rest = name ++ '.' :: (ending ++ d.rest) := by
    rw [moved.rest, List.append_assoc, List.cons_append]
  have whole : c.AtWord name ('.' :: (ending ++ d.rest)) := ⟨rest, letters, here.apart⟩
  obtain rfl : name = w := whole.eq_takeWhile.trans here.eq_takeWhile.symm
  have behind : ending ++ d.rest = e ++ tail :=
    (List.cons.inj (List.append_cancel_left (rest.symm.trans here.rest))).2
  -- The edge behind the ending is the end of the word that stands there.
  have ends := (moved.atEdge_of_last (last_of_dotted name written endLetters)).mp edge
  obtain rfl : ending = e := by
    have one : (start (ending ++ d.rest)).AtWord ending d.rest := ⟨rfl, endLetters, ends⟩
    have other : (start (ending ++ d.rest)).AtWord e tail := ⟨behind, chars, apart⟩
    exact one.eq_takeWhile.trans other.eq_takeWhile.symm
  exact kept

theorem writtenFile_ne_nil {ending : String} (known : ending ∈ fileEndings) (written : w ≠ [])
    (here : c.AtWord w ('.' :: (ending.toList ++ tail)))
    (before : c.before.any Text.isWordChar = false)
    (apart : tail.head?.any Text.isWordChar = false) : writtenFile.candidates c ≠ [] := by
  have rest : c.rest = (w ++ '.' :: ending.toList) ++ tail := by
    rw [here.rest, List.append_assoc, List.cons_append]
  obtain ⟨g, inside, moved⟩ :=
    candidates_of_reads dottedName (by decide) (dottedName_reads known written here.chars) rest
  have ending := wordy_of_ending (ending_reads known)
  have edge : g.atEdge = true :=
    (moved.atEdge_of_last (last_of_dotted w ending.1 ending.2)).mpr (moved.rest_of rest ▸ apart)
  apply List.ne_nil_of_mem
  exact List.mem_flatMap.mpr ⟨c, mem_edge_iff.mpr ⟨rfl, here.atEdge written before⟩,
    List.mem_flatMap.mpr ⟨_, List.mem_map_of_mem inside, mem_edge_iff.mpr ⟨rfl, edge⟩⟩⟩

/-- Behind a text without dots the first file name is kept. -/
theorem keptFrom_writtenFile {ending : String} (known : ending ∈ fileEndings) (fresh : c.kept = [])
    (within : text.drop c.position = c.rest) (undotted : '.' ∉ u) (written : w ≠ [])
    (chars : ∀ x ∈ w, Text.isWordChar x = true)
    (here : c.rest = u ++ ' ' :: (w ++ '.' :: (ending.toList ++ ' ' :: v))) :
    writtenFile.keptFrom text c = some (w ++ '.' :: ending.toList) := by
  have apart : (' ' :: v).head?.any Text.isWordChar = false :=
    (by decide : Text.isWordChar ' ' = false)
  have name : (c.skip (u.length + 1)).AtWord w ('.' :: (ending.toList ++ ' ' :: v)) := by
    refine ⟨?_, chars, (by decide : Text.isWordChar '.' = false)⟩
    rw [skip_rest, here, ← List.drop_drop, List.drop_left]
    rfl
  have before : (c.skip (u.length + 1)).before.any Text.isWordChar = false := by
    rw [skip, here, List.take_add, List.getLast?_append, List.drop_left]
    exact (by decide : Text.isWordChar ' ' = false)
  obtain ⟨d, others, found⟩ :=
    List.exists_cons_of_ne_nil (writtenFile_ne_nil known written name before apart)
  have kept := writtenFile_kept name (wordy_of_ending (ending_reads known)).2 apart
    (found ▸ List.mem_cons_self)
  rw [skip_kept, fresh, List.nil_append] at kept
  rw [keptFrom, seek_writtenFile undotted fresh here, ← keptFrom]
  refine keptFrom_of_candidates fresh found ⟨_, ' ' :: v, kept, ?_⟩
  rw [skip_position, ← List.drop_drop, within, ← skip_rest, name.rest, List.append_assoc,
    List.cons_append]

/-- A file name with one of the known endings is found whole, if no dot stands before it and a space
on either side, whatever else the text holds. -/
theorem file_named_whole (u v w e : String) (undotted : '.' ∉ u.toList) (written : w ≠ "")
    (chars : ∀ x ∈ w.toList, Text.isWordChar x = true)
    (known : e ∈ ["py", "js", "ts", "java", "cpp", "c", "h", "jsx", "tsx", "json", "yaml", "yml",
      "md"]) :
    fileIn (u ++ " " ++ w ++ "." ++ e ++ " " ++ v).toList = some (w ++ "." ++ e) := by
  have shape : (u ++ " " ++ w ++ "." ++ e ++ " " ++ v).toList =
      u.toList ++ ' ' :: (w.toList ++ '.' :: (e.toList ++ ' ' :: v.toList)) := by
    simp only [String.toList_append, List.append_assoc]
    rfl
  have named : w.toList ≠ [] := fun none => written (String.toList_eq_nil_iff.mp none)
  have kept : writtenFile.keptFrom (u ++ " " ++ w ++ "." ++ e ++ " " ++ v).toList
      (start (u ++ " " ++ w ++ "." ++ e ++ " " ++ v).toList) = some (w.toList ++ '.' :: e.toList) :=
    keptFrom_writtenFile known rfl List.drop_zero undotted named chars shape
  have whole : String.ofList (w.toList ++ '.' :: e.toList) = w ++ "." ++ e := by
    apply String.toList_injective
    simp
  rw [fileIn, firstFound, filePatterns_eq, List.findSome?_cons, firstKept?_eq_keptFrom, kept,
    Option.map_some, whole]

theorem file_named_whole_component :
    ('.' ∉ "now show the file".toList ∧ "größe_2" ≠ "" ∧
      (∀ x ∈ "größe_2".toList, Text.isWordChar x = true) ∧
      "tsx" ∈ ["py", "js", "ts", "java", "cpp", "c", "h", "jsx", "tsx", "json", "yaml", "yml", "md"]) ∧
    fileIn ("now show the file" ++ " " ++ "größe_2" ++ "." ++ "tsx" ++ " " ++ "in main.py").toList =
      some ("größe_2" ++ "." ++ "tsx") := by
  have undotted : '.' ∉ "now show the file".toList := by decide
  have chars : ∀ x ∈ "größe_2".toList, Text.isWordChar x = true := by
    rw [← List.all_eq_true]
    decide +kernel
  exact ⟨⟨undotted, by decide, chars, by decide⟩,
    file_named_whole "now show the file" "in main.py" "größe_2" "tsx" undotted (by decide) chars
      (by decide)⟩

end VoiceDebugger
