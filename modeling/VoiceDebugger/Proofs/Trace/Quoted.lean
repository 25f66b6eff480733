import VoiceDebugger.Proofs.Text.Pieces
import VoiceDebugger.Proofs.Trace.Frames

/-!
Traces that quote their files.

Such a trace is written as text before the first frame and, for each frame, how it tells its place
and the text behind it. The opening of a frame has its first letter only once, so that no opening
runs over from a text into the frame behind it, and a match takes the file up to the closing quote
and all digits of the line.
-/

namespace VoiceDebugger

open Pattern

/-- A place in a file, and the text behind it in a trace. -/
structure QuotedPlace where
  file : String
  line : Nat
  behind : String

/-- How a frame opens. -/
def quotedOpening : List Char := "File \"".toList

namespace QuotedPlace

/-- How a frame tells its place. -/
def told (p : QuotedPlace) : String :=
  "File \"" ++ p.file ++ "\", line " ++ toString p.line

/-- The trace with some text before the frames of some places. -/
def trace (before : String) : List QuotedPlace → String
  | [] => before
  | p :: places => before ++ p.told ++ trace p.behind places

/-- A place as a suspect. -/
def suspect (p : QuotedPlace) : Json :=
  .obj [("file", .str p.file), ("line", .int p.line), ("language", .str "python")]

end QuotedPlace

variable {text tail file digits : List Char}

/-! ### Openings -/

/-- What begins with a letter that it has only once does not begin in a text and end behind it,
where that letter stands. -/
theorem not_prefix_across {x : Char} {xs more : List Char} (once : x ∉ xs) (written : text ≠ [])
    (apart : ¬ x :: xs <:+: text) : ¬ x :: xs <+: text ++ x :: more := by
  rintro ⟨rest, same⟩
  rcases List.append_eq_append_iff.mp same with ⟨between, rfl, -⟩ | ⟨between, whole, behind⟩
  · exact apart (List.prefix_append _ _).isInfix
  · cases between with
    | nil =>
      rw [List.append_nil] at whole
      exact apart (whole ▸ List.infix_rfl)
    | cons y between =>
      obtain ⟨z, others, rfl⟩ := List.exists_cons_of_ne_nil written
      obtain rfl : x = y := (List.cons.inj behind).1
      have inside : xs = others ++ x :: between := (List.cons.inj whole).2
      exact once (inside ▸ by simp)

theorem opening_of_reads {read : List Char} (reads : quotedFrame.Reads read) :
    quotedOpening <+: read := by
  obtain ⟨front, back, rfl, first, -⟩ := reads
  rw [reads_exactly first]
  exact List.prefix_append _ _

theorem quotedFrame_misses {rest : List Char} (other : ¬ quotedOpening <+: rest) :
    quotedFrame.Misses rest :=
  misses_of_reads fun _ reads within => other ((opening_of_reads reads).trans within)

/-! ### Frames -/

/-- A frame is read to its end and keeps its file and its line. -/
theorem quotedFrame_prefers (named : file ≠ []) (unquoted : '"' ∉ file) (written : digits ≠ [])
    (decimal : ∀ c ∈ digits, Text.isDecimal c = true)
    (ends : tail.head?.any Text.isDecimal = false) :
    quotedFrame.Prefers (quotedOpening ++ (file ++ ("\", line ".toList ++ digits))) tail
      [file, digits] := by
  have line := prefers_digits written decimal ends
  have name := prefers_until named unquoted (", line ".toList ++ digits ++ tail)
  have between := (prefers_exactly "\", line " (digits ++ tail)).cons line.single
  exact (prefers_exactly "File \"" _).cons (name.cons between)

/-! ### Traces -/

theorem QuotedPlace.told_toList (p : QuotedPlace) :
    p.told.toList =
      quotedOpening ++ (p.file.toList ++ ("\", line ".toList ++ Nat.toDigits 10 p.line)) := by
  rw [told, String.toList_append, String.toList_append, String.toList_append, Nat.toString_eq_repr,
    Nat.toList_repr, List.append_assoc, List.append_assoc]
  rfl

theorem QuotedPlace.trace_cons_toList (before : String) (p : QuotedPlace)
    (places : List QuotedPlace) :
    (trace before (p :: places)).toList =
      before.toList ++ (p.told.toList ++ (trace p.behind places).toList) := by
  rw [trace, String.toList_append, String.toList_append, List.append_assoc]

/-- A trace goes on with no digit if the text before its first frame does not. -/
theorem QuotedPlace.head_trace {before : String} (places : List QuotedPlace)
    (ends : before.toList.head?.any Text.isDecimal = false) :
    (trace before places).toList.head?.any Text.isDecimal = false := by
  cases places with
  | nil => exact ends
  | cons p places =>
    rw [trace_cons_toList, told_toList]
    cases start : before.toList with
    | nil => exact (by decide : Text.isDecimal 'F' = false)
    | cons x more =>
      rw [start] at ends
      exact ends

/-- The matches in such a trace are its frames. -/
theorem quotedFrame_found (before : String) (places : List QuotedPlace)
    (named : ∀ p ∈ places, p.file ≠ "" ∧ '"' ∉ p.file.toList)
    (apart : ∀ t ∈ before :: places.map (·.behind), ¬ quotedOpening <:+: t.toList)
    (ends : ∀ p ∈ places, p.behind.toList.head?.any Text.isDecimal = false) :
    quotedFrame.Found (QuotedPlace.trace before places).toList
      (places.map fun p => [p.file.toList, Nat.toDigits 10 p.line]) := by
  induction places generalizing before with
  | nil =>
    refine .none fun back behind => quotedFrame_misses fun opens => ?_
    exact apart before List.mem_cons_self (opens.isInfix.trans behind.isInfix)
  | cons p places ih =>
    obtain ⟨⟨written, unquoted⟩, othersNamed⟩ := List.forall_mem_cons.mp named
    obtain ⟨lead, othersApart⟩ := List.forall_mem_cons.mp apart
    obtain ⟨stop, othersEnd⟩ := List.forall_mem_cons.mp ends
    have file : p.file.toList ≠ [] := fun none => written (String.toList_eq_nil_iff.mp none)
    have frame : quotedFrame.Prefers p.told.toList (QuotedPlace.trace p.behind places).toList
        [p.file.toList, Nat.toDigits 10 p.line] := by
      rw [QuotedPlace.told_toList]
      exact quotedFrame_prefers file unquoted Nat.toDigits_ne_nil
        (fun c => Number.isDecimal_of_mem_toDigits) (QuotedPlace.head_trace places stop)
    rw [QuotedPlace.trace_cons_toList, List.map_cons]
    refine .next (fun n before => quotedFrame_misses ?_) ?_ frame
      (ih p.behind othersNamed othersApart othersEnd)
    · rw [QuotedPlace.told_toList]
      apply not_prefix_across (by decide)
      · rw [ne_eq, List.drop_eq_nil_iff]
        omega
      · exact fun inside => lead (inside.trans (List.drop_suffix n _).isInfix)
    · rw [QuotedPlace.told_toList]
      exact List.cons_ne_nil _ _

theorem quotedFrame_findAll {before : String} {places : List QuotedPlace}
    (named : ∀ p ∈ places, p.file ≠ "" ∧ '"' ∉ p.file.toList)
    (apart : ∀ t ∈ before :: places.map (·.behind), ¬ quotedOpening <:+: t.toList)
    (ends : ∀ p ∈ places, p.behind.toList.head?.any Text.isDecimal = false) :
    quotedFrame.findAll (QuotedPlace.trace before places).toList =
      places.map fun p => [p.file, toString p.line] := by
  rw [findAll_of_found (quotedFrame_found before places named apart ends), List.map_map]
  congr 1
  funext p
  rw [Nat.toString_eq_repr, Nat.repr_eq_ofList_toDigits]
  simp

theorem frameNumber_toString {n : Nat} (short : (toString n).toList.length ≤ Number.digitLimit) :
    frameNumber (toString n) = .ok n := by
  have digits : (toString n).toList = Nat.toDigits 10 n := by
    rw [Nat.toString_eq_repr, Nat.toList_repr]
  have numeral : IsNumeral (toString n) := by
    rw [IsNumeral, digits]
    exact ⟨Nat.toDigits_ne_nil, fun c => Number.isDecimal_of_mem_toDigits⟩
  rw [frameNumber_of_short numeral short, digits, Number.valueOf_toDigits]

/-- The frames of a trace that quotes its files are recovered: the suspects of that language are
just their places, in order, and they come before all others. -/
theorem quoted_frames_recovered (before : String) (places : List QuotedPlace)
    (named : ∀ p ∈ places, p.file ≠ "" ∧ '"' ∉ p.file.toList)
    (apart : ∀ t ∈ before :: places.map (·.behind), ¬ "File \"".toList <:+: t.toList)
    (ends : ∀ p ∈ places, p.behind.toList.head?.any Text.isDecimal = false)
    (short : ¬ HasLongNumber (QuotedPlace.trace before places).toList) :
    ∃ answer, explainTrace (QuotedPlace.trace before places) = .ok answer ∧
      suspectsOf "python" answer = places.map QuotedPlace.suspect ∧
      suspects answer = suspectsOf "python" answer ++ suspectsOf "javascript" answer := by
  have found := quotedFrame_findAll named apart ends
  have quoted : framesOf (quotedFrame.findAll (QuotedPlace.trace before places).toList) =
      .ok (places.map fun p => .quotedFile p.file p.line) := by
    rw [found]
    refine framesOf_map fun p listed => frameOf_pair (frameNumber_toString ?_)
    -- The digits of a line stand in the trace, so there are not too many.
    have kept : [p.file, toString p.line] ∈
        quotedFrame.findAll (QuotedPlace.trace before places).toList :=
      found ▸ List.mem_map_of_mem listed
    obtain ⟨_, _, same, numeral, within⟩ := parts_of_quotedFrame kept
    obtain ⟨-, rfl⟩ : _ ∧ toString p.line = _ := by simpa using same
    exact Nat.not_lt.mp fun long => short ⟨_, within, long, numeral.2⟩
  obtain ⟨bracketed, others⟩ := exists_bracketed_of_short short
  obtain ⟨one, other⟩ := suspects_by_language (isQuoted_of_quotedFrame quoted)
    (isQuoted_of_bracketedFrame others)
  refine ⟨_, explainTrace_eq_ok.mpr ⟨_, _, quoted, others, rfl⟩, ?_, ?_⟩
  · rw [one, List.map_map]
    rfl
  · rw [one, other, suspects_explanation, List.map_append]

/-- Two places, the first of which stands before the beginning of an opening. -/
def twoPlaces : List QuotedPlace :=
  [⟨"a b.py", 12, ", in f\n  File "⟩, ⟨"c\n.py", 0, ""⟩]

theorem quoted_frames_recovered_twoPlaces :
    ((∀ p ∈ twoPlaces, p.file ≠ "" ∧ '"' ∉ p.file.toList) ∧
      (∀ t ∈ "at g (x:3:4)\n" :: twoPlaces.map (·.behind), ¬ "File \"".toList <:+: t.toList) ∧
      (∀ p ∈ twoPlaces, p.behind.toList.head?.any Text.isDecimal = false) ∧
      ¬ HasLongNumber (QuotedPlace.trace "at g (x:3:4)\n" twoPlaces).toList) ∧
    ∃ answer, explainTrace (QuotedPlace.trace "at g (x:3:4)\n" twoPlaces) = .ok answer ∧
      suspectsOf "python" answer = twoPlaces.map QuotedPlace.suspect ∧
      suspects answer = suspectsOf "python" answer ++ suspectsOf "javascript" answer := by
  have named : ∀ p ∈ twoPlaces, p.file ≠ "" ∧ '"' ∉ p.file.toList := by
    simp [twoPlaces]
  have apart : ∀ t ∈ "at g (x:3:4)\n" :: twoPlaces.map (·.behind),
      ¬ "File \"".toList <:+: t.toList := by
    simp only [← Text.occursIn_iff_infix]
    decide
  have ends : ∀ p ∈ twoPlaces, p.behind.toList.head?.any Text.isDecimal = false := by
    decide
  have short : ¬ HasLongNumber (QuotedPlace.trace "at g (x:3:4)\n" twoPlaces).toList := by
    rintro ⟨digits, within, long, -⟩
    have size := within.length_le
    have whole : (QuotedPlace.trace "at g (x:3:4)\n" twoPlaces).toList.length ≤ 4300 := by
      decide
    omega
  exact ⟨⟨named, apart, ends, short⟩,
    quoted_frames_recovered "at g (x:3:4)\n" twoPlaces named apart ends short⟩

end VoiceDebugger
