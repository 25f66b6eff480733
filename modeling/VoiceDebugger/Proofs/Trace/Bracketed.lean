import VoiceDebugger.Proofs.Trace.Frames

/-!
Traces that list calls with their places in brackets.

A call is told with the place of its function, or with the word for an unknown one. A match runs
from the first bracket that stands open to the next colon, so an unknown place is not passed over:
it becomes a part of the file of the next place that is known, with all that stands between them.
The places are recovered just if no call with an unknown place comes before one with a known place.
-/

namespace VoiceDebugger

open Pattern

/-! ### Traces of calls -/

/-- A number as digits write it, no longer than can be read. -/
structure Numeral where
  digits : List Char
  written : digits ≠ []
  decimal : ∀ c ∈ digits, Text.isDecimal c = true
  short : digits.length ≤ 4300

/-- The number itself. -/
def Numeral.value (n : Numeral) : Nat :=
  Number.valueOf n.digits

/-- A character that has no meaning of its own in a trace: no bracket, colon or line break. -/
def isPlain (c : Char) : Bool :=
  c != '(' && c != ')' && c != ':' && c != '\n'

/-- A known place. -/
structure Site where
  path : List Char
  written : path ≠ []
  plain : ∀ c ∈ path, isPlain c = true
  line : Numeral
  column : Numeral

/-- A call of a function, and the place of that if it is known. -/
structure TracedCall where
  name : List Char
  plain : ∀ c ∈ name, isPlain c = true
  site? : Option Site

/-- A header and the calls below it; the last line may be ended or not. -/
structure CallTrace where
  header : List Char
  plain : ∀ c ∈ header, isPlain c = true
  calls : List TracedCall
  ended : Bool

/-- A place as it is told. -/
def Site.told (s : Site) : List Char :=
  s.path ++ ':' :: (s.line.digits ++ ':' :: s.column.digits)

/-- How the line of a call begins. -/
def callMark : List Char := "    at ".toList

/-- The word for an unknown place. -/
def unknownSite : List Char := "<anonymous>".toList

namespace TracedCall

/-- What stands before the place of a call on its line. -/
def opening (c : TracedCall) : List Char :=
  callMark ++ (c.name ++ [' ', '('])

/-- The line of a call. -/
def told (c : TracedCall) : List Char :=
  c.opening ++ (c.site?.elim unknownSite Site.told ++ [')'])

end TracedCall

/-- The trace as a text. -/
def CallTrace.text (t : CallTrace) : String :=
  String.ofList (t.header ++ (t.calls.flatMap (fun c => '\n' :: c.told) ++
    if t.ended then ['\n'] else []))

/-! ### What is reported -/

/-- A place reported with some text as its file. -/
def Site.frame (s : Site) (file : List Char) : Frame :=
  .bracketed (String.ofList file) s.line.value s.column.value

/-- What stands between the first open bracket and the place of a call. -/
def TracedCall.since (c : TracedCall) : Option (List Char) → List Char
  | none => []
  | some inside => inside ++ '\n' :: c.opening

/-- The known places, each with the text since the first open bracket before it. -/
def reportedFrom : Option (List Char) → List TracedCall → List (List Char × Site)
  | _, [] => []
  | pending, call :: calls =>
    match call.site? with
    | some site => (call.since pending ++ site.path, site) :: reportedFrom none calls
    | none => reportedFrom (some (call.since pending ++ (unknownSite ++ [')']))) calls

namespace CallTrace

/-- The frames that are reported. -/
def reported (t : CallTrace) : List Frame :=
  (reportedFrom none t.calls).map fun (file, site) => site.frame file

/-- The known places. -/
def located (t : CallTrace) : List Frame :=
  (t.calls.filterMap (·.site?)).map fun site => site.frame site.path

end CallTrace

/-! ### Matches -/

/-- What stands behind an open bracket is read up to a place and kept with its numbers. -/
theorem bracketedFrame_prefers {file : List Char} (written : file ≠ []) (uncut : ':' ∉ file)
    (line column : Numeral) (tail : List Char) :
    bracketedFrame.Prefers
      ('(' :: (file ++ (':' :: (line.digits ++ (':' :: (column.digits ++ [')'])))))) tail
      [file, line.digits, column.digits] := by
  have number : ∀ (n : Numeral) (mark : Char) (more : List Char), Text.isDecimal mark = false →
      (keep (some1 .digit)).Prefers n.digits (mark :: more) [n.digits] := fun n mark more other =>
    prefers_digits n.written n.decimal other
  have last := (number column ')' tail (by decide)).cons (prefers_exactly ")" tail).single
  have both := (number line ':' _ (by decide)).cons ((prefers_exactly ":" _).cons last)
  have name := prefers_until written uncut
    (line.digits ++ (":".toList ++ (column.digits ++ ")".toList)) ++ tail)
  exact (prefers_exactly "(" _).cons (name.cons ((prefers_exactly ":" _).cons both))

theorem bracket_and_colon_of_reads {read : List Char} (reads : bracketedFrame.Reads read) :
    ∃ more, read = '(' :: more ∧ ':' ∈ more := by
  obtain ⟨front, _, rfl, bracket, name, _, rfl, -, mark, back, rfl, colon, -⟩ := reads
  rw [reads_exactly bracket, reads_exactly colon]
  exact ⟨_, rfl, by simp⟩

theorem misses_of_no_colon {rest : List Char} (uncut : ':' ∉ rest) : bracketedFrame.Misses rest := by
  apply misses_of_reads
  intro read reads within
  obtain ⟨more, rfl, colon⟩ := bracket_and_colon_of_reads reads
  exact uncut (within.subset (List.mem_cons_of_mem _ colon))

theorem misses_of_head {x : Char} {rest : List Char} (other : x ≠ '(') :
    bracketedFrame.Misses (x :: rest) := by
  apply misses_of_reads
  rintro read reads ⟨_, same⟩
  obtain ⟨more, rfl, -⟩ := bracket_and_colon_of_reads reads
  exact other (List.cons.inj same).1.symm

/-- No match begins in a text that opens no bracket. -/
theorem misses_before {lead : List Char} (unmarked : ∀ x ∈ lead, x ≠ '(' ∧ x ≠ ':')
    (rest : List Char) : ∀ n < lead.length, bracketedFrame.Misses (lead.drop n ++ rest) := by
  intro n inside
  rw [List.drop_eq_getElem_cons inside, List.cons_append]
  exact misses_of_head (unmarked _ (List.getElem_mem inside)).1

theorem plain_ne {c : Char} (plain : isPlain c = true) :
    c ≠ '(' ∧ c ≠ ')' ∧ c ≠ ':' := by
  simp only [isPlain, Bool.and_eq_true, bne_iff_ne] at plain
  exact ⟨plain.1.1.1, plain.1.1.2, plain.1.2⟩

theorem unmarked_of_plain {cs : List Char} (plain : ∀ x ∈ cs, isPlain x = true) :
    ∀ x ∈ cs, x ≠ '(' ∧ x ≠ ':' :=
  fun x member => ⟨(plain_ne (plain x member)).1, (plain_ne (plain x member)).2.2⟩

theorem colon_not_mem {cs : List Char} (plain : ∀ x ∈ cs, isPlain x = true) : ':' ∉ cs :=
  fun member => (unmarked_of_plain plain ':' member).2 rfl

/-- The text since the first open bracket, with that bracket. -/
def pendingText : Option (List Char) → List Char
  | none => []
  | some inside => '(' :: inside

/-- What stands before the first open bracket on the line of a call. -/
def TracedCall.lead (c : TracedCall) : Option (List Char) → List Char
  | none => '\n' :: (callMark ++ (c.name ++ [' ']))
  | some _ => []

/-- The line of a call opens a bracket, or goes on behind one that is open. -/
theorem pendingText_told (c : TracedCall) (pending : Option (List Char)) (rest : List Char) :
    pendingText pending ++ ('\n' :: c.told ++ rest) =
      c.lead pending ++ ('(' :: (c.since pending ++
        (c.site?.elim unknownSite Site.told ++ ([')'] ++ rest)))) := by
  cases pending with
  | none =>
    simp only [pendingText, TracedCall.lead, TracedCall.since, TracedCall.told, TracedCall.opening,
      List.append_assoc, List.cons_append, List.nil_append]
  | some inside =>
    simp only [pendingText, TracedCall.lead, TracedCall.since, TracedCall.told, List.append_assoc,
      List.cons_append, List.nil_append]

theorem callMark_plain : ∀ x ∈ callMark, isPlain x = true :=
  List.all_eq_true.mp (by decide)

theorem unknownSite_plain : ∀ x ∈ unknownSite, isPlain x = true :=
  List.all_eq_true.mp (by decide)

theorem lead_unmarked (c : TracedCall) (pending : Option (List Char)) :
    ∀ x ∈ c.lead pending, x ≠ '(' ∧ x ≠ ':' := by
  cases pending with
  | some inside => exact List.forall_mem_nil _
  | none =>
    intro x member
    simp only [TracedCall.lead, List.mem_cons, List.mem_append, List.not_mem_nil, or_false] at member
    rcases member with rfl | mark | name | rfl
    · decide
    · exact unmarked_of_plain callMark_plain x mark
    · exact unmarked_of_plain c.plain x name
    · decide

theorem since_uncut (c : TracedCall) {pending : Option (List Char)}
    (uncut : ∀ inside, pending = some inside → ':' ∉ inside) : ':' ∉ c.since pending := by
  cases pending with
  | none => exact List.not_mem_nil
  | some inside =>
    intro member
    simp only [TracedCall.since, TracedCall.opening, List.mem_append, List.mem_cons,
      List.not_mem_nil, or_false] at member
    rcases member with inner | line | mark | name | space | bracket
    · exact uncut inside rfl inner
    · exact absurd line (by decide)
    · exact colon_not_mem callMark_plain mark
    · exact colon_not_mem c.plain name
    · exact absurd space (by decide)
    · exact absurd bracket (by decide)

theorem pendingText_uncut {pending : Option (List Char)}
    (uncut : ∀ inside, pending = some inside → ':' ∉ inside) : ':' ∉ pendingText pending := by
  cases pending with
  | none => exact List.not_mem_nil
  | some inside => exact List.not_mem_cons_of_ne_of_not_mem (by decide) (uncut inside rfl)

theorem reportedFrom_known {call : TracedCall} {site : Site} (known : call.site? = some site)
    (pending : Option (List Char)) (calls : List TracedCall) :
    reportedFrom pending (call :: calls) =
      (call.since pending ++ site.path, site) :: reportedFrom none calls := by
  rw [reportedFrom, known]

theorem reportedFrom_unknown {call : TracedCall} (unknown : call.site? = none)
    (pending : Option (List Char)) (calls : List TracedCall) :
    reportedFrom pending (call :: calls) =
      reportedFrom (some (call.since pending ++ (unknownSite ++ [')']))) calls := by
  rw [reportedFrom, unknown]

/-- The matches in the lines of calls, behind a text without a mark and what has been read since an
open bracket: each known place is found with the text that is reported as its file. -/
theorem bracketedFrame_found {lead ending : List Char} {pending : Option (List Char)}
    (calls : List TracedCall) (unmarked : ∀ x ∈ lead, x ≠ '(' ∧ x ≠ ':')
    (uncut : ∀ inside, pending = some inside → ':' ∉ inside) (plain : ':' ∉ ending) :
    bracketedFrame.Found
      (lead ++ (pendingText pending ++ (calls.flatMap (fun c => '\n' :: c.told) ++ ending)))
      ((reportedFrom pending calls).map fun (file, site) =>
        [file, site.line.digits, site.column.digits]) := by
  induction calls generalizing lead pending with
  | nil =>
    have none : ':' ∉ lead ++ (pendingText pending ++ ending) := by
      simp only [List.mem_append, not_or]
      exact ⟨fun member => (unmarked ':' member).2 rfl, pendingText_uncut uncut, plain⟩
    exact .none fun back behind => misses_of_no_colon fun member => none (behind.subset member)
  | cons call calls ih =>
    have further : ∀ x ∈ lead ++ call.lead pending, x ≠ '(' ∧ x ≠ ':' :=
      List.forall_mem_append.mpr ⟨unmarked, lead_unmarked call pending⟩
    have since := since_uncut call uncut
    rw [List.flatMap_cons, List.append_assoc, pendingText_told, ← List.append_assoc]
    cases place : call.site? with
    | none =>
      rw [reportedFrom_unknown place]
      have closed : ':' ∉ call.since pending ++ (unknownSite ++ [')']) := by
        simp only [List.mem_append, List.mem_singleton, not_or]
        exact ⟨since, colon_not_mem unknownSite_plain, by decide⟩
      have others := ih further fun inside same => Option.some.inj same ▸ closed
      simpa only [pendingText, Option.elim_none, List.append_assoc, List.cons_append,
        List.nil_append] using others
    | some site =>
      rw [reportedFrom_known place]
      have file : ':' ∉ call.since pending ++ site.path := by
        rw [List.mem_append, not_or]
        exact ⟨since, colon_not_mem site.plain⟩
      have frame := bracketedFrame_prefers (by simp [site.written]) file site.line site.column
        (calls.flatMap (fun c => '\n' :: c.told) ++ ending)
      have others := @ih [] none (List.forall_mem_nil _) nofun
      have whole := Found.next (misses_before further _) (List.cons_ne_nil _ _) frame others
      simpa only [Option.elim_some, Site.told, List.append_assoc, List.cons_append, List.nil_append,
        List.map_cons] using whole

/-! ### Frames -/

theorem Numeral.read (n : Numeral) : frameNumber (String.ofList n.digits) = .ok n.value := by
  have numeral : IsNumeral (String.ofList n.digits) := by
    rw [IsNumeral, String.toList_ofList]
    exact ⟨n.written, n.decimal⟩
  have short : (String.ofList n.digits).toList.length ≤ Number.digitLimit := by
    rw [String.toList_ofList]
    exact n.short
  rw [frameNumber_of_short numeral short, String.toList_ofList, value]

theorem CallTrace.framesOf_text (t : CallTrace) :
    framesOf (bracketedFrame.findAll t.text.toList) = .ok t.reported := by
  have ending : ':' ∉ if t.ended then ['\n'] else [] := by
    cases t.ended <;> decide
  have found :=
    @bracketedFrame_found t.header _ none t.calls (unmarked_of_plain t.plain) nofun ending
  rw [pendingText, List.nil_append] at found
  rw [text, String.toList_ofList, findAll_of_found found, List.map_map]
  exact framesOf_map fun (_, site) _ => frameOf_triple site.line.read site.column.read

/-! ### Places that are recovered -/

theorem Site.frame_inj {s : Site} {one other : List Char} :
    s.frame one = s.frame other ↔ one = other := by
  rw [frame, frame, Frame.bracketed.injEq, String.ofList_inj]
  simp

/-- Once a bracket has been closed without a place, no known place is recovered. -/
theorem reportedFrom_eq_located_of_pending {inside : List Char} (closed : ')' ∈ inside)
    (calls : List TracedCall) :
    (reportedFrom (some inside) calls).map (fun (file, site) => site.frame file) =
        (calls.filterMap (·.site?)).map (fun site => site.frame site.path) ↔
      ∀ c ∈ calls, c.site? = none := by
  induction calls generalizing inside with
  | nil => simp [reportedFrom]
  | cons call calls ih =>
    cases place : call.site? with
    | none =>
      rw [reportedFrom_unknown place, List.filterMap_cons_none place, ih (by simp),
        List.forall_mem_cons]
      exact (and_iff_right place).symm
    | some site =>
      rw [reportedFrom_known place, List.filterMap_cons_some place, List.forall_mem_cons]
      have other : call.since (some inside) ++ site.path ≠ site.path := by
        intro same
        have member : ')' ∈ site.path := by
          rw [← same]
          simp [TracedCall.since, closed]
        exact (plain_ne (site.plain _ member)).2.1 rfl
      simp [Site.frame_inj, other, place]

theorem CallTrace.reported_eq_located_iff (t : CallTrace) :
    t.reported = t.located ↔
      t.calls.Pairwise fun earlier later => later.site?.isSome → earlier.site?.isSome := by
  rw [reported, located]
  generalize t.calls = calls
  induction calls with
  | nil => simp [reportedFrom]
  | cons call calls ih =>
    rw [List.pairwise_cons]
    cases place : call.site? with
    | none =>
      rw [reportedFrom_unknown place, List.filterMap_cons_none place,
        reportedFrom_eq_located_of_pending (by simp)]
      constructor
      · intro unknown
        refine ⟨fun later listed known => ?_, ?_⟩
        · rw [unknown later listed] at known
          exact known
        · refine List.pairwise_iff_forall_sublist.mpr fun {_ later} sub known => ?_
          rw [unknown later (sub.subset (by simp))] at known
          cases known
      · intro ⟨first, _⟩ later listed
        rw [← Option.not_isSome_iff_eq_none]
        exact fun known => Bool.false_ne_true (first later listed known)
    | some site =>
      rw [reportedFrom_known place, List.filterMap_cons_some place, List.map_cons, List.map_cons,
        List.cons.injEq, ih]
      simp [TracedCall.since]

/-- A trace of calls has an explanation unless a frame in it that quotes its file is too long to
read, and the frames in brackets are as reported. They are the known places just if no call with an
unknown place comes before one with a known place. -/
theorem bracketed_frames_iff (t : CallTrace) :
    ((∃ answer, explainTrace t.text = .ok answer) ↔ ¬ HasLongLine t.text.toList) ∧
    (∀ answer, explainTrace t.text = .ok answer →
      suspectsOf "javascript" answer = t.reported.map Frame.toJson) ∧
    ((∃ answer, explainTrace t.text = .ok answer ∧
        suspectsOf "javascript" answer = t.located.map Frame.toJson) ↔
      ¬ HasLongLine t.text.toList ∧
        t.calls.Pairwise fun earlier later => later.site?.isSome → earlier.site?.isSome) := by
  have bracketed := t.framesOf_text
  have explained : (∃ answer, explainTrace t.text = .ok answer) ↔ ¬ HasLongLine t.text.toList := by
    rw [← exists_quoted_iff]
    constructor
    · rintro ⟨answer, ok⟩
      obtain ⟨quoted, _, one, -⟩ := explainTrace_eq_ok.mp ok
      exact ⟨quoted, one⟩
    · rintro ⟨quoted, one⟩
      exact ⟨_, explainTrace_eq_ok.mpr ⟨quoted, _, one, bracketed, rfl⟩⟩
  have told : ∀ answer, explainTrace t.text = .ok answer →
      suspectsOf "javascript" answer = t.reported.map Frame.toJson := by
    intro answer ok
    obtain ⟨quoted, others, one, other, rfl⟩ := explainTrace_eq_ok.mp ok
    obtain rfl : t.reported = others := Except.ok.inj (bracketed.symm.trans other)
    exact (suspects_by_language (isQuoted_of_quotedFrame one) (isQuoted_of_bracketedFrame other)).2
  refine ⟨explained, told, ?_⟩
  rw [← explained, ← t.reported_eq_located_iff, ← List.map_inj_right Frame.toJson_inj]
  constructor
  · rintro ⟨answer, ok, same⟩
    exact ⟨⟨answer, ok⟩, (told answer ok).symm.trans same⟩
  · rintro ⟨⟨answer, ok⟩, same⟩
    exact ⟨answer, ok, (told answer ok).trans same⟩

/-- A place in the file `a`. -/
def nearPlace : Site where
  path := ['a']
  written := by decide
  plain := by simp [isPlain]
  line := ⟨['1'], by decide, List.forall_mem_singleton.mpr (by decide), by decide⟩
  column := ⟨['2'], by decide, List.forall_mem_singleton.mpr (by decide), by decide⟩

/-- A call whose place is unknown, before one whose place is known. -/
def unknownFirst : CallTrace where
  header := ['E']
  plain := by simp [isPlain]
  calls := [⟨['f'], by simp [isPlain], none⟩, ⟨['g'], by simp [isPlain], some nearPlace⟩]
  ended := false

/-- The known place is not reported: the unknown one before it has become a part of its file. -/
theorem unknown_place_in_file :
    unknownFirst.text = "E\n    at f (<anonymous>)\n    at g (a:1:2)" ∧
    unknownFirst.located = [.bracketed "a" 1 2] ∧
    (explainTrace unknownFirst.text).map (suspectsOf "javascript") =
      .ok [(Frame.bracketed "<anonymous>)\n    at g (a" 1 2).toJson] :=
  ⟨rfl, rfl, rfl⟩

end VoiceDebugger
