import VoiceDebugger.Trace
import VoiceDebugger.Proofs.Number.Digits
import VoiceDebugger.Proofs.Pattern.Matches
import VoiceDebugger.Proofs.Text.Code

/-!
The frames that a trace is found to have.

A match of either form keeps its file and its numbers, and the numbers are digits, so that a frame
can be read unless a number in it is too long. A trace with such a frame has no explanation at all;
of any other one the explanation names the frames that quote their file, and then those in brackets.
-/

namespace VoiceDebugger

open Pattern

variable {text : List Char}

/-! ### Explanations -/

/-- The explanation that names some frames. -/
def explanation (frames : List Frame) : Json :=
  .obj [
    ("summary", .str "Stack trace analysis not yet implemented"),
    ("suspects", .arr (frames.map Frame.toJson)),
    ("root_cause", .null),
    ("suggestions", .arr [])]

theorem explainTrace_eq (trace : String) :
    explainTrace trace = (framesIn trace.toList).map explanation := by
  rw [explainTrace]
  cases framesIn trace.toList <;> rfl

/-- The suspects that an explanation names. -/
def suspects (answer : Json) : List Json :=
  match answer.get? "suspects" with
  | some (.arr items) => items
  | _ => []

/-- Those of a language. -/
def suspectsOf (language : String) (answer : Json) : List Json :=
  (suspects answer).filter fun s => (s.get? "language").any (·.same (.str language))

/-- No two frames are told alike. -/
theorem Frame.toJson_inj (f g : Frame) (same : f.toJson = g.toJson) : f = g := by
  cases f with
  | quotedFile file line =>
    cases g with
    | quotedFile otherFile otherLine => simpa [Frame.toJson, CodeText.ofString_inj] using same
    | bracketed => simp [Frame.toJson] at same
  | bracketed file line column =>
    cases g with
    | quotedFile => simp [Frame.toJson] at same
    | bracketed otherFile otherLine otherColumn =>
      simpa [Frame.toJson, CodeText.ofString_inj] using same

/-- Whether a frame quotes its file. -/
def Frame.isQuoted : Frame → Bool
  | .quotedFile .. => true
  | .bracketed .. => false

theorem suspects_explanation (frames : List Frame) :
    suspects (explanation frames) = frames.map Frame.toJson := rfl

theorem suspectsOf_python (frames : List Frame) :
    suspectsOf "python" (explanation frames) = (frames.filter Frame.isQuoted).map Frame.toJson := by
  rw [suspectsOf, suspects_explanation, List.filter_map]
  congr 2
  funext f
  cases f <;> rfl

theorem suspectsOf_javascript (frames : List Frame) :
    suspectsOf "javascript" (explanation frames) =
      (frames.filter fun f => !f.isQuoted).map Frame.toJson := by
  rw [suspectsOf, suspects_explanation, List.filter_map]
  congr 2
  funext f
  cases f <;> rfl

/-- The two forms are told apart by their language. -/
theorem suspects_by_language {quoted bracketed : List Frame}
    (one : ∀ f ∈ quoted, f.isQuoted = true) (other : ∀ f ∈ bracketed, f.isQuoted = false) :
    suspectsOf "python" (explanation (quoted ++ bracketed)) = quoted.map Frame.toJson ∧
      suspectsOf "javascript" (explanation (quoted ++ bracketed)) = bracketed.map Frame.toJson := by
  rw [suspectsOf_python, suspectsOf_javascript, List.filter_append, List.filter_append,
    List.filter_eq_self.mpr one, List.filter_eq_nil_iff.mpr (by simpa using other),
    List.filter_eq_nil_iff.mpr (by simpa using one), List.filter_eq_self.mpr (by simpa using other),
    List.append_nil, List.nil_append]
  exact ⟨rfl, rfl⟩

/-! ### Reading frames -/

/-- Digits and nothing else. -/
def IsNumeral (s : String) : Prop :=
  s.toList ≠ [] ∧ ∀ c ∈ s.toList, Text.isDecimal c = true

theorem frameNumber_of_short {s : String} (numeral : IsNumeral s)
    (short : s.toList.length ≤ Number.digitLimit) :
    frameNumber s = .ok (Number.valueOf s.toList : Nat) := by
  rw [frameNumber, Number.readInt_digits s numeral.1 numeral.2,
    if_neg (Nat.not_lt.mpr short)]
  rfl

theorem frameNumber_of_long {s : String} (numeral : IsNumeral s)
    (long : Number.digitLimit < s.toList.length) :
    ∃ f, frameNumber s = .error f := by
  rw [frameNumber, Number.readInt_digits s numeral.1 numeral.2, if_pos long]
  exact ⟨_, rfl⟩

theorem frameOf_pair {file line : String} {n : Int} (read : frameNumber line = .ok n) :
    frameOf [file, line] = .ok [.quotedFile file n] := by
  rw [frameOf, read]
  rfl

theorem frameOf_triple {file line column : String} {m n : Int} (readLine : frameNumber line = .ok m)
    (readColumn : frameNumber column = .ok n) :
    frameOf [file, line, column] = .ok [.bracketed file m n] := by
  rw [frameOf, readLine, readColumn]
  rfl

theorem framesOf_cons_eq_ok {parts : List String} {rest : List (List String)} {fs : List Frame} :
    framesOf (parts :: rest) = .ok fs ↔
      ∃ f more, frameOf parts = .ok f ∧ framesOf rest = .ok more ∧ fs = f ++ more := by
  rw [framesOf]
  cases frameOf parts with
  | error e => simp [bind, Except.bind]
  | ok f =>
    cases framesOf rest with
    | error e => simp [bind, Except.bind]
    | ok more => simp [bind, Except.bind, pure, Except.pure, eq_comm]

/-- If every frame can be read, these are the frames. -/
theorem framesOf_map {α : Type} {parts : α → List String} {frame : α → Frame} {places : List α}
    (each : ∀ a ∈ places, frameOf (parts a) = .ok [frame a]) :
    framesOf (places.map parts) = .ok (places.map frame) := by
  induction places with
  | nil => rfl
  | cons a places ih =>
    obtain ⟨first, others⟩ := List.forall_mem_cons.mp each
    exact framesOf_cons_eq_ok.mpr ⟨[frame a], _, first, ih others, rfl⟩

theorem exists_framesOf_iff {found : List (List String)} :
    (∃ fs, framesOf found = .ok fs) ↔ ∀ parts ∈ found, ∃ f, frameOf parts = .ok f := by
  induction found with
  | nil => exact ⟨fun _ => List.forall_mem_nil _, fun _ => ⟨[], rfl⟩⟩
  | cons parts found ih =>
    rw [List.forall_mem_cons, ← ih]
    constructor
    · rintro ⟨fs, read⟩
      obtain ⟨f, more, first, others, -⟩ := framesOf_cons_eq_ok.mp read
      exact ⟨⟨f, first⟩, more, others⟩
    · rintro ⟨⟨f, first⟩, more, others⟩
      exact ⟨f ++ more, framesOf_cons_eq_ok.mpr ⟨f, more, first, others, rfl⟩⟩

/-- What holds of the frame of each match holds of all frames. -/
theorem forall_framesOf {P : Frame → Prop} {found : List (List String)} {fs : List Frame}
    (each : ∀ parts ∈ found, ∀ f, frameOf parts = .ok f → ∀ g ∈ f, P g)
    (read : framesOf found = .ok fs) : ∀ f ∈ fs, P f := by
  induction found generalizing fs with
  | nil =>
    obtain rfl := Except.ok.inj read
    exact List.forall_mem_nil P
  | cons parts found ih =>
    obtain ⟨f, more, first, others, rfl⟩ := framesOf_cons_eq_ok.mp read
    intro g member
    rcases List.mem_append.mp member with member | member
    · exact each parts List.mem_cons_self f first g member
    · exact ih (fun parts listed => each parts (List.mem_cons_of_mem _ listed)) others g member

/-! ### What the matches keep -/

theorem parts_of_quotedFrame {parts : List String} (listed : parts ∈ quotedFrame.findAll text) :
    ∃ file line, parts = [file, line] ∧ IsNumeral line ∧ line.toList <:+: text := by
  have reads := findAll_reads (by decide) listed
  rw [show quotedFrame.keeping = [some1 (.butNot '"'), some1 .digit] from rfl] at reads
  obtain _ | ⟨-, _ | ⟨⟨digits, within⟩, _ | _⟩⟩ := reads
  exact ⟨_, _, rfl, reads_some1 digits, within⟩

theorem parts_of_bracketedFrame {parts : List String}
    (listed : parts ∈ bracketedFrame.findAll text) :
    ∃ file line column, parts = [file, line, column] ∧
      (IsNumeral line ∧ line.toList <:+: text) ∧ IsNumeral column ∧ column.toList <:+: text := by
  have reads := findAll_reads (by decide) listed
  rw [show bracketedFrame.keeping = [some1 (.butNot ':'), some1 .digit, some1 .digit] from rfl]
    at reads
  obtain _ | ⟨-, _ | ⟨⟨digits, within⟩, _ | ⟨⟨more, inside⟩, _ | _⟩⟩⟩ := reads
  exact ⟨_, _, _, rfl, ⟨reads_some1 digits, within⟩, reads_some1 more, inside⟩

/-- Two parts make a frame that quotes its file, three make one in brackets. -/
theorem isQuoted_of_frameOf {parts : List String} {f : List Frame} (read : frameOf parts = .ok f) :
    ∀ g ∈ f, g.isQuoted = (parts.length == 2) := by
  rw [frameOf.eq_def] at read
  split at read
  · rename_i file line
    cases number : frameNumber line with
    | error e =>
      rw [number] at read
      cases read
    | ok n =>
      rw [number] at read
      obtain rfl := Except.ok.inj read
      exact List.forall_mem_singleton.mpr rfl
  · rename_i file line column
    cases number : frameNumber line with
    | error e =>
      rw [number] at read
      cases read
    | ok m =>
      cases other : frameNumber column with
      | error e =>
        rw [number, other] at read
        cases read
      | ok n =>
        rw [number, other] at read
        obtain rfl := Except.ok.inj read
        exact List.forall_mem_singleton.mpr rfl
  · obtain rfl := Except.ok.inj read
    exact List.forall_mem_nil _

/-- The frames of all matches of a pattern are of the form that it has parts for. -/
theorem isQuoted_of_findAll {p : Pattern} (ordered : p.keepsInOrder = true) {fs : List Frame}
    (read : framesOf (p.findAll text) = .ok fs) :
    ∀ f ∈ fs, f.isQuoted = (p.keeping.length == 2) := by
  refine forall_framesOf (fun parts listed f one g member => ?_) read
  rw [isQuoted_of_frameOf one g member, (findAll_reads ordered listed).length_eq]

theorem isQuoted_of_quotedFrame {fs : List Frame}
    (read : framesOf (quotedFrame.findAll text) = .ok fs) : ∀ f ∈ fs, f.isQuoted = true :=
  isQuoted_of_findAll (by decide) read

theorem isQuoted_of_bracketedFrame {fs : List Frame}
    (read : framesOf (bracketedFrame.findAll text) = .ok fs) : ∀ f ∈ fs, f.isQuoted = false :=
  isQuoted_of_findAll (by decide) read

/-- A trace has an explanation if the frames of both forms can be read. -/
theorem explainTrace_eq_ok {trace : String} {answer : Json} :
    explainTrace trace = .ok answer ↔
      ∃ quoted bracketed, framesOf (quotedFrame.findAll trace.toList) = .ok quoted ∧
        framesOf (bracketedFrame.findAll trace.toList) = .ok bracketed ∧
        answer = explanation (quoted ++ bracketed) := by
  rw [explainTrace_eq, framesIn]
  cases framesOf (quotedFrame.findAll trace.toList) with
  | error e => simp [bind, Except.bind, Except.map]
  | ok quoted =>
    cases framesOf (bracketedFrame.findAll trace.toList) with
    | error e => simp [bind, Except.bind, Except.map]
    | ok bracketed => simp [bind, Except.bind, pure, Except.pure, Except.map, eq_comm]

/-! ### Numbers that are too long -/

/-- A frame that quotes its file gives a line with too many digits. -/
def HasLongLine (text : List Char) : Prop :=
  ∃ file line, [file, line] ∈ quotedFrame.findAll text ∧ 4300 < line.toList.length

/-- The frames that quote their file can be read unless a line is too long. -/
theorem exists_quoted_iff :
    (∃ fs, framesOf (quotedFrame.findAll text) = .ok fs) ↔ ¬ HasLongLine text := by
  rw [exists_framesOf_iff]
  constructor
  · rintro all ⟨file, line, listed, long⟩
    obtain ⟨_, _, same, numeral, -⟩ := parts_of_quotedFrame listed
    obtain ⟨rfl, rfl⟩ : _ ∧ line = _ := by simpa using same
    obtain ⟨f, read⟩ := all _ listed
    obtain ⟨e, unread⟩ := frameNumber_of_long numeral long
    rw [frameOf, unread] at read
    cases read
  · intro short parts listed
    obtain ⟨file, line, rfl, numeral, -⟩ := parts_of_quotedFrame listed
    have fits : line.toList.length ≤ Number.digitLimit :=
      Nat.not_lt.mp fun long => short ⟨file, line, listed, long⟩
    exact ⟨_, frameOf_pair (frameNumber_of_short numeral fits)⟩

theorem exists_bracketed_of_short (short : ¬ HasLongNumber text) :
    ∃ fs, framesOf (bracketedFrame.findAll text) = .ok fs := by
  have fits : ∀ {s : String}, IsNumeral s → s.toList <:+: text →
      s.toList.length ≤ Number.digitLimit := fun numeral within =>
    Nat.not_lt.mp fun long => short ⟨_, within, long, numeral.2⟩
  rw [exists_framesOf_iff]
  intro parts listed
  obtain ⟨file, line, column, rfl, ⟨numeral, within⟩, other, inside⟩ :=
    parts_of_bracketedFrame listed
  exact ⟨_, frameOf_triple (frameNumber_of_short numeral (fits numeral within))
    (frameNumber_of_short other (fits other inside))⟩

end VoiceDebugger
