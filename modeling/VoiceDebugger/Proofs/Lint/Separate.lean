import VoiceDebugger.Proofs.Json.RoundTrip
import VoiceDebugger.Proofs.Lint.Runs

/-!
The checks of a file do not get in each other's way, and none of their findings is lost.

The report on a file is put together from what the style checker, the type checker and reading the
file bring, each of them whatever the others do. A list of issues that the style checker prints is
taken over issue by issue.
-/

namespace VoiceDebugger

open VoiceDebugger.Action

/-! ### Issues of the style checker -/

/-- The finding that an issue is taken over as. -/
def issueFinding (fields : List (CodeText × Json)) : Finding :=
  .style ((Json.field? "line" fields).getD (.int 0)) ((Json.field? "column" fields).getD (.int 0))
    ((Json.field? "message" fields).getD (.str "")) ((Json.field? "type" fields).getD (.str ""))
    ((Json.field? "symbol" fields).getD (.str ""))

/-- Whether an issue counts as an error. -/
def isGrave (fields : List (CodeText × Json)) : Bool :=
  match Json.field? "type" fields with
  | some (.str kind) => kind == ("error" : CodeText) || kind == ("fatal" : CodeText)
  | _ => false

theorem isGrave_eq (fields : List (CodeText × Json)) :
    (((Json.field? "type" fields).getD (.str "")).same (.str "error") ||
      ((Json.field? "type" fields).getD (.str "")).same (.str "fatal")) = isGrave fields := by
  rw [isGrave]
  cases Json.field? "type" fields with
  | none => decide
  | some kind =>
    cases kind with
    | str kind => simp only [Option.getD_some, Json.same]
    | _ => simp [Json.same, Json.integer?]

theorem styleFinding_obj (fields : List (CodeText × Json)) :
    styleFinding (.obj fields) =
      .ok (if isGrave fields then .error (issueFinding fields)
        else .warning (issueFinding fields)) := by
  rw [← isGrave_eq]
  change (if _ then _ else _) = _
  split <;> rfl

/-- A list of issues is read to its end, and each issue is found once. -/
theorem readAll_issues (issues : List (List (CodeText × Json))) :
    ReadReport.readAll styleFinding (issues.map .obj) =
      { findings := {
          errors := (issues.filter isGrave).map issueFinding
          warnings := (issues.filter fun fields => !isGrave fields).map issueFinding } } := by
  induction issues with
  | nil => rfl
  | cons fields issues ih =>
    rw [List.map_cons, ReadReport.readAll, styleFinding_obj, ih]
    cases grave : isGrave fields with
    | true => simp only [grave, List.filter_cons]; rfl
    | false => simp only [grave, List.filter_cons]; rfl

theorem styleFindings_issues {output : String} {issues : List (List (CodeText × Json))}
    (printed : Json.parseString output = .ok (.arr (issues.map .obj))) (errors : String)
    (exit : Int) :
    styleFindings (.done output errors exit) = {
      errors := (issues.filter isGrave).map issueFinding
      warnings := (issues.filter fun fields => !isGrave fields).map issueFinding } := by
  have written : output.isEmpty = false := by
    apply Bool.eq_false_iff.mpr
    intro empty
    rw [String.isEmpty_iff] at empty
    subst empty
    cases printed
  rw [styleFindings, readStyleReport, written, printed]
  change (ReadReport.readAll styleFinding (issues.map .obj)).close _ _ = _
  rw [readAll_issues]
  rfl

/-! ### Findings of single checks -/

theorem syntaxFindings_few (content : Except FileFault (List UInt8)) :
    (syntaxFindings content).errors.length ≤ 1 ∧ (syntaxFindings content).warnings = [] := by
  have single : ∀ f, (Findings.error f).errors.length ≤ 1 ∧ (Findings.error f).warnings = [] :=
    fun f => ⟨Nat.le_refl 1, rfl⟩
  unfold syntaxFindings
  split
  · exact single _
  · split
    · exact single _
    · unfold moduleFindings
      split
      · exact ⟨Nat.zero_le 1, rfl⟩
      · exact single _
      · exact single _

/-- Every finding tells a line and a message. -/
theorem Finding.tells (f : Finding) :
    (∃ line, f.toJson.get? "line" = some line) ∧
      ∃ message, f.toJson.get? "message" = some message := by
  cases f <;> exact ⟨⟨_, rfl⟩, _, rfl⟩

/-- Findings as values: the errors and the warnings. -/
def Findings.values (found : Findings) : List Json × List Json :=
  (found.errors.map Finding.toJson, found.warnings.map Finding.toJson)

/-! ### Reports -/

/-- A report is put together from errors and warnings of two checkers and from faults of the
file. -/
structure Combines (style types : List Json × List Json) (faults : List Json) (report : Json) :
    Prop where
  errors : report.get? "errors" = some (.arr (style.1 ++ types.1 ++ faults))
  warnings : report.get? "warnings" = some (.arr (style.2 ++ types.2))
  totalErrors : report.get? "total_errors" = some (.int (style.1 ++ types.1 ++ faults).length)
  totalWarnings : report.get? "total_warnings" = some (.int (style.2 ++ types.2).length)
  tells : ∀ item ∈ style.1 ++ types.1 ++ faults ++ (style.2 ++ types.2),
    (∃ line, item.get? "line" = some line) ∧ ∃ message, item.get? "message" = some message

theorem combines_checked (file : Json) (style types faults : Findings)
    (silent : faults.warnings = []) :
    Combines style.values types.values faults.values.1
      (LintReport.checked file (style ++ types ++ faults)).toJson := by
  have errors : (LintReport.checked file (style ++ types ++ faults)).errors =
      style.values.1 ++ types.values.1 ++ faults.values.1 := by
    change ((style.errors ++ types.errors) ++ faults.errors).map Finding.toJson = _
    rw [List.map_append, List.map_append]
    rfl
  have warnings : (LintReport.checked file (style ++ types ++ faults)).warnings =
      style.values.2 ++ types.values.2 := by
    change ((style.warnings ++ types.warnings) ++ faults.warnings).map Finding.toJson = _
    rw [silent, List.append_nil, List.map_append]
    rfl
  refine ⟨?_, ?_, ?_, ?_, ?_⟩
  · rw [← errors]
    rfl
  · rw [← warnings]
    rfl
  · rw [← errors]
    rfl
  · rw [← warnings]
    rfl
  · have told : ∀ found : List Finding, ∀ item ∈ found.map Finding.toJson,
        (∃ line, item.get? "line" = some line) ∧
          ∃ message, item.get? "message" = some message := by
      intro found item member
      obtain ⟨f, -, rfl⟩ := List.mem_map.mp member
      exact f.tells
    intro item member
    simp only [List.mem_append] at member
    rcases member with ((member | member) | member) | member | member
    · exact told style.errors item member
    · exact told types.errors item member
    · exact told faults.errors item member
    · exact told style.warnings item member
    · exact told types.warnings item member

/-- Checking a file of source that is there always comes to a report. It combines what the style
checker brings, by its reply alone, what the type checker brings, by its reply alone, and at most
one fault, by what the file holds. The issues that the style checker lists are all there, in order,
and parted by whether they count as errors. -/
theorem lint_checks_separate :
    ∃ (style types : ToolReply → List Json × List Json)
      (faults : Except FileFault (List UInt8) → List Json),
      (∀ (path : String) (s : Session), pathExists s.root path = true →
        ∃ report t, (findErrors (.str path) (.str "python")).runIn s = (.ok report, t) ∧
          Combines (style (s.replyOf "pylint")) (types (s.replyOf "mypy"))
            (faults (readBytes s.root path)) report.toJson) ∧
      (∀ content, (faults content).length ≤ 1) ∧
      ∀ (output errors : String) (exit : Int) (issues : List (List (CodeText × Json))),
        Json.parseString output = .ok (.arr (issues.map .obj)) →
        style (.done output errors exit) =
          ((issues.filter isGrave).map fun fields => (issueFinding fields).toJson,
            (issues.filter fun fields => !isGrave fields).map fun fields =>
              (issueFinding fields).toJson) := by
  refine ⟨fun reply => (styleFindings reply).values, fun reply => (typingFindings reply).values,
    fun content => (syntaxFindings content).values.1, ?_, ?_, ?_⟩
  · intro path s present
    rw [findErrors_python]
    exact ⟨_, _, runIn_lintSource_present path s present,
      combines_checked _ _ _ _ (syntaxFindings_few _).2⟩
  · intro content
    change ((syntaxFindings content).errors.map Finding.toJson).length ≤ 1
    rw [List.length_map]
    exact (syntaxFindings_few content).1
  · intro output errors exit issues printed
    simp only [Findings.values, styleFindings_issues printed, List.map_map]
    rfl

/-- Two issues, one of them an error. -/
def twoIssues : List (List (CodeText × Json)) :=
  [[("type", .str "error")], []]

/-- What the style checker prints for them. -/
def twoIssuesText : String :=
  (Json.arr (twoIssues.map .obj)).indented 4 0

/-- A session with one file, a style checker that prints two issues and a type checker that takes
too long. -/
def halfChecked : Session where
  root := [("a.py", .file [])]
  clock := { year := 2024, month := 1, day := 2 }
  tools := [("pylint", .done twoIssuesText "" 2), ("mypy", .timeout)]

theorem lint_checks_separate_halfChecked :
    pathExists halfChecked.root "a.py" = true ∧
    Json.parseString twoIssuesText = .ok (.arr (twoIssues.map .obj)) ∧
    ∃ types faults report t,
      (findErrors (.str "a.py") (.str "python")).runIn halfChecked = (.ok report, t) ∧
        Combines
          ([(issueFinding [("type", .str "error")]).toJson], [(issueFinding []).toJson])
          types faults report.toJson := by
  have present : pathExists halfChecked.root "a.py" = true := by decide
  have legible : Json.Legible (.arr (twoIssues.map .obj)) := by
    simp only [twoIssues, List.map_cons, List.map_nil, Json.Legible, Json.LegibleItems,
      Json.LegibleFields]
    decide
  have printed : Json.parseString twoIssuesText = .ok (.arr (twoIssues.map .obj)) := by
    rw [Json.parseString, twoIssuesText, Json.parse_indented 4 _ legible]
    rfl
  obtain ⟨style, types, faults, reports, -, taken⟩ := lint_checks_separate
  obtain ⟨report, t, ran, combines⟩ := reports "a.py" halfChecked present
  have reply : halfChecked.replyOf "pylint" = .done twoIssuesText "" 2 := rfl
  rw [reply, taken _ "" 2 twoIssues printed] at combines
  exact ⟨present, printed, _, _, report, t, ran, combines⟩

end VoiceDebugger
