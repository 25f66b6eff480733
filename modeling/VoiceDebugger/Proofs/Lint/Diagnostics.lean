import VoiceDebugger.Proofs.Lint.Separate
import VoiceDebugger.Proofs.Number.Digits
import VoiceDebugger.Proofs.Text.Pieces
import VoiceDebugger.Proofs.Text.Trim
import VoiceDebugger.Proofs.Workspace.Place

/-!
Diagnostics of the type checker.

They are printed one to a line, as place, severity and message. What was printed is trimmed as a
whole, so the first line may lose blanks before its path and the last one blanks behind its message.
Neither takes part in what is found: the path is not kept, and the text behind the place is trimmed
anyway.
-/

namespace VoiceDebugger

/-! ### Marks -/

section Marks

variable {mark : Char} {word front rest : List Char}

theorem marked_prefix_iff (unmarked : mark ∉ word) (apart : mark ∉ front) (rest : List Char) :
    word ++ [mark] <+: front ++ mark :: rest ↔ word = front := by
  have cut : ∀ {cs : List Char}, mark ∉ cs → ∀ more,
      (cs ++ mark :: more).takeWhile (· != mark) = cs := by
    intro cs missing more
    rw [List.takeWhile_append_of_pos (by
      intro c member
      exact bne_iff_ne.mpr fun same => missing (same ▸ member))]
    simp
  constructor
  · rintro ⟨more, same⟩
    rw [List.append_assoc, List.singleton_append] at same
    rw [← cut unmarked more, same, cut apart]
  · rintro rfl
    exact ⟨rest, by simp⟩

/-- A marked word stands in a text either at the first mark or behind it. -/
theorem infix_marked_iff (unmarked : mark ∉ word) (apart : mark ∉ front) :
    word ++ [mark] <:+: front ++ mark :: rest ↔ word <:+ front ∨ word ++ [mark] <:+: rest := by
  induction front with
  | nil =>
    have first := marked_prefix_iff unmarked List.not_mem_nil rest
    rw [List.nil_append] at first ⊢
    rw [List.infix_cons_iff, first, List.suffix_nil]
  | cons c front ih =>
    have first := marked_prefix_iff unmarked apart rest
    rw [List.cons_append] at first ⊢
    rw [List.infix_cons_iff, first, ih (fun member => apart (List.mem_cons_of_mem c member)),
      List.suffix_cons_iff, or_assoc]

theorem cutAt_append (apart : mark ∉ front) (n : Nat) :
    cutAt mark (n + 1) (front ++ mark :: rest) = front :: cutAt mark n rest := by
  have others : ∀ c ∈ front, (c != mark) = true := by
    intro c member
    exact bne_iff_ne.mpr fun same => apart (same ▸ member)
  have stops : ¬ (mark != mark) = true := by simp
  rw [cutAt, List.dropWhile_append_of_pos others, List.takeWhile_append_of_pos others,
    List.dropWhile_cons_of_neg (p := (· != mark)) stops,
    List.takeWhile_cons_of_neg (p := (· != mark)) stops, List.append_nil]

end Marks

/-! ### Diagnostics -/

/-- How grave a diagnostic is. -/
inductive Severity where
  | error
  | warning
  | note
  deriving Repr, DecidableEq

/-- The word for a severity. -/
def Severity.word : Severity → String
  | .error => "error"
  | .warning => "warning"
  | .note => "note"

/-- What the type checker says about a place in a source file. -/
structure Diagnostic where
  path : String
  line : Nat
  column : Nat
  severity : Severity
  message : String
  source : ['.', 'p', 'y'] <:+ path.toList
  uncut : ':' ∉ path.toList ∧ '\n' ∉ path.toList
  readable : (Nat.toDigits 10 line).length ≤ 4300 ∧ (Nat.toDigits 10 column).length ≤ 4300
  oneLine : '\n' ∉ message.toList

namespace Diagnostic

/-- Severity and message. -/
def text (d : Diagnostic) : String :=
  d.severity.word ++ ": " ++ d.message

/-- The line that tells a diagnostic. -/
def told (d : Diagnostic) : String :=
  d.path ++ ":" ++ toString d.line ++ ":" ++ toString d.column ++ ": " ++ d.text

/-- What is printed for diagnostics: a line for each. -/
def printed : List Diagnostic → String
  | [] => ""
  | d :: ds => d.told ++ "\n" ++ printed ds

/-- A diagnostic counts as an error if it is one or says `error:` in its message. -/
def IsError (d : Diagnostic) : Prop :=
  d.severity = .error ∨ "error:".toList <:+: d.message.toList

instance (d : Diagnostic) : Decidable d.IsError :=
  decidable_of_iff (d.severity = .error ∨ Text.occursIn "error:".toList d.message.toList = true)
    (or_congr_right (Text.occursIn_iff_infix _ _))

/-- The item of a report for a diagnostic. -/
def item (d : Diagnostic) : Json :=
  .obj [("line", .int d.line), ("column", .int d.column), ("message", .str (Text.strip d.text)),
    ("type", .str "type-error"), ("source", .str "mypy")]

/-- The finding that a diagnostic is read as. -/
def finding (d : Diagnostic) : Finding :=
  .typing d.line d.column (Text.strip d.text)

/-- The place of a diagnostic, with a path of its own, and some text behind it. -/
def place (d : Diagnostic) (path behind : List Char) : List Char :=
  path ++ ':' :: (Nat.toDigits 10 d.line ++ ':' :: (Nat.toDigits 10 d.column ++ ':' :: behind))

theorem told_toList (d : Diagnostic) :
    d.told.toList = d.place d.path.toList (' ' :: d.text.toList) := by
  simp [told, place, Nat.toString_eq_repr, Nat.toList_repr]

theorem text_toList (d : Diagnostic) :
    ' ' :: d.text.toList = ' ' :: d.severity.word.toList ++ ':' :: ' ' :: d.message.toList := by
  simp [text]

theorem printed_cons_toList (d : Diagnostic) (ds : List Diagnostic) :
    (printed (d :: ds)).toList = d.told.toList ++ '\n' :: (printed ds).toList := by
  simp [printed]

/-! ### Single lines -/

theorem placeNumber_digits {n : Nat} (short : (Nat.toDigits 10 n).length ≤ Number.digitLimit) :
    placeNumber (Nat.toDigits 10 n) = .ok n := by
  have decimal : ∀ c ∈ Nat.toDigits 10 n, Text.isDecimal c = true := fun c =>
    Number.isDecimal_of_mem_toDigits
  have form : (Nat.toDigits 10 n).all Text.isDigitForm = true := by
    rw [List.all_eq_true]
    intro c member
    rw [Text.isDigitForm, decimal c member]
    rfl
  have written : (Nat.toDigits 10 n).isEmpty = false := by
    exact List.isEmpty_eq_false_iff.mpr Nat.toDigits_ne_nil
  have read := Number.readInt_digits (String.ofList (Nat.toDigits 10 n))
  rw [String.toList_ofList] at read
  rw [placeNumber, written, form]
  simp only [Bool.not_false, Bool.and_true, ↓reduceIte]
  rw [read Nat.toDigits_ne_nil decimal, if_neg (Nat.not_lt.mpr short), Number.valueOf_toDigits]
  rfl

theorem not_mem_digits {c : Char} (other : c.isDigit = false) (n : Nat) : c ∉ Nat.toDigits 10 n := by
  intro member
  have digit := Nat.isDigit_of_mem_toDigits (by decide) (by decide) member
  rw [other] at digit
  cases digit

/-- The word `error` ends neither the path of a source file nor a number. -/
theorem infix_place_iff (d : Diagnostic) {path : List Char} (source : ['.', 'p', 'y'] <:+ path)
    (uncut : ':' ∉ path) (behind : List Char) :
    "error:".toList <:+: d.place path behind ↔ "error:".toList <:+: behind := by
  have marked : "error:".toList = ['e', 'r', 'r', 'o', 'r'] ++ [':'] := rfl
  have unmarked : ':' ∉ ['e', 'r', 'r', 'o', 'r'] := by decide
  have colon : ∀ n, ':' ∉ Nat.toDigits 10 n := not_mem_digits (by decide)
  have ends : ∀ n, ¬ ['e', 'r', 'r', 'o', 'r'] <:+ Nat.toDigits 10 n := by
    intro n suffix
    exact not_mem_digits (c := 'e') (by decide) n (suffix.mem List.mem_cons_self)
  have other : ¬ ['e', 'r', 'r', 'o', 'r'] <:+ path := by
    intro suffix
    exact absurd (List.suffix_of_suffix_length_le source suffix (by decide)) (by decide)
  rw [marked, place, infix_marked_iff unmarked uncut, infix_marked_iff unmarked (colon _),
    infix_marked_iff unmarked (colon _)]
  simp only [other, ends, false_or]

theorem cutAt_place (d : Diagnostic) {path : List Char} (uncut : ':' ∉ path) (behind : List Char) :
    cutAt ':' 3 (d.place path behind) =
      [path, Nat.toDigits 10 d.line, Nat.toDigits 10 d.column, behind] := by
  have colon : ∀ n, ':' ∉ Nat.toDigits 10 n := not_mem_digits (by decide)
  rw [place, cutAt_append uncut, cutAt_append (colon _), cutAt_append (colon _), cutAt]

theorem infix_text_iff (d : Diagnostic) :
    "error:".toList <:+: ' ' :: d.text.toList ↔ d.IsError := by
  have marked : "error:".toList = ['e', 'r', 'r', 'o', 'r'] ++ [':'] := rfl
  have unmarked : ':' ∉ ['e', 'r', 'r', 'o', 'r'] := by decide
  have solid : ':' ∉ ' ' :: d.severity.word.toList := by
    cases d.severity <;> decide
  have named : ['e', 'r', 'r', 'o', 'r'] <:+ ' ' :: d.severity.word.toList ↔ d.severity = .error := by
    cases d.severity <;> decide
  have inside : ['e', 'r', 'r', 'o', 'r'] ++ [':'] <:+: ' ' :: d.message.toList ↔
      ['e', 'r', 'r', 'o', 'r'] ++ [':'] <:+: d.message.toList := by
    rw [List.infix_cons_iff, List.cons_append, List.cons_prefix_cons]
    simp
  rw [IsError, text_toList, marked, infix_marked_iff unmarked solid, named, inside]

/-- A line that tells a diagnostic is read as its finding, or passed over. The path is any that a
source file may have, and blanks at the end of the text may be missing. -/
theorem typingFinding_place (d : Diagnostic) {path behind : List Char}
    (source : ['.', 'p', 'y'] <:+ path) (uncut : ':' ∉ path)
    (trimmed : Text.trim behind = Text.trim d.text.toList)
    (holds : "error:".toList <:+: behind ↔ d.IsError) :
    typingFinding (d.place path behind) =
      .ok (if d.IsError then .error d.finding else {}) := by
  have colon : (d.place path behind).contains ':' = true := by
    rw [List.contains_iff_mem, place]
    exact List.mem_append_right _ List.mem_cons_self
  have found : Text.occursIn "error:".toList (d.place path behind) = decide d.IsError := by
    rw [Bool.eq_iff_iff, Text.occursIn_iff_infix, infix_place_iff d source uncut, holds,
      decide_eq_true_iff]
  rw [typingFinding, colon, found, cutAt_place d uncut]
  by_cases error : d.IsError
  · simp only [error, decide_true, Bool.and_self, ↓reduceIte]
    rw [placeNumber_digits d.readable.1, placeNumber_digits d.readable.2, trimmed]
    rfl
  · simp only [error, decide_false, Bool.and_false, Bool.false_eq_true, ↓reduceIte]

/-! ### All lines -/

/-- The findings of diagnostics: an error for each one that counts as such. -/
def findings (ds : List Diagnostic) : Findings where
  errors := (ds.filter IsError).map finding

theorem findings_cons (d : Diagnostic) (ds : List Diagnostic) :
    findings (d :: ds) = (if d.IsError then .error d.finding else {}) ++ findings ds := by
  by_cases error : d.IsError
  · simp only [findings, error, List.filter_cons, decide_true, ↓reduceIte, List.map_cons]
    rfl
  · simp only [findings, error, List.filter_cons, decide_false, Bool.false_eq_true, ↓reduceIte]
    rfl

theorem items_findings (ds : List Diagnostic) :
    (findings ds).errors.map Finding.toJson = (ds.filter IsError).map item := by
  rw [findings, List.map_map]
  rfl

theorem readAll_cons {α : Type} {read : α → Except Failure Findings} {a : α} {found : Findings}
    (first : read a = .ok found) (more : List α) :
    ReadReport.readAll read (a :: more) =
      { ReadReport.readAll read more with
        findings := found ++ (ReadReport.readAll read more).findings } := by
  rw [ReadReport.readAll, first]

theorem newline_not_mem_place (d : Diagnostic) {behind : List Char} (oneLine : '\n' ∉ behind) :
    '\n' ∉ d.place d.path.toList behind := by
  have digits : ∀ n, '\n' ∉ Nat.toDigits 10 n := not_mem_digits (by decide)
  simp [place, d.uncut.2, digits, oneLine]

theorem newline_not_mem_text (d : Diagnostic) : '\n' ∉ ' ' :: d.text.toList := by
  have word : '\n' ∉ d.severity.word.toList := by
    cases d.severity <;> decide
  rw [text_toList]
  simp [word, d.oneLine]

/-- The last line without the blanks at its end. -/
theorem trimEnd_told (d : Diagnostic) :
    Text.trimEnd (d.told.toList ++ ['\n']) =
      d.place d.path.toList (Text.trimEnd (' ' :: d.text.toList)) := by
  have solid : Text.isBlank ':' = false := by decide
  rw [Text.trimEnd_append_blank (by decide), told_toList, place, place,
    Text.trimEnd_append_solid solid, Text.trimEnd_append_solid solid,
    Text.trimEnd_append_solid solid]

theorem typingFinding_told (d : Diagnostic) :
    typingFinding d.told.toList = .ok (if d.IsError then .error d.finding else {}) := by
  rw [told_toList]
  exact typingFinding_place d d.source d.uncut.1 rfl d.infix_text_iff

theorem typingFinding_trimmed (d : Diagnostic) :
    typingFinding (d.place d.path.toList (Text.trimEnd (' ' :: d.text.toList))) =
      .ok (if d.IsError then .error d.finding else {}) := by
  apply typingFinding_place d d.source d.uncut.1
  · rw [Text.trim_trimEnd]
    rfl
  · exact (Text.infix_trimEnd (by decide) ['e', 'r', 'r', 'o', 'r'] _).trans d.infix_text_iff

/-- Behind the first line there are others, so blanks are dropped there. -/
theorem trimEnd_printed (front : List Char) (d : Diagnostic) (ds : List Diagnostic) :
    Text.trimEnd (front ++ (printed (d :: ds)).toList) =
      front ++ Text.trimEnd (printed (d :: ds)).toList := by
  have solid : Text.isBlank ':' = false := by decide
  rw [printed_cons_toList, told_toList, place, List.append_assoc, List.cons_append,
    Text.trimEnd_append_solid solid, ← List.append_assoc, Text.trimEnd_append_solid solid,
    List.append_assoc]

theorem readAll_printed (d : Diagnostic) (ds : List Diagnostic) :
    ReadReport.readAll typingFinding
        (Text.splitAtChar '\n' (Text.trimEnd (printed (d :: ds)).toList)) =
      { findings := findings (d :: ds) } := by
  induction ds generalizing d with
  | nil =>
    have oneLine : '\n' ∉ Text.trimEnd (' ' :: d.text.toList) := fun member =>
      d.newline_not_mem_text ((Text.prefix_trimEnd _).mem member)
    rw [printed_cons_toList, printed, String.toList_empty, trimEnd_told,
      Text.splitAtChar_whole _ _ (d.newline_not_mem_place oneLine),
      readAll_cons d.typingFinding_trimmed, findings_cons]
    rfl
  | cons e ds ih =>
    have oneLine : '\n' ∉ d.told.toList := by
      rw [told_toList]
      exact d.newline_not_mem_place d.newline_not_mem_text
    have trimmed : Text.trimEnd (printed (d :: e :: ds)).toList =
        d.told.toList ++ '\n' :: Text.trimEnd (printed (e :: ds)).toList := by
      have behind := trimEnd_printed (d.told.toList ++ ['\n']) e ds
      rw [printed_cons_toList d]
      simpa using behind
    rw [trimmed, Text.splitAtChar_append, Text.splitAtChar_whole _ _ oneLine,
      List.singleton_append, readAll_cons d.typingFinding_told, ih e, findings_cons d]

/-- A diagnostic without blanks before its path. -/
def unindented (d : Diagnostic) : Diagnostic :=
  have part : ∀ {c}, c ∈ Text.trimStart d.path.toList → c ∈ d.path.toList := fun member =>
    (List.dropWhile_suffix _).mem member
  { d with
    path := String.ofList (Text.trimStart d.path.toList)
    source := by
      obtain ⟨stem, whole⟩ := d.source
      rw [String.toList_ofList, ← whole, Text.trimStart_append_solid (by decide)]
      exact List.suffix_append _ _
    uncut := by
      rw [String.toList_ofList]
      exact ⟨fun member => d.uncut.1 (part member), fun member => d.uncut.2 (part member)⟩ }

theorem trimStart_printed (d : Diagnostic) (ds : List Diagnostic) :
    Text.trimStart (printed (d :: ds)).toList = (printed (d.unindented :: ds)).toList := by
  have path : d.unindented.path.toList = Text.trimStart d.path.toList := String.toList_ofList
  have told : d.unindented.told.toList =
      d.place (Text.trimStart d.path.toList) (' ' :: d.text.toList) := by
    rw [told_toList, path]
    rfl
  rw [printed_cons_toList, printed_cons_toList, told, told_toList, place, place]
  simp only [List.append_assoc, List.cons_append]
  exact Text.trimStart_append_solid (by decide) _ _

theorem findings_unindented (d : Diagnostic) (ds : List Diagnostic) :
    findings (d.unindented :: ds) = findings (d :: ds) := by
  rw [findings_cons, findings_cons]
  rfl

theorem typingFindings_printed (ds : List Diagnostic) (errors : String) (exit : Int) :
    typingFindings (.done (printed ds) errors exit) = findings ds := by
  cases ds with
  | nil => rfl
  | cons d ds =>
    have written : (printed (d :: ds)).isEmpty = false := by
      apply Bool.eq_false_iff.mpr
      intro empty
      have none : (printed (d :: ds)).toList = [] := by
        rw [String.isEmpty_iff.mp empty, String.toList_empty]
      rw [printed_cons_toList] at none
      simp at none
    rw [typingFindings, readTypingReport, written, Text.trim, trimStart_printed]
    simp only [Bool.false_eq_true, ↓reduceIte]
    rw [readAll_printed, findings_unindented]
    rfl

end Diagnostic

/-! ### Checkers of findings -/

/-- Whether an item of a report is from a checker. -/
def isFrom (checker : String) (item : Json) : Bool :=
  match item.get? "source" with
  | some (.str source) => source == checker
  | _ => false

/-- The checker that a finding is from. -/
def Finding.checker : Finding → String
  | .style .. => "pylint"
  | .typing .. => "mypy"
  | .script .. => "eslint"
  | .malformed .. => "python"
  | .unreadable _ => "python"
  | .remark _ source => source

theorem isFrom_toJson (checker : String) (f : Finding) :
    isFrom checker f.toJson = (f.checker == checker) := by
  have same : ∀ name : String, ((name : CodeText) == checker) = (name == checker) := by
    intro name
    rw [Bool.eq_iff_iff, beq_iff_eq, beq_iff_eq, CodeText.ofString_inj]
  cases f <;> exact same _

/-- Something holds of all findings. -/
def Findings.All (p : Finding → Prop) (found : Findings) : Prop :=
  ∀ f ∈ found.errors ++ found.warnings, p f

namespace Findings

variable {p : Finding → Prop}

theorem all_empty : ({} : Findings).All p := by
  intro f member
  cases member

theorem all_error {f : Finding} (holds : p f) : (Findings.error f).All p := by
  intro g member
  rwa [List.mem_singleton.mp member]

theorem all_warning {f : Finding} (holds : p f) : (Findings.warning f).All p := by
  intro g member
  rwa [List.mem_singleton.mp member]

theorem All.append {a b : Findings} (first : a.All p) (second : b.All p) : (a ++ b).All p := by
  have split : a ++ b = ⟨a.errors ++ b.errors, a.warnings ++ b.warnings⟩ := rfl
  intro f member
  rw [split] at member
  simp only [List.mem_append] at member
  have here := first f
  have there := second f
  simp only [List.mem_append] at here there
  tauto

theorem all_readAll {α : Type} {read : α → Except Failure Findings}
    (each : ∀ a found, read a = .ok found → found.All p) (pieces : List α) :
    (ReadReport.readAll read pieces).findings.All p := by
  induction pieces with
  | nil => exact all_empty
  | cons a rest ih =>
    rw [ReadReport.readAll]
    cases got : read a with
    | error f => exact all_empty
    | ok found => exact (each a found got).append ih

theorem All.close {r : ReadReport} (found : r.findings.All p) {checker source : String}
    (remark : ∀ message, p (.remark message source)) : (r.close checker source).All p := by
  rw [ReadReport.close]
  cases r.fault with
  | none => exact found
  | some f => exact found.append (all_warning (remark _))

end Findings

theorem checker_styleFinding {item : Json} {found : Findings} (read : styleFinding item = .ok found) :
    found.All fun f => f.checker = "pylint" := by
  cases item with
  | obj fields =>
    rw [styleFinding_obj] at read
    obtain rfl := Except.ok.inj read
    split
    · exact Findings.all_error rfl
    · exact Findings.all_warning rfl
  | _ => cases read

/-- The style checker speaks for itself or is missing. -/
theorem checker_styleFindings (reply : ToolReply) :
    (styleFindings reply).All fun f => f.checker ≠ "mypy" := by
  cases reply with
  | done output errors exit =>
    rw [styleFindings]
    apply Findings.All.close
    · rw [readStyleReport]
      split
      · exact Findings.all_empty
      · split
        · exact Findings.all_empty
        · split
          · exact Findings.all_empty
          · apply Findings.all_readAll
            intro item found read f member
            rw [checker_styleFinding read f member]
            decide
    · intro message
      change "pylint" ≠ "mypy"
      decide
  | timeout => exact Findings.all_warning (by decide)
  | missing => exact Findings.all_warning (by decide)
  | broken m => exact Findings.all_warning (by change "pylint" ≠ "mypy"; decide)

theorem checker_syntaxFindings (content : Except FileFault (List UInt8)) :
    (syntaxFindings content).All fun f => f.checker = "python" := by
  unfold syntaxFindings
  split
  · exact Findings.all_error rfl
  · split
    · exact Findings.all_error rfl
    · unfold moduleFindings
      split
      · exact Findings.all_empty
      · exact Findings.all_error rfl
      · exact Findings.all_error rfl

/-! ### Reports -/

theorem filter_isFrom_of_others {checker : String} {fs : List Finding}
    (others : ∀ f ∈ fs, f.checker ≠ checker) :
    (fs.map Finding.toJson).filter (isFrom checker) = [] := by
  rw [List.filter_eq_nil_iff]
  intro item member
  obtain ⟨f, listed, rfl⟩ := List.mem_map.mp member
  rw [isFrom_toJson, beq_iff_eq]
  exact others f listed

theorem filter_isFrom_of_own {checker : String} {fs : List Finding}
    (own : ∀ f ∈ fs, f.checker = checker) :
    (fs.map Finding.toJson).filter (isFrom checker) = fs.map Finding.toJson := by
  rw [List.filter_eq_self]
  intro item member
  obtain ⟨f, listed, rfl⟩ := List.mem_map.mp member
  rw [isFrom_toJson, beq_iff_eq]
  exact own f listed

/-- The diagnostics that the type checker prints for a file are recovered: its errors in the report
are just those that count as such, in order, and it has no warnings there. -/
theorem diagnostics_recovered (file : String) (ds : List Diagnostic) (errors : String) (exit : Int)
    (s : Session) (present : pathExists s.root file = true)
    (replied : s.replyOf "mypy" = .done (Diagnostic.printed ds) errors exit) :
    ∃ report t found warned,
      (findErrors (.str file) (.str "python")).runIn s = (.ok report, t) ∧
      report.toJson.get? "errors" = some (.arr found) ∧
      report.toJson.get? "warnings" = some (.arr warned) ∧
      found.filter (isFrom "mypy") = (ds.filter Diagnostic.IsError).map Diagnostic.item ∧
      warned.filter (isFrom "mypy") = [] := by
  have style := checker_styleFindings (s.replyOf "pylint")
  have faults := checker_syntaxFindings (readBytes s.root file)
  have silent := (syntaxFindings_few (readBytes s.root file)).2
  have types : typingFindings (s.replyOf "mypy") = Diagnostic.findings ds := by
    rw [replied, Diagnostic.typingFindings_printed]
  have combines := combines_checked (.str file) (styleFindings (s.replyOf "pylint"))
    (Diagnostic.findings ds) (syntaxFindings (readBytes s.root file)) silent
  have ran := runIn_lintSource_present file s present
  rw [types, ← findErrors_python] at ran
  refine ⟨_, _, _, _, ran, combines.errors, combines.warnings, ?_, ?_⟩
  · have first := filter_isFrom_of_others fun f member =>
      style f (List.mem_append_left _ member)
    have last : ((syntaxFindings (readBytes s.root file)).errors.map Finding.toJson).filter
        (isFrom "mypy") = [] := by
      apply filter_isFrom_of_others
      intro f member
      rw [faults f (List.mem_append_left _ member)]
      decide
    have own : ((Diagnostic.findings ds).errors.map Finding.toJson).filter (isFrom "mypy") =
        (Diagnostic.findings ds).errors.map Finding.toJson := by
      apply filter_isFrom_of_own
      intro f member
      obtain ⟨d, -, rfl⟩ := List.mem_map.mp member
      rfl
    simp only [Findings.values, List.filter_append, first, own, last, List.nil_append,
      List.append_nil]
    exact Diagnostic.items_findings ds
  · have first := filter_isFrom_of_others fun f member =>
      style f (List.mem_append_right _ member)
    simp only [Findings.values, Diagnostic.findings, List.map_nil, List.append_nil, first]

/-- A note that is not about an error. -/
def plainNote : Diagnostic where
  path := " a.py"
  line := 3
  column := 1
  severity := .note
  message := "See: b"
  source := by decide
  uncut := by decide
  readable := by decide
  oneLine := by decide

/-- A warning that speaks of an error and ends in blanks. -/
def quotingWarning : Diagnostic where
  path := "a.py"
  line := 12
  column := 0
  severity := .warning
  message := "not an error: 1 "
  source := by decide
  uncut := by decide
  readable := by decide
  oneLine := by decide

/-- A session with one file and a type checker that prints two diagnostics. -/
def typeChecked : Session where
  root := [("a.py", .file [])]
  clock := { year := 2024, month := 1, day := 2 }
  tools := [("mypy", .done (Diagnostic.printed [plainNote, quotingWarning]) "" 1)]

theorem diagnostics_recovered_typeChecked :
    pathExists typeChecked.root "a.py" = true ∧
    typeChecked.replyOf "mypy" =
      .done (Diagnostic.printed [plainNote, quotingWarning]) "" 1 ∧
    ∃ report t found warned,
      (findErrors (.str "a.py") (.str "python")).runIn typeChecked = (.ok report, t) ∧
      report.toJson.get? "errors" = some (.arr found) ∧
      report.toJson.get? "warnings" = some (.arr warned) ∧
      found.filter (isFrom "mypy") = [quotingWarning.item] ∧
      warned.filter (isFrom "mypy") = [] := by
  have present : pathExists typeChecked.root "a.py" = true := by decide
  have kept : [plainNote, quotingWarning].filter Diagnostic.IsError = [quotingWarning] := by
    rw [List.filter_cons_of_neg (by decide), List.filter_cons_of_pos (by decide), List.filter_nil]
  have recovered := diagnostics_recovered "a.py" [plainNote, quotingWarning] "" 1 typeChecked
    present rfl
  rw [kept] at recovered
  exact ⟨present, rfl, recovered⟩

end VoiceDebugger
