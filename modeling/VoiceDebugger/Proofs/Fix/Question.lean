import VoiceDebugger.Api.Endpoint
import VoiceDebugger.Proofs.Intent.Offline
import VoiceDebugger.Proofs.Lint.Diagnostics
import VoiceDebugger.Proofs.Search.Lines

/-!
The question about the first fault of a file.

The file is checked, and unless nothing is wrong or there is no key, a chat model is asked once. It
is shown the lines around the fault: places in a list begin at zero and the numbers of lines at one,
so that the four lines before a line and the five behind it are those from five places before its
number to five places behind it, cut to the file.
-/

namespace VoiceDebugger

open VoiceDebugger.Action

/-! ### Checking the file -/

/-- What checking a file comes to in a session. -/
def Session.report (s : Session) (path : String) : LintReport :=
  if pathExists s.root path then
    .checked (.str path)
      (styleFindings (s.replyOf "pylint") ++ typingFindings (s.replyOf "mypy") ++
        syntaxFindings (readBytes s.root path))
  else .missingFile (.str path)

/-- The commands that check a file in a session. -/
def Session.checks (s : Session) (path : String) : List Call :=
  if pathExists s.root path then [styleCall path, typingCall path] else []

theorem runIn_lintSource (path : String) (s : Session) :
    (lintSource path).runIn s = (.ok (s.report path), s.noting (s.checks path)) := by
  unfold Session.report Session.checks
  by_cases present : pathExists s.root path = true
  · rw [runIn_lintSource_present path s present, if_pos present, if_pos present]
  · rw [runIn_lintSource_absent path s (Bool.not_eq_true _ ▸ present), if_neg present,
      if_neg present, Session.noting, List.append_nil]

theorem errors_toJson (report : LintReport) :
    report.toJson.get? "errors" = some (.arr report.errors) := by
  cases report <;> rfl

/-! ### Asking -/

/-- The question about a fault of a file, if it can be put. -/
def fixQuestion (root : Folder) (file : String) (fault : Json) : Except Failure ChatRequest := do
  let content ← (readBytes root file).mapError Failure.file
  let text ← (textOf content).mapError Failure.undecodable
  let place ← (fault.getOr "line" (.int 1)).mapError Failure.loose
  let code ← (linesAround (linesOf text) place).mapError Failure.loose
  let message ← (fault.getOr "message" (.str "Unknown error")).mapError Failure.loose
  return { messages := [⟨"system", fixRole⟩, ⟨"user", fixPrompt file place message code.flatten⟩] }

/-- The value that the next reply of a chat model stands for. -/
def chatValue : Option ChatReply → Except Failure Json
  | some (.content text) => replyValue text
  | some .noChoice => .error (.loose .indexRange)
  | some (.broken m) => .error (.broken m)
  | none => .error (unanswered "llm")

/-- A session in which a chat model has been asked. -/
def Session.asking (s : Session) (q : ChatRequest) : Session :=
  { s with calls := s.calls ++ [.chat q], chats := s.chats.tail }

/-- Outcomes that follow from each other can be taken one by one. -/
theorem ofOutcome_bind {α β γ : Type} (e : Except Failure α) (g : α → Except Failure β)
    (next : β → Action γ) :
    ofOutcome (e >>= g) >>= next = ofOutcome e >>= fun x => ofOutcome (g x) >>= next := by
  cases e <;> rfl

theorem runIn_ofOutcome_bind {α β : Type} (e : Except Failure α) (next : α → Action β)
    (s : Session) :
    (ofOutcome e >>= next).runIn s =
      match e with
      | .error f => (.error f, s)
      | .ok x => (next x).runIn s := by
  rw [runIn_bind, runIn_ofOutcome]
  cases e <;> rfl

theorem runIn_readText_bind {α : Type} (path : String) (next : List Char → Action α)
    (s : Session) :
    (readText path >>= next).runIn s =
      (ofOutcome ((readBytes s.root path).mapError Failure.file) >>= fun content =>
        ofOutcome ((textOf content).mapError Failure.undecodable) >>= next).runIn s := by
  have read : (readFile path).runIn s = ((readBytes s.root path).mapError Failure.file, s) := by
    rw [readFile, runIn_bind_ok (runIn_get _), runIn_ofOutcome]
  rw [readText, runIn_bind, runIn_bind, read, runIn_ofOutcome_bind]
  cases (readBytes s.root path).mapError Failure.file with
  | error f => rfl
  | ok content => exact (runIn_bind _ _ _).symm

theorem runIn_chat_value (q : ChatRequest) (s : Session) :
    (chat q >>= fun reply => ofOutcome (replyValue reply)).runIn s =
      (chatValue s.chats.head?, s.asking q) := by
  rw [runIn_bind, runIn_chat]
  cases s.chats.head? with
  | none => rfl
  | some reply =>
    cases reply with
    | content text => exact runIn_ofOutcome _ _
    | noChoice => rfl
    | broken m => rfl

/-- Nothing is asked before the question can be put, and then its answer is read. -/
theorem runIn_askForFix (file : String) (fault : Json) (s : Session) :
    (askForFix file fault).runIn s =
      match fixQuestion s.root file fault with
      | .error f => (.error f, s)
      | .ok q => (chatValue s.chats.head?, s.asking q) := by
  have question : ∀ next : ChatRequest → Action Json,
      (ofOutcome (fixQuestion s.root file fault) >>= next).runIn s =
        (readText file >>= fun text => do
          let place ← ofLoose (fault.getOr "line" (.int 1))
          let code ← ofLoose (linesAround (linesOf text) place)
          let message ← ofLoose (fault.getOr "message" (.str "Unknown error"))
          next { messages := [⟨"system", fixRole⟩,
            ⟨"user", fixPrompt file place message code.flatten⟩] }).runIn s := by
    intro next
    rw [runIn_readText_bind]
    simp only [fixQuestion, ofOutcome_bind]
    rfl
  have asked : (askForFix file fault).runIn s =
      (ofOutcome (fixQuestion s.root file fault) >>= fun q =>
        chat q >>= fun reply => ofOutcome (replyValue reply)).runIn s := by
    rw [question]
    rfl
  rw [asked, runIn_ofOutcome_bind]
  cases fixQuestion s.root file fault with
  | error f => rfl
  | ok q => exact runIn_chat_value q s

/-- What is proposed by the outcome of asking. -/
def proposedFor : Except Failure Json → Json
  | .ok v => v
  | .error f => failedProposal f

/-- A proposal comes in one of three ways: without a key, without a question, or by asking once. -/
theorem runIn_generateFix (file : String) (fault : Json) (s : Session) :
    (generateFix file fault).runIn s =
      if s.hasKey then
        match fixQuestion s.root file fault with
        | .error f => (.ok (failedProposal f), s)
        | .ok q => (.ok (proposedFor (chatValue s.chats.head?)), s.asking q)
      else (.ok keylessProposal, s) := by
  have asked : (hasKey : Action Bool).runIn s = (.ok s.hasKey, s) := rfl
  rw [generateFix, runIn_bind_ok asked]
  cases s.hasKey with
  | false => rfl
  | true =>
    rw [if_pos rfl, if_pos rfl, runIn_bind_ok (runIn_attempt _ _), runIn_askForFix]
    cases fixQuestion s.root file fault with
    | error f => rfl
    | ok q =>
      dsimp only
      cases chatValue s.chats.head? <;> rfl

/-! ### Answering a request -/

theorem runIn_guarded_ok {a : Action Json} {v : Json} {s t : Session} (ran : a.runIn s = (.ok v, t)) :
    (guarded a).runIn s = (.ok v, t) := by
  rw [guarded, runIn_bind_ok (runIn_attempt _ _), ran]
  rfl

/-- A request that is accepted gets a proposal for the first error of its file. -/
theorem runIn_answer_fix {body : Json} {r : FixRequest} (accepted : FixRequest.ofJson body = .ok r)
    (arguments : List (CodeText × Json)) (s : Session) :
    (Endpoint.fix.answer body arguments).runIn s =
      match (s.report r.file.shown).errors with
      | [] => (.ok nothingToFix, s.noting (s.checks r.file.shown))
      | fault :: _ =>
        (generateFix r.file.shown fault).runIn (s.noting (s.checks r.file.shown)) := by
  have reported := runIn_lintSource r.file.shown s
  rw [← findErrors_text] at reported
  have proposes : ∀ fault t, ∃ v u, (generateFix r.file.shown fault).runIn t = (.ok v, u) := by
    intro fault t
    rw [runIn_generateFix]
    split
    · split
      · exact ⟨_, _, rfl⟩
      · exact ⟨_, _, rfl⟩
    · exact ⟨_, _, rfl⟩
  change (Endpoint.withBody FixRequest.ofJson body answerFix).runIn s = _
  rw [Endpoint.withBody, accepted, runIn_bind_ok (runIn_ofOutcome _ _)]
  have answered : (answerFix r).runIn s =
      match (s.report r.file.shown).errors with
      | [] => (.ok nothingToFix, s.noting (s.checks r.file.shown))
      | fault :: _ =>
        (generateFix r.file.shown fault).runIn (s.noting (s.checks r.file.shown)) := by
    rw [answerFix, runIn_bind_ok reported]
    cases (s.report r.file.shown).errors with
    | nil => rfl
    | cons fault more => rfl
  rw [← answered]
  cases errors : (s.report r.file.shown).errors with
  | nil =>
    rw [errors] at answered
    rw [runIn_guarded_ok answered, answered]
  | cons fault more =>
    rw [errors] at answered
    obtain ⟨v, u, ran⟩ := proposes fault (s.noting (s.checks r.file.shown))
    have whole := answered.trans ran
    rw [runIn_guarded_ok whole, whole]

/-- Where there is a key and the question can be put, it is asked once. -/
theorem runIn_answer_asked {body : Json} {r : FixRequest}
    (accepted : FixRequest.ofJson body = .ok r) (arguments : List (CodeText × Json)) {s : Session}
    (keyed : s.hasKey = true) {fault : Json}
    {rest : List Json} (errors : (s.report r.file.shown).errors = fault :: rest) {q : ChatRequest}
    (question : fixQuestion s.root r.file.shown fault = .ok q) :
    (Endpoint.fix.answer body arguments).runIn s =
      (.ok (proposedFor (chatValue s.chats.head?)),
        (s.noting (s.checks r.file.shown)).asking q) := by
  have key : (s.noting (s.checks r.file.shown)).hasKey = true := keyed
  have put : fixQuestion (s.noting (s.checks r.file.shown)).root r.file.shown fault = .ok q :=
    question
  rw [runIn_answer_fix accepted, errors]
  dsimp only
  rw [runIn_generateFix, if_pos key, put]
  rfl

/-! ### The lines that are shown -/

/-- The first line begins with the first character. -/
theorem CutInLines.exists_cons {c : Char} {text : List Char} {lines : List (List Char)}
    (cut : CutInLines (c :: text) lines) :
    ∃ line more, lines = (c :: line) :: more ∧ line ++ more.flatten = text ∧ [] ∉ more := by
  have whole := cut.whole
  have filled := cut.filled
  cases lines with
  | nil => cases whole
  | cons line more =>
    simp only [List.mem_cons, not_or] at filled
    cases line with
    | nil => exact absurd rfl filled.1
    | cons d line =>
      rw [List.flatten_cons, List.cons_append] at whole
      obtain ⟨rfl, left⟩ := List.cons.inj whole
      exact ⟨line, more, rfl, left, filled.2⟩

/-- A line feed at the front is a line of its own. -/
theorem CutInLines.of_newline {text : List Char} {lines : List (List Char)}
    (cut : CutInLines ('\n' :: text) lines) :
    ∃ more, lines = ['\n'] :: more ∧ CutInLines text more := by
  obtain ⟨line, more, rfl, left, filled⟩ := cut.exists_cons
  have alone : line = [] := by
    have first := cut.single _ List.mem_cons_self
    cases line with
    | nil => rfl
    | cons d line =>
      rw [List.dropLast_cons_cons] at first
      exact absurd List.mem_cons_self first
  subst alone
  refine ⟨more, rfl, left, filled, fun l member => cut.single l (List.mem_cons_of_mem _ member), ?_⟩
  intro l member
  cases more with
  | nil => cases member
  | cons second more => exact cut.ended l (List.mem_cons_of_mem _ member)

/-- Any other character at the front belongs to the first line of the rest. -/
theorem CutInLines.of_char {c : Char} {text : List Char} {lines : List (List Char)}
    (cut : CutInLines (c :: text) lines) (inside : c ≠ '\n') :
    ∃ rest, lines = (c :: rest.headD []) :: rest.tail ∧ CutInLines text rest := by
  obtain ⟨line, more, rfl, left, filled⟩ := cut.exists_cons
  cases line with
  | nil =>
    -- A line that is not ended is the last one.
    have last : more = [] := by
      cases more with
      | nil => rfl
      | cons second more =>
        have broken := cut.ended [c] List.mem_cons_self
        exact absurd (Option.some.inj broken) inside
    subst last
    obtain rfl : [] = text := left
    exact ⟨[], rfl, cutInLines_linesOf []⟩
  | cons d line =>
    have single := cut.single
    have ended := cut.ended
    refine ⟨(d :: line) :: more, rfl, left, by simpa using filled, ?_, ?_⟩
    · intro l member
      rcases List.mem_cons.mp member with rfl | member
      · have first := single _ List.mem_cons_self
        rw [List.dropLast_cons_cons, List.mem_cons, not_or] at first
        exact first.2
      · exact single l (List.mem_cons_of_mem _ member)
    · intro l member
      cases more with
      | nil => cases member
      | cons second more =>
        rcases List.mem_cons.mp member with rfl | member
        · have first := ended _ List.mem_cons_self
          rwa [List.getLast?_cons_cons] at first
        · exact ended l (List.mem_cons_of_mem _ member)

/-- There is only one way to cut a text into lines. -/
theorem CutInLines.eq_linesOf {text : List Char} {lines : List (List Char)}
    (cut : CutInLines text lines) : lines = linesOf text := by
  induction text generalizing lines with
  | nil =>
    cases lines with
    | nil => rfl
    | cons line more =>
      have whole := cut.whole
      rw [List.flatten_cons, List.append_eq_nil_iff] at whole
      exact absurd (whole.1 ▸ List.mem_cons_self) cut.filled
  | cons c text ih =>
    by_cases newline : c = '\n'
    · subst newline
      obtain ⟨more, rfl, rest⟩ := cut.of_newline
      rw [linesOf_newline, ih rest]
    · obtain ⟨rest, rfl, remains⟩ := cut.of_char newline
      rw [linesOf_char c text newline, ih remains]

/-- A part of the lines, by the numbers of its lines. -/
theorem map_numbered {α : Type} (lines : List α) {start stop : Nat} (inside : stop ≤ lines.length) :
    ((lines.take stop).drop start).map some =
      (List.range' (start + 1) (stop - start)).map fun i => lines[i - 1]? := by
  apply List.ext_getElem
  · simp only [List.length_map, List.length_drop, List.length_take, List.length_range']
    omega
  · intro j before _
    simp only [List.length_map, List.length_drop, List.length_take] at before
    have there : start + j < lines.length := by omega
    have number : start + 1 + 1 * j - 1 = start + j := by omega
    simp only [List.getElem_map, List.getElem_drop, List.getElem_take, List.getElem_range', number]
    rw [List.getElem?_eq_getElem there]

/-- Lines of a file from one number to another, both included. -/
def LinesFrom (lines : List (List Char)) (first last : Nat) (shown : List (List Char)) : Prop :=
  shown.map some = (List.range' first (last + 1 - first)).map fun i => lines[i - 1]?

theorem LinesFrom.mem {lines shown : List (List Char)} {first last k : Nat}
    (part : LinesFrom lines first last shown) (low : first ≤ k) (high : k ≤ last) :
    ∀ line, lines[k - 1]? = some line → line ∈ shown := by
  intro line there
  have listed : some line ∈ shown.map some := by
    rw [part, List.mem_map]
    exact ⟨k, List.mem_range'_1.mpr ⟨low, by omega⟩, there⟩
  simpa using listed

theorem linesAround_integer {lines : List (List Char)} {place : Json} {k : Nat}
    (number : place.integer? = some (k : Int)) (low : 1 ≤ k) (high : k ≤ lines.length) :
    ∃ shown, linesAround lines place = .ok shown ∧
      LinesFrom lines (max 1 (k - 4)) (min lines.length (k + 5)) shown := by
  have start : (max 0 ((k : Int) - fixMargin)).toNat = k - 5 := by
    unfold fixMargin
    omega
  have stop :
      (min (lines.length : Int) ((k : Int) + fixMargin)).toNat = min lines.length (k + 5) := by
    unfold fixMargin
    omega
  have first : max 1 (k - 4) = k - 5 + 1 := by omega
  have count : min lines.length (k + 5) + 1 - (k - 5 + 1) = min lines.length (k + 5) - (k - 5) := by
    omega
  have around :
      linesAround lines place = .ok ((lines.take (min lines.length (k + 5))).drop (k - 5)) := by
    have cut := slice_of_nonneg lines (max 0 ((k : Int) - fixMargin))
      (min (lines.length : Int) ((k : Int) + fixMargin)) (by omega) (by unfold fixMargin; omega)
    rw [start, stop] at cut
    cases place with
    | float x => cases number
    | _ => simp only [linesAround, number, cut]
  refine ⟨_, around, ?_⟩
  rw [LinesFrom, first, count]
  exact map_numbered lines (Nat.min_le_left _ _)

/-! ### The prompt -/

/-- A question up to the code. -/
def promptHead (file : String) (place message : Json) : String :=
  "\n".intercalate [
    "Fix this Python code error:",
    "",
    s!"File: {file}",
    s!"Line {place.display}: {message.display}",
    "",
    "Code context:",
    "```python",
    ""]

/-- A question behind the code. -/
def promptTail : String :=
  "\n".intercalate [
    "",
    "```",
    "",
    "Provide:",
    "1. A unified diff showing the fix",
    "2. Brief explanation of what was wrong",
    "3. Risk level (low/medium/high)",
    "",
    "Output as JSON:",
    "\x7b",
    "  \"diff\": \"unified diff format\",",
    "  \"rationale\": \"explanation\",",
    "  \"risk_level\": \"low|medium|high\"",
    "\x7d",
    ""]

theorem fixPrompt_eq (file : String) (place message : Json) (code : List Char) :
    fixPrompt file place message code =
      promptHead file place message ++ String.ofList code ++ promptTail := by
  simp only [fixPrompt, promptHead, promptTail, String.intercalate_cons_cons,
    String.intercalate_singleton, String.append_assoc, String.empty_append]

theorem pathExists_of_readBytes {root : Folder} {path : String} {content : List UInt8}
    (opened : readBytes root path = .ok content) : pathExists root path = true := by
  rw [readBytes] at opened
  rw [pathExists]
  cases resolved : resolve root path with
  | error fault =>
    rw [resolved] at opened
    cases opened
  | ok e => rfl

/-- The question about a fault with a number for its line, in a file that can be read. -/
theorem fixQuestion_integer {root : Folder} {file : String} {content : List UInt8} {source : String}
    (opened : readBytes root file = .ok content) (decoded : Text.decode content = .ok source)
    {fault place : Json} (placed : fault.get? "line" = some place) {k : Nat}
    (number : place.integer? = some (k : Int)) (low : 1 ≤ k)
    (high : k ≤ (linesOf (Text.unifyNewlines source.toList)).length) :
    ∃ q shown,
      fixQuestion root file fault = .ok q ∧
      q.messages = [⟨"system", fixRole⟩,
        ⟨"user", promptHead file place ((fault.get? "message").getD (.str "Unknown error")) ++
          String.ofList shown.flatten ++ promptTail⟩] ∧
      LinesFrom (linesOf (Text.unifyNewlines source.toList)) (max 1 (k - 4))
        (min (linesOf (Text.unifyNewlines source.toList)).length (k + 5)) shown := by
  obtain ⟨shown, around, part⟩ := linesAround_integer number low high
  have text : textOf content = .ok (Text.unifyNewlines source.toList) := by
    rw [textOf, decoded]
    rfl
  cases fault with
  | obj fields =>
    have line : (Json.obj fields).getOr "line" (.int 1) = .ok place := by
      rw [Json.get?] at placed
      rw [Json.getOr, placed]
      rfl
    have message : (Json.obj fields).getOr "message" (.str "Unknown error") =
        .ok (((Json.obj fields).get? "message").getD (.str "Unknown error")) := rfl
    have question : fixQuestion root file (.obj fields) = .ok {
        messages := [⟨"system", fixRole⟩, ⟨"user", fixPrompt file place
          (((Json.obj fields).get? "message").getD (.str "Unknown error")) shown.flatten⟩] } := by
      rw [fixQuestion, opened, message, line]
      simp only [Except.mapError, bind, Except.bind, text, around, pure, Except.pure]
    rw [fixPrompt_eq] at question
    exact ⟨_, shown, question, rfl, part⟩
  | _ => cases placed

/-- Where the first error of a file tells one of its lines, a chat model is asked once, whatever it
replies, and an answer comes back. It is shown just the lines from the fourth before that line to
the fifth behind it, as far as there are any, so that line is among them. -/
theorem question_shows_line {body : Json} {r : FixRequest}
    (accepted : FixRequest.ofJson body = .ok r) (arguments : List (CodeText × Json)) (s : Session)
    (keyed : s.hasKey = true)
    {content : List UInt8} {source : String} (opened : readBytes s.root r.file.shown = .ok content)
    (decoded : Text.decode content = .ok source) {lines : List (List Char)}
    (cut : CutInLines (Text.unifyNewlines source.toList) lines) {report : LintReport} {u : Session}
    (checked : (findErrors (.str r.file) (.str "python")).runIn s = (.ok report, u))
    {first place : Json} {rest : List Json}
    (found : report.toJson.get? "errors" = some (.arr (first :: rest)))
    (placed : first.get? "line" = some place) {k : Nat} (number : place.integer? = some (k : Int))
    (low : 1 ≤ k) (high : k ≤ lines.length) :
    ∃ v t q shown,
      (Endpoint.fix.answer body arguments).runIn s = (.ok v, t) ∧
      t.calls = s.calls ++ [styleCall r.file.shown, typingCall r.file.shown, .chat q] ∧
      q.messages = [⟨"system", fixRole⟩,
        ⟨"user", promptHead r.file.shown place
            ((first.get? "message").getD (.str "Unknown error")) ++
          String.ofList shown.flatten ++ promptTail⟩] ∧
      LinesFrom lines (max 1 (k - 4)) (min lines.length (k + 5)) shown ∧
      ∃ line, lines[k - 1]? = some line ∧ line <:+: shown.flatten := by
  obtain rfl := cut.eq_linesOf
  obtain ⟨q, shown, question, messages, part⟩ :=
    fixQuestion_integer opened decoded placed number low high
  have errors : (s.report r.file.shown).errors = first :: rest := by
    rw [findErrors_text, runIn_lintSource] at checked
    obtain ⟨same, -⟩ := Prod.mk.inj checked
    rw [errors_toJson, ← Except.ok.inj same] at found
    exact Json.arr.inj (Option.some.inj found)
  have checks : s.checks r.file.shown = [styleCall r.file.shown, typingCall r.file.shown] := by
    rw [Session.checks, if_pos (pathExists_of_readBytes opened)]
  have answered := runIn_answer_asked accepted arguments keyed errors question
  rw [checks] at answered
  have shownLine : ∃ line, (linesOf (Text.unifyNewlines source.toList))[k - 1]? = some line ∧
      line <:+: shown.flatten := by
    have there : k - 1 < (linesOf (Text.unifyNewlines source.toList)).length := by omega
    have line := List.getElem?_eq_getElem there
    have listed := part.mem (by omega) (by omega) _ line
    exact ⟨_, line, List.infix_of_mem_flatten listed⟩
  refine ⟨_, _, q, shown, answered, ?_, messages, part, shownLine⟩
  change (s.calls ++ [styleCall r.file.shown, typingCall r.file.shown]) ++ [.chat q] = _
  rw [List.append_assoc]
  rfl

/-- An error in the second line of a file. -/
def secondLine : Diagnostic where
  path := "b.py"
  line := 2
  column := 1
  severity := .error
  message := "m"
  source := by decide
  uncut := by decide
  readable := by decide
  oneLine := by decide

/-- A session with a file of two lines, an error in the second one, and no reply of a chat model. -/
def unansweredSession : Session where
  root := [("b.py", .file [97, 13, 10, 98])]
  clock := { year := 2024, month := 1, day := 2 }
  apiKey := some "k"
  tools := [("mypy", .done (Diagnostic.printed [secondLine]) "" 1)]

/-- A request to mend a file. -/
def fixBody (file : String) : Json :=
  .obj [("file", .str file), ("goal", .str "")]

theorem errors_unansweredSession :
    ∃ rest, (unansweredSession.report "b.py").errors = secondLine.item :: rest := by
  have present : pathExists unansweredSession.root "b.py" = true := by decide
  have kept : [secondLine].filter Diagnostic.IsError = [secondLine] := by
    rw [List.filter_cons_of_pos (by decide), List.filter_nil]
  have types : typingFindings (unansweredSession.replyOf "mypy") = Diagnostic.findings [secondLine] :=
    Diagnostic.typingFindings_printed [secondLine] "" 1
  rw [Session.report, if_pos present, types, Diagnostic.findings, kept]
  exact ⟨_, rfl⟩

theorem question_shows_line_unansweredSession :
    FixRequest.ofJson (fixBody "b.py") = .ok ⟨"b.py", none, ""⟩ ∧
    unansweredSession.hasKey = true ∧
    readBytes unansweredSession.root "b.py" = .ok [97, 13, 10, 98] ∧
    Text.decode [97, 13, 10, 98] = .ok "a\r\nb" ∧
    CutInLines (Text.unifyNewlines "a\r\nb".toList) [['a', '\n'], ['b']] ∧
    secondLine.item.get? "line" = some (.int 2) ∧
    ∃ report u rest,
      (findErrors (.str "b.py") (.str "python")).runIn unansweredSession = (.ok report, u) ∧
      report.toJson.get? "errors" = some (.arr (secondLine.item :: rest)) ∧
      ∃ v t q shown,
        (Endpoint.fix.answer (fixBody "b.py") []).runIn unansweredSession = (.ok v, t) ∧
        t.calls = [styleCall "b.py", typingCall "b.py", .chat q] ∧
        q.messages = [⟨"system", fixRole⟩,
          ⟨"user", promptHead "b.py" (.int 2) (.str "error: m") ++ String.ofList shown.flatten ++
            promptTail⟩] ∧
        LinesFrom [['a', '\n'], ['b']] 1 2 shown ∧
        ∃ line, [['a', '\n'], ['b']][1]? = some line ∧ line <:+: shown.flatten := by
  have accepted : FixRequest.ofJson (fixBody "b.py") = .ok ⟨"b.py", none, ""⟩ := rfl
  have opened : readBytes unansweredSession.root "b.py" = .ok [97, 13, 10, 98] := rfl
  have decoded : Text.decode [97, 13, 10, 98] = .ok "a\r\nb" := rfl
  have cut : CutInLines (Text.unifyNewlines "a\r\nb".toList) [['a', '\n'], ['b']] :=
    cutInLines_linesOf _
  obtain ⟨rest, errors⟩ := errors_unansweredSession
  have checked := runIn_lintSource "b.py" unansweredSession
  rw [← findErrors_python] at checked
  have found := errors_toJson (unansweredSession.report "b.py")
  rw [errors] at found
  exact ⟨accepted, rfl, opened, decoded, cut, rfl, _, _, rest, checked, found,
    question_shows_line accepted [] unansweredSession rfl opened decoded cut checked found rfl rfl
      (k := 2) (by decide) (by decide)⟩

end VoiceDebugger
