import VoiceDebugger.Lint
import VoiceDebugger.Proofs.Session.Run
import VoiceDebugger.Proofs.Text.Code

/-!
What checking a file comes to.

Each check is said apart from the others: what it finds is a function of the reply of its checker,
or of what the file holds. A run of all checks puts these together, notes the commands and changes
nothing else.
-/

namespace VoiceDebugger

open VoiceDebugger.Action

/-- The reply that a session has for a tool. -/
def Session.replyOf (s : Session) (tool : String) : ToolReply :=
  (toolReply? tool s.tools).getD .missing

/-- A session with further calls noted. -/
def Session.noting (s : Session) (calls : List Call) : Session :=
  { s with calls := s.calls ++ calls }

theorem Session.noting_noting (s : Session) (first second : List Call) :
    (s.noting first).noting second = s.noting (first ++ second) := by
  rw [noting, noting, noting, List.append_assoc]

theorem runIn_runTool (tool : String) (arguments : List Json) (timeout : Json) (s : Session) :
    (runTool tool arguments timeout).runIn s =
      (.ok (outcomeOf (s.replyOf tool)), s.noting [.tool (.str tool :: arguments) timeout]) := rfl

/-! ### Single checks -/

/-- What the style checker finds, by its reply. -/
def styleFindings : ToolReply → Findings
  | .done output _ _ => (readStyleReport output).close "Pylint" "pylint"
  | .timeout => .warning (.remark "Pylint timed out" "pylint")
  | .missing => .warning (.remark "Pylint not installed. Install with: pip install pylint" "system")
  | .broken m => .warning (.remark s!"Pylint error: {m}" "pylint")

/-- What the type checker finds, by its reply. -/
def typingFindings : ToolReply → Findings
  | .done output _ _ => (readTypingReport output).close "Mypy" "mypy"
  | .timeout => .warning (.remark "Mypy timed out" "mypy")
  | .missing => {}
  | .broken m => .warning (.remark s!"Mypy error: {m}" "mypy")

/-- What reading a file as a module finds, by what opening it brings. -/
def syntaxFindings : Except FileFault (List UInt8) → Findings
  | .error fault => .error (.unreadable fault.message)
  | .ok content =>
    match textOf content with
    | .error fault => .error (.unreadable fault.message)
    | .ok text => moduleFindings text

/-- The command of the style checker. -/
def styleCall (path : String) : Call :=
  .tool [.str "pylint", .str path, .str "--output-format=json"] checkerTimeout

/-- The command of the type checker. -/
def typingCall (path : String) : Call :=
  .tool [.str "mypy", .str path, .str "--show-column-numbers", .str "--no-error-summary"]
    checkerTimeout

/-- The command of the checker of scripts. -/
def scriptCall (file : Json) : Call :=
  .tool [.str "eslint", file, .str "--format=json"] checkerTimeout

theorem runIn_checkStyle (path : String) (s : Session) :
    (checkStyle (.str path)).runIn s =
      (.ok (styleFindings (s.replyOf "pylint")), s.noting [styleCall path]) := by
  rw [checkStyle, runIn_bind_ok (runIn_runTool _ _ _ _)]
  cases s.replyOf "pylint" <;> rfl

theorem runIn_checkTypes (path : String) (s : Session) :
    (checkTypes (.str path)).runIn s =
      (.ok (typingFindings (s.replyOf "mypy")), s.noting [typingCall path]) := by
  rw [checkTypes, runIn_bind_ok (runIn_runTool _ _ _ _)]
  cases s.replyOf "mypy" <;> rfl

theorem runIn_checkSyntax (path : String) (s : Session) :
    (checkSyntax path).runIn s = (.ok (syntaxFindings (readBytes s.root path)), s) := by
  rw [checkSyntax, runIn_bind_ok (runIn_attempt _ _), readText, readFile]
  cases opened : readBytes s.root path with
  | error fault =>
    rw [runIn_bind_error (t := s) (e := .file fault)]
    · rfl
    · rw [runIn_bind_ok (runIn_get _), opened]
      rfl
  | ok content =>
    rw [runIn_bind_ok (t := s) (x := content)]
    · rw [runIn_ofOutcome, syntaxFindings]
      cases textOf content <;> rfl
    · rw [runIn_bind_ok (runIn_get _), opened]
      rfl

/-! ### Files -/

theorem findErrors_text (path : CodeText) :
    findErrors (.str path) (.str "python") = lintSource path.shown := by
  have python : (Json.str "python").same (.str "python") = true := by decide
  rw [findErrors, if_pos python, lintLoose]

theorem findErrors_python (path : String) :
    findErrors (.str path) (.str "python") = lintSource path := by
  rw [findErrors_text, CodeText.shown_ofString]

/-- A file of source that is there goes through three checks. -/
theorem runIn_lintSource_present (path : String) (s : Session)
    (present : pathExists s.root path = true) :
    (lintSource path).runIn s =
      (.ok (.checked (.str path)
        (styleFindings (s.replyOf "pylint") ++ typingFindings (s.replyOf "mypy") ++
          syntaxFindings (readBytes s.root path))),
        s.noting [styleCall path, typingCall path]) := by
  have asked : (exists? path).runIn s = (.ok true, s) := by
    rw [← present]
    rfl
  rw [lintSource, runIn_bind_ok asked]
  simp only [↓reduceIte]
  rw [runIn_bind_ok (runIn_checkStyle path s), runIn_bind_ok (runIn_checkTypes path _),
    runIn_bind_ok (runIn_checkSyntax path _), s.noting_noting]
  rfl

theorem runIn_lintSource_absent (path : String) (s : Session)
    (absent : pathExists s.root path = false) :
    (lintSource path).runIn s = (.ok (.missingFile (.str path)), s) := by
  have asked : (exists? path).runIn s = (.ok false, s) := by
    rw [← absent]
    rfl
  rw [lintSource, runIn_bind_ok asked]
  rfl

theorem runIn_lintScript (file : Json) (s : Session) :
    ((lintScript file).runIn s).2 = s.noting [scriptCall file] := by
  rw [lintScript, runIn_bind_ok (runIn_runTool _ _ _ _)]
  cases s.replyOf "eslint" <;> rfl

end VoiceDebugger
