import VoiceDebugger.Json.Loose

/-!
What checks find in a file.
-/

namespace VoiceDebugger

/-- One finding. The reports of the style checkers are taken over as they are. -/
inductive Finding where
  /-- Of the style checker for Python source. -/
  | style (line column message kind symbol : Json)
  /-- Of the type checker. -/
  | typing (line column : Int) (message : String)
  /-- Of the style checker for scripts. -/
  | script (line column message rule : Json)
  /-- A fault of the syntax. -/
  | malformed (line column : Int) (message : String)
  /-- A file that cannot be read as source. -/
  | unreadable (message : String)
  /-- A remark on a checker itself. -/
  | remark (message source : String)
  deriving Repr

def Finding.toJson : Finding → Json
  | .style line column message kind symbol =>
    .obj [("line", line), ("column", column), ("message", message), ("type", kind),
      ("symbol", symbol), ("source", .str "pylint")]
  | .typing line column message =>
    .obj [("line", .int line), ("column", .int column), ("message", .str message),
      ("type", .str "type-error"), ("source", .str "mypy")]
  | .script line column message rule =>
    .obj [("line", line), ("column", column), ("message", message), ("rule", rule),
      ("source", .str "eslint")]
  | .malformed line column message =>
    .obj [("line", .int line), ("column", .int column),
      ("message", .str s!"Syntax error: {message}"), ("type", .str "syntax-error"),
      ("source", .str "python")]
  | .unreadable message =>
    .obj [("line", .int 0), ("column", .int 0), ("message", .str s!"Parse error: {message}"),
      ("type", .str "parse-error"), ("source", .str "python")]
  | .remark message source =>
    .obj [("message", .str message), ("line", .int 0), ("source", .str source)]

/-- Errors and warnings in the order in which they were found. -/
structure Findings where
  errors : List Finding := []
  warnings : List Finding := []
  deriving Repr

namespace Findings

def append (a b : Findings) : Findings :=
  ⟨a.errors ++ b.errors, a.warnings ++ b.warnings⟩

instance : Append Findings := ⟨append⟩

def error (f : Finding) : Findings :=
  ⟨[f], []⟩

def warning (f : Finding) : Findings :=
  ⟨[], [f]⟩

end Findings

/-- The outcome of checking a file. -/
inductive LintReport where
  | checked (file : Json) (findings : Findings)
  | missingFile (file : Json)
  | unsupported (language : Json)
  deriving Repr

namespace LintReport

def errors : LintReport → List Json
  | .checked _ found => found.errors.map Finding.toJson
  | .missingFile file =>
    [.obj [("message", .str s!"File not found: {file.display}"), ("line", .int 0)]]
  | .unsupported _ => []

def warnings : LintReport → List Json
  | .checked _ found => found.warnings.map Finding.toJson
  | .missingFile _ => []
  | .unsupported _ => []

def toJson (r : LintReport) : Json :=
  let lists : List (CodeText × Json) := [("errors", .arr r.errors), ("warnings", .arr r.warnings)]
  let totals : List (CodeText × Json) :=
    [("total_errors", .int r.errors.length), ("total_warnings", .int r.warnings.length)]
  match r with
  | .checked file _ => .obj ((.ofString "file", file) :: lists ++ totals)
  | .missingFile _ => .obj (lists ++ totals)
  | .unsupported language =>
    .obj (lists ++
      [(.ofString "message", .str s!"Linting not supported for {language.display}")])

end LintReport

end VoiceDebugger
