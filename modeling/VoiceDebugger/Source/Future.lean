import VoiceDebugger.Source.Flow

/-!
Imports of future features. They come first in a module, behind its documentation at most.
-/

namespace VoiceDebugger.Source

/-- What a module asks for: the line of the last import, or minus one, and whether annotations are
kept as text. -/
structure Future where
  line : Int
  lateAnnotations : Bool

/-- The features that are always on. -/
def pastFeatures : List String :=
  ["nested_scopes", "generators", "division", "absolute_import", "with_statement", "print_function",
    "unicode_literals", "barry_as_FLUFL", "generator_stop"]

/-- The text of a statement that is nothing but a string. -/
def Stmt.bareText? (s : Stmt) : Option String :=
  match s.form with
  | .expression ⟨_, .constant (.str text)⟩ => some text
  | _ => none

/-- The documentation that a block begins with. -/
def docText? (body : List Stmt) : Option String :=
  body.head?.bind Stmt.bareText?

def Future.enable (span : Span) : List Alias → Future → Except Fault Future
  | [], f => .ok f
  | a :: rest, f =>
    if a.name == "annotations" then enable span rest { f with lateAnnotations := true }
    else if pastFeatures.contains a.name then enable span rest f
    else if a.name == "braces" then .error (span.fault "not a chance")
    else
      let shown := String.ofList (a.name.toList.take 100)
      .error (span.fault s!"future feature {shown} is not defined")

/-- Look for imports of features. Once something else has come (`done` is its line), only the rest
of that line is looked at. -/
def Future.find (done : Option Nat) : List Stmt → Future → Except Fault Future
  | [], f => .ok f
  | ⟨span, form⟩ :: rest, f =>
    if done.any (span.line > ·) then .ok f
    else
      match form with
      | .importsFrom (some module_) names _ =>
        if module_ == futureModule then
          if done.isSome then
            .error { place := .exact span.line span.column, message := lateFuture }
          else do
            let f ← f.enable span names
            find done rest { f with line := span.line }
        else find (some span.line) rest f
      | _ => find (some span.line) rest f

def Future.ofModule (body : List Stmt) : Except Fault Future :=
  let rest := if (docText? body).isSome then body.drop 1 else body
  Future.find none rest ⟨-1, false⟩

end VoiceDebugger.Source
