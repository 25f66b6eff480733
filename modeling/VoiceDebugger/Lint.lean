import VoiceDebugger.Lint.Reports
import VoiceDebugger.Session.Action
import VoiceDebugger.Source.Module

/-!
Checking a file with the checkers that are installed, and by reading it.
-/

namespace VoiceDebugger

open VoiceDebugger.Action

/-- How long a checker may take, in seconds. -/
def checkerTimeout : Json := .int 30

def checkStyle (file : Json) : Action Findings := do
  match ← runTool "pylint" [file, .str "--output-format=json"] checkerTimeout with
  | .done run => return (readStyleReport run.output).close "Pylint" "pylint"
  | .timeout => return .warning (.remark "Pylint timed out" "pylint")
  | .missing =>
    return .warning (.remark "Pylint not installed. Install with: pip install pylint" "system")
  | .broken m => return .warning (.remark s!"Pylint error: {m}" "pylint")

/-- Run the type checker; nothing is said where it is missing. -/
def checkTypes (file : Json) : Action Findings := do
  let options := [Json.str "--show-column-numbers", .str "--no-error-summary"]
  match ← runTool "mypy" (file :: options) checkerTimeout with
  | .done run => return (readTypingReport run.output).close "Mypy" "mypy"
  | .timeout => return .warning (.remark "Mypy timed out" "mypy")
  | .missing => return {}
  | .broken m => return .warning (.remark s!"Mypy error: {m}" "mypy")

def moduleFindings (text : List Char) : Findings :=
  match Source.compile text with
  | .ok _ => {}
  | .error .nullCharacter =>
    .error (.unreadable "source code string cannot contain null bytes")
  | .error (.syntaxFault r) => .error (.malformed r.line r.column r.message)

/-- Read a file as a module. -/
def checkSyntax (path : String) : Action Findings := do
  match ← attempt (readText path) with
  | .ok text => return moduleFindings text
  | .error f => return .error (.unreadable f.message)

/-- Check a file of Python source. -/
def lintSource (path : String) : Action LintReport := do
  if ← exists? path then
    let style ← checkStyle (.str path)
    let types ← checkTypes (.str path)
    let faults ← checkSyntax path
    return .checked (.str path) (style ++ types ++ faults)
  else return .missingFile (.str path)

def lintScript (file : Json) : Action LintReport := do
  let found ← match ← runTool "eslint" [file, .str "--format=json"] checkerTimeout with
    | .done run => pure ((readScriptReport run.output).close "ESLint" "eslint")
    | .timeout =>
      let command := (Json.arr [.str "eslint", file, .str "--format=json"]).display
      let limit := checkerTimeout.display
      pure (Findings.warning
        (.remark s!"ESLint error: Command '{command}' timed out after {limit} seconds" "eslint"))
    | .missing => pure (.warning (.remark "ESLint not installed" "system"))
    | .broken m => pure (.warning (.remark s!"ESLint error: {m}" "eslint"))
  return .checked file found

/-- The largest number that can stand for an open file. -/
def maxHandle : Int := 2147483647

/-- Check something that should be the path of a file of Python source. A number is taken for an
open file, and none is open. -/
def lintLoose (file : Json) : Action LintReport :=
  match file with
  | .str path => lintSource path.shown
  | _ =>
    match file.integer? with
    | some n =>
      if n > maxHandle then fail (.loose (.other "fd is greater than maximum"))
      else if n < -maxHandle - 1 then fail (.loose (.other "fd is less than minimum"))
      else return .missingFile file
    | none => fail (.loose (.badPath file.kindName))

def findErrors (file language : Json) : Action LintReport :=
  if language.same (.str "python") then lintLoose file
  else if language.same (.str "javascript") || language.same (.str "typescript") then
    lintScript file
  else return .unsupported language

end VoiceDebugger
