import VoiceDebugger.Source.Column
import VoiceDebugger.Source.Future
import VoiceDebugger.Source.Grammar
import VoiceDebugger.Text.Lines

/-!
Reading a module: its tree, and the faults that keep it from running.
-/

namespace VoiceDebugger.Source

structure Report where
  line : Int
  column : Int
  message : String
  deriving Repr, BEq

/-- Why a text is no module. -/
inductive ModuleFault where
  /-- The text has a null character. -/
  | nullCharacter
  | syntaxFault (report : Report)

def treeOf (text : List Char) : Except ModuleFault (List Stmt) :=
  if text.contains '\x00' then .error .nullCharacter
  else
    match parseModule text with
    | .ok body => .ok body
    | .error f =>
      let (line, column) := f.place.resolve text
      .error (.syntaxFault ⟨line, column, f.message⟩)

/-- The rules behind the grammar: future features, scopes, flow. -/
def checkModule (body : List Stmt) : Except Fault Unit := do
  let future ← Future.ofModule body
  checkScopes future.lateAnnotations body
  checkBlock ⟨.module, {}, future.lateAnnotations, future.line⟩ [] body

def compile (text : List Char) : Except ModuleFault (List Stmt) := do
  let body ← treeOf text
  match checkModule body with
  | .ok _ => return body
  | .error f =>
    let (line, column) := f.place.resolve text
    .error (.syntaxFault ⟨line, column, f.message⟩)

end VoiceDebugger.Source
