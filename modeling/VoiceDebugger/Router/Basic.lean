import VoiceDebugger.Intent.Kind
import VoiceDebugger.Json.Basic

/-!
A router knows for each kind of intents what answers it.
-/

namespace VoiceDebugger

/-- What answers an intent. -/
inductive Handler where
  /-- Look a symbol up. -/
  | symbols
  /-- Check a file. -/
  | errors
  /-- Name what would be explained. -/
  | explanation
  /-- Run the tests. -/
  | tests
  /-- Answer with a fixed value. -/
  | fixed (value : Json)
  /-- Break down. -/
  | failing (message : String)
  /-- Answer with what the intent is about. -/
  | echo
  deriving Repr

/-- Handlers by kind, in the order in which the kinds came. What a handler is, is left open. -/
abbrev HandlerTable (η : Type) := List (IntentKind × η)

namespace HandlerTable

variable {η : Type}

def register (kind : IntentKind) (h : η) : HandlerTable η → HandlerTable η
  | [] => [(kind, h)]
  | (k, old) :: rest => if k == kind then (k, h) :: rest else (k, old) :: register kind h rest

def handler? (kind : IntentKind) : HandlerTable η → Option η
  | [] => none
  | (k, h) :: rest => if k == kind then some h else handler? kind rest

def kinds (r : HandlerTable η) : List IntentKind :=
  r.map (·.1)

end HandlerTable

/-- A table of the handlers that there are. -/
abbrev Router := HandlerTable Handler

namespace Router

def kindOf? : Json → Option IntentKind
  | .str s => IntentKind.ofName? s.shown
  | _ => none

/-- Set the handlers that are there from the start. -/
def registerDefaults (r : Router) : Router :=
  (((r.register .findSymbol .symbols).register .findErrors .errors).register
    .explainCode .explanation).register .runTests .tests

end Router

end VoiceDebugger
