import VoiceDebugger.Api.Endpoint
import VoiceDebugger.Proofs.Session.Run

/-!
Parsing sentences and answering intents leave the shared router alone: they neither look at it nor
change it.
-/

namespace VoiceDebugger

open VoiceDebugger.Action

/-- Put another router in the place of the shared one. -/
def rerouted (r : Router) (s : Session) : Session :=
  { s with router := r }

theorem rerouted_self (s : Session) : rerouted s.router s = s := rfl

namespace Action.Passes

variable (r : Router)

/-- An action that a new router passes through keeps the router that there is. -/
theorem keeps_router {α : Type} {a : Action α} (passes : ∀ r, Passes (rerouted r) a) (s : Session) :
    (a.runIn s).2.router = s.router := by
  have same := passes s.router s
  rw [rerouted_self] at same
  rw [same]
  rfl

/-! ### Services and files -/

theorem note (c : Call) : Passes (rerouted r) (Action.note c) :=
  modify fun _ => rfl

theorem say (line : String) : Passes (rerouted r) (Action.say line) :=
  modify fun _ => rfl

theorem hasKey : Passes (rerouted r) Action.hasKey :=
  getBind fun _ => rfl

theorem chat (request : ChatRequest) : Passes (rerouted r) (Action.chat request) := by
  refine bind (note r _) fun _ => getBind fun s => ?_
  cases h : s.chats with
  | nil =>
    have same : (rerouted r s).chats = [] := h
    simp only [same, runIn_fail]
  | cons reply rest =>
    have same : (rerouted r s).chats = reply :: rest := h
    simp only [same]
    cases reply <;> rfl

theorem runTool (tool : String) (arguments : List Json) (timeout : Json) :
    Passes (rerouted r) (Action.runTool tool arguments timeout) :=
  bind (note r _) fun _ => getBind fun _ => rfl

theorem runShell (command : String) (timeout : Json) (settings : List (Json × Json)) :
    Passes (rerouted r) (Action.runShell command timeout settings) :=
  bind (note r _) fun _ => getBind fun _ => rfl

theorem exists? (path : String) : Passes (rerouted r) (Action.exists? path) :=
  getBind fun _ => rfl

theorem readText (path : String) : Passes (rerouted r) (Action.readText path) := by
  refine bind (getBind fun s => ?_) fun _ => ofOutcome _
  simp only [runIn_ofOutcome]
  rfl

/-! ### The answers of handlers -/

theorem sharedIndex : Passes (rerouted r) VoiceDebugger.sharedIndex := by
  refine getBind fun s => ?_
  cases h : s.index with
  | none =>
    have same : (rerouted r s).index = none := h
    simp only [same]
    rfl
  | some i =>
    have same : (rerouted r s).index = some i := h
    simp only [same]
    rfl

theorem findSymbols (name : CodeText) (language : Json) (useIndex : Bool) :
    Passes (rerouted r) (VoiceDebugger.findSymbols name language useIndex) := by
  unfold VoiceDebugger.findSymbols
  split
  · refine bind ?_ fun known => ?_
    · unfold knownRecords
      split
      · exact bind (sharedIndex r) fun _ => pure _
      · exact pure _
    · split
      · exact getBind fun _ => rfl
      · exact pure _
  · exact bind (ofOutcome _) fun _ => getBind fun _ => rfl

theorem lintSource (path : String) : Passes (rerouted r) (VoiceDebugger.lintSource path) := by
  refine bind (exists? r path) fun present => ?_
  split
  · refine bind ?_ fun style => bind ?_ fun types => bind ?_ fun faults => pure _
    · refine bind (runTool r _ _ _) fun outcome => ?_
      cases outcome <;> exact pure _
    · refine bind (runTool r _ _ _) fun outcome => ?_
      cases outcome <;> exact pure _
    · refine bind (attempt (readText r path)) fun text => ?_
      cases text <;> exact pure _
  · exact pure _

theorem lintScript (file : Json) : Passes (rerouted r) (VoiceDebugger.lintScript file) := by
  refine bind (runTool r _ _ _) fun outcome => ?_
  cases outcome <;> exact bind (pure _) fun _ => pure _

theorem findErrors (file language : Json) :
    Passes (rerouted r) (VoiceDebugger.findErrors file language) := by
  unfold VoiceDebugger.findErrors
  split
  · unfold lintLoose
    split
    · exact lintSource r _
    · split
      · split
        · exact fail _
        · split
          · exact fail _
          · exact pure _
      · exact fail _
  · split
    · exact lintScript r file
    · exact pure _

theorem runCommand (command : String) (env timeout : Json) :
    Passes (rerouted r) (VoiceDebugger.runCommand command env timeout) := by
  unfold VoiceDebugger.runCommand
  split
  · exact pure _
  · refine bind (runShell r _ _ _) fun outcome => ?_
    cases outcome <;> exact pure _

/-- No handler looks at the router. -/
theorem answer (about : Entities) (h : Handler) : Passes (rerouted r) (h.answer about) := by
  cases h with
  | symbols => exact bind (findSymbols r _ _ _) fun _ => pure _
  | errors =>
    change Passes (rerouted r) (answerErrors about)
    unfold answerErrors
    split
    · exact bind (findErrors r _ _) fun _ => pure _
    · exact pure _
  | explanation => exact pure _
  | tests =>
    change Passes (rerouted r) (answerTests about)
    unfold answerTests
    split
    · exact bind (runCommand r _ _ _) fun _ => pure _
    · exact pure _
  | fixed value => exact pure _
  | failing message => exact fail _
  | echo => exact pure _

/-! ### Sentences -/

theorem parseIntent (text : String) (context : Json) :
    Passes (rerouted r) (VoiceDebugger.parseIntent text context) := by
  have byChat : ∀ told, Passes (rerouted r) (intentByChat text told) := fun told =>
    bind (chat r _) fun _ => bind (ofOutcome _) fun _ => ofOutcome _
  have byService : Passes (rerouted r) (intentByService text context) := by
    refine bind (ofOutcome _) fun told => bind (attempt (byChat told)) fun outcome => ?_
    cases outcome with
    | ok i => exact pure _
    | error f => exact bind (say r _) fun _ => ofOutcome _
  refine bind (hasKey r) fun key => ?_
  split
  · refine bind (attempt byService) fun outcome => ?_
    cases outcome with
    | ok i => exact pure _
    | error f => exact bind (say r _) fun _ => ofOutcome _
  · exact ofOutcome _

theorem checkedIntent (text : String) (context : Json) :
    Passes (rerouted r) (VoiceDebugger.checkedIntent text context) :=
  bind (parseIntent r text context) fun _ => ofOutcome _

end Action.Passes

end VoiceDebugger
