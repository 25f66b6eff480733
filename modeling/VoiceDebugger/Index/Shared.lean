import VoiceDebugger.Index.Search
import VoiceDebugger.Index.Store
import VoiceDebugger.Search
import VoiceDebugger.Session.Action

/-!
The index that the requests of a session share, and looking symbols up with it.
-/

namespace VoiceDebugger

open VoiceDebugger.Action

/-- The shared index. The first time, the saved one is read. -/
def sharedIndex : Action Index := do
  let s ← get
  match s.index with
  | some i => return i
  | none =>
    let (_, i) := (Index.empty ".").load s.root
    set { s with index := some i }
    return i

/-- Bring the shared index up to date and save it. -/
def rebuildShared (force : Bool) : Action BuildStats := do
  let i ← sharedIndex
  let s ← get
  let (stats, i, root) := i.build s.root s.clock force
  set { s with index := some i, root := root }
  return stats

/-- Where a name is found: records of the index, or hits of a search. -/
inductive SymbolHits where
  | records (records : List Record)
  | definitions (hits : List DefinitionHit)
  | lines (hits : List LineHit)

def SymbolHits.toJson : SymbolHits → List Json
  | .records rs => rs.map Record.toJson
  | .definitions hs => hs.map DefinitionHit.toJson
  | .lines hs => hs.map LineHit.toJson

/-- The records of the shared index for a name, if it is to be used. -/
def knownRecords (name : CodeText) (useIndex : Bool) : Action (List Record) := do
  if useIndex then return (← sharedIndex).search name none Index.defaultLimit else return []

/-- Find a name: first in the index, then among the definitions of the source files; for another
language, in the lines of its files. -/
def findSymbols (name : CodeText) (language : Json) (useIndex : Bool) : Action SymbolHits := do
  if language.same (.str "python") then
    let known ← knownRecords name useIndex
    if known.isEmpty then
      let s ← get
      return .definitions (searchDefinitions s.location s.root name.shown)
    else return .records known
  else
    let suffix ← ofLoose (suffixFor language)
    let s ← get
    return .lines (searchLines s.location s.root name suffix)

end VoiceDebugger
