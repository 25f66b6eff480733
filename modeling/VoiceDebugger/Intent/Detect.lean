import VoiceDebugger.Intent.Phrasing

/-!
Which intent a text expresses, and how surely.
-/

namespace VoiceDebugger

/-- The confidence that a weight stands for, at most 0.95. -/
def confidenceOf (weight : Float) : Float :=
  let c := 0.7 + weight * 0.05
  if c < 0.95 then c else 0.95

def Phrasing.score (p : Phrasing) (text : List Char) : Option Float :=
  if p.patterns.any (·.occursIn text) then some (confidenceOf p.weight.toFloat) else none

def scores (text : List Char) : List (Option Float) :=
  phrasings.map (·.score text)

/-- The better of the best so far and a further phrasing; the earlier one wins a tie. -/
def better (text : List Char) (best : Option (IntentKind × Float)) (p : Phrasing) :
    Option (IntentKind × Float) :=
  match p.score text with
  | none => best
  | some c =>
    match best with
    | none => some (p.intent, c)
    | some (_, b) => if c > b then some (p.intent, c) else best

/-- The intent of a text. A text without any known phrasing is taken for a request to explain
code. -/
def detectIntent (text : List Char) : IntentKind × Float :=
  (phrasings.foldl (better text) none).getD (.explainCode, 0.5)

end VoiceDebugger
