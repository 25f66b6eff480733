import VoiceDebugger.Index.Basic
import VoiceDebugger.Text.Lower

/-!
Searching an index by name.

The records are gone through name by name. An error stands for the end of the search: its value is
what is returned.
-/

namespace VoiceDebugger.Index

/-- Whether a name holds a text, case left aside. -/
def nameHolds (query name : CodeText) : Bool :=
  Text.occursIn query.lower.codes name.lower.codes

/-- Whether a record is of a kind; no kind and the empty one stand for all. -/
def isOfKind (kind : Option CodeText) (r : Record) : Bool :=
  match kind with
  | none => true
  | some k => k.isEmpty || r.kind.same (.str k)

/-- Take a record that is of a kind. With as many as asked for, the search is over. -/
def takeRecord (kind : Option CodeText) (limit : Int) (results : List Record) (r : Record) :
    Except (List Record) (List Record) :=
  if isOfKind kind r then
    let results := results ++ [r]
    if results.length ≥ limit then .error results else .ok results
  else .ok results

/-- Go through the records of a name that holds a text. -/
def takeNamed (query : CodeText) (kind : Option CodeText) (limit : Int) (results : List Record)
    (named : CodeText × List Record) : Except (List Record) (List Record) :=
  if nameHolds query named.1 then named.2.foldlM (takeRecord kind limit) results else .ok results

/-- How many records a search returns if nothing else is said. -/
def defaultLimit : Int := 50

/-- The first records whose names hold a text. -/
def search (i : Index) (query : CodeText) (kind : Option CodeText) (limit : Int) : List Record :=
  match i.symbols.foldlM (takeNamed query kind limit) [] with
  | .ok results => results
  | .error results => results

end VoiceDebugger.Index
