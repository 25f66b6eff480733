import VoiceDebugger.Source.Flow.Expression
import VoiceDebugger.Source.Flow.Key

/-!
Patterns of match statements: which names they bind, and that a pattern which matches everything
comes last.
-/

namespace VoiceDebugger.Source

/-- What has been seen of a pattern: the spot of the last part, and the names bound so far. -/
structure Captures where
  spot : Spot
  names : List String

def Pattern.isWildcard (p : Pattern) : Bool :=
  p.form matches .capture none none

/-- Whether a pattern takes the rest of a sequence. -/
def Pattern.isStar (p : Pattern) : Bool :=
  p.form matches .star _

/-- Whether a pattern takes the rest of a sequence and binds no name. -/
def Pattern.isBareStar (p : Pattern) : Bool :=
  p.form matches .star none

def Captures.bind (k : Captures) (name : String) : Except Fault Captures :=
  if k.names.contains name then
    .error (k.spot.fault s!"multiple assignments to name {Text.quoted name} in pattern")
  else .ok { k with names := k.names ++ [name] }

/-- Bind a name that is given by a pattern. -/
def Captures.store (k : Captures) : Option String → Except Fault Captures
  | none => .ok k
  | some name => do
    checkName k.spot .store name
    k.bind name

def Captures.bindAll : List String → Captures → Except Fault Captures
  | [], k => .ok k
  | name :: rest, k => do bindAll rest (← k.bind name)

/-- The attributes of a class pattern are given once. -/
def checkAttributes : List (String × Pattern) → Except Fault Unit
  | [] => .ok ()
  | (name, p) :: rest => do
    checkName p.span.spot .store name
    match rest.find? (·.1 == name) with
    | some (_, again) =>
      .error (again.span.spot.fault s!"attribute name repeated in class pattern: {name}")
    | none => checkAttributes rest

/-- The keys of a mapping pattern are constants or attributes, and differ. -/
def checkKeys (c : Code) (spot : Spot) : List Key → List Expr → Except Fault Unit
  | _, [] => .ok ()
  | seen, e :: rest =>
    match e.key? with
    | some key =>
      if seen.any fun k => k.value.same key.value then
        .error (spot.fault s!"mapping pattern checks duplicate key ({key.text})")
      else checkKeys c spot (key :: seen) rest
    | none =>
      match e.form with
      | .attribute .. => do
        e.check c .load
        checkKeys c spot seen rest
      | _ =>
        .error (spot.fault "mapping pattern keys may only match literals and attribute lookups")

/-- At most one part of a sequence pattern takes the rest. -/
def checkStars (spot : Spot) (patterns : List Pattern) : Except Fault Unit :=
  match patterns.findIdx? Pattern.isStar with
  | none => .ok ()
  | some i =>
    if (patterns.drop (i + 1)).any Pattern.isStar then
      .error (spot.fault "multiple starred expressions in sequence pattern")
    else if i ≥ maxBeforeStar && !patterns.any Pattern.isBareStar then
      .error (spot.fault "too many expressions in star-unpacking sequence pattern")
    else .ok ()

mutual

/-- Check a pattern. One that matches everything needs `last`. -/
def Pattern.check (c : Code) (last : Bool) (k : Captures) : Pattern → Except Fault Captures
  | ⟨span, form⟩ => PatternForm.check c last { k with spot := span.spot } form

def PatternForm.check (c : Code) (last : Bool) (k : Captures) :
    PatternForm → Except Fault Captures
  | .value value => do
    match value.key?, value.form with
    | some _, _ => return k
    | none, .attribute .. =>
      value.check c .load
      return k
    | none, _ => .error (k.spot.fault "patterns may only match literals and attribute lookups")
  | .singleton _ => .ok k
  | .sequence patterns => do
    checkStars k.spot patterns
    if patterns.all fun p => p.isWildcard || p.isBareStar then return k
    else if patterns.any Pattern.isBareStar then checkParts c true k patterns
    else checkParts c false k patterns
  | .mapping entries rest => do
    checkKeys c k.spot [] (entries.map (·.1))
    let k ← checkEntryPatterns c k entries
    k.store rest
  | .classOf type patterns keywords => do
    checkAttributes keywords
    type.check c .load
    let k ← checkParts c true k patterns
    checkKeywordPatterns c k keywords
  | .star name => k.store name
  | .capture none name =>
    if last then k.store name
    else
      match name with
      | some name =>
        .error (k.spot.fault s!"name capture {Text.quoted name} makes remaining patterns unreachable")
      | none => .error (k.spot.fault "wildcard makes remaining patterns unreachable")
  | .capture (some p) name => do
    let k ← Pattern.check c last k p
    k.store name
  | .choice [] => .ok k
  | .choice (p :: rest) => do
    let first ← Pattern.check c (rest.isEmpty && last) { k with names := [] } p
    let after ← checkAlternatives c last first.names first rest
    Captures.bindAll first.names { after with names := k.names }

/-- Check the parts of a pattern. With `skipping`, wildcards are not looked at. -/
def checkParts (c : Code) (skipping : Bool) (k : Captures) :
    List Pattern → Except Fault Captures
  | [] => .ok k
  | p :: rest => do
    if skipping && (p.isWildcard || p.isStar) then checkParts c skipping k rest
    else
      let k ← Pattern.check c true k p
      checkParts c skipping k rest

def checkEntryPatterns (c : Code) (k : Captures) :
    List (Expr × Pattern) → Except Fault Captures
  | [] => .ok k
  | (_, p) :: rest => do
    let k ← Pattern.check c true k p
    checkEntryPatterns c k rest

def checkKeywordPatterns (c : Code) (k : Captures) :
    List (String × Pattern) → Except Fault Captures
  | [] => .ok k
  | (_, p) :: rest => do
    if p.isWildcard then checkKeywordPatterns c k rest
    else
      let k ← Pattern.check c true k p
      checkKeywordPatterns c k rest

/-- Check the further alternatives of a choice: each binds the same names as the first. -/
def checkAlternatives (c : Code) (last : Bool) (control : List String) (k : Captures) :
    List Pattern → Except Fault Captures
  | [] => .ok k
  | p :: rest => do
    let k ← Pattern.check c (rest.isEmpty && last) { k with names := [] } p
    if k.names.length != control.length || !control.all k.names.contains then
      .error (k.spot.fault "alternative patterns bind different names")
    else checkAlternatives c last control k rest

end

end VoiceDebugger.Source
