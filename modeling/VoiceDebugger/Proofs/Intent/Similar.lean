import VoiceDebugger.Intent.Parse
import VoiceDebugger.Proofs.Intent.Proper
import VoiceDebugger.Proofs.Pattern.Fold

/-!
Similar sentences have one reading.

All patterns for phrasings and for what a sentence names are blind to the case of letters and to the
kinds of blanks, and so are the words that are looked for in lower case. So sentences that differ in
nothing else have the same intent, and what they name stands at the same places.
-/

namespace VoiceDebugger

open Text (Similar)

variable {text other : List Char}

/-! ### Intents -/

theorem phrasings_blind : ∀ p ∈ phrasings, ∀ q ∈ p.patterns, q.isBlind = true := by
  decide +kernel

theorem score_similar (similar : Similar text other) {p : Phrasing} (known : p ∈ phrasings) :
    p.score text = p.score other := by
  have same : p.patterns.any (·.occursIn text) = p.patterns.any (·.occursIn other) := by
    rw [Bool.eq_iff_iff, List.any_eq_true, List.any_eq_true]
    refine exists_congr fun q => and_congr_right fun member => ?_
    rw [q.occursIn_similar (phrasings_blind p known q member) similar]
  rw [Phrasing.score, Phrasing.score, same]

theorem detectIntent_similar (similar : Similar text other) :
    detectIntent text = detectIntent other := by
  have same : phrasings.foldl (better text) none = phrasings.foldl (better other) none := by
    apply List.foldl_ext
    intro best p known
    rw [better, better, score_similar similar known]
  rw [detectIntent, detectIntent, same]

/-! ### Words in lower case -/

/-- Whether a word has no blanks in it. -/
def isSolid (w : String) : Bool :=
  w.toList.all (!Text.isBlank ·)

theorem isBlank_of_isSolid {w : String} (solid : isSolid w = true) :
    ∀ c ∈ w.toList, Text.isBlank c = false := by
  intro c member
  simpa using List.all_eq_true.mp solid c member

theorem mentions_similar (similar : Similar text other) {words : List String}
    (solid : ∀ w ∈ words, isSolid w = true) : mentions words text = mentions words other := by
  rw [mentions, mentions, Bool.eq_iff_iff, List.any_eq_true, List.any_eq_true]
  refine exists_congr fun w => and_congr_right fun member => ?_
  have whole := isBlank_of_isSolid (solid w member)
  have same := congrArg (Text.occursIn w.toList) similar.lowerFrom_eq
  rw [Text.occursIn_foldBlank whole, Text.occursIn_foldBlank whole] at same
  rw [same]

theorem scopeIn_similar (similar : Similar text other) : scopeIn text = scopeIn other := by
  rw [scopeIn, scopeIn, mentions_similar similar (by decide), mentions_similar similar (by decide),
    mentions_similar similar (by decide)]

theorem languageIn_similar (similar : Similar text other) : languageIn text = languageIn other := by
  rw [languageIn, languageIn, mentions_similar similar (by decide),
    mentions_similar similar (by decide), mentions_similar similar (by decide),
    mentions_similar similar (by decide)]

theorem isCommon_similar {a b : String} (similar : Similar a.toList b.toList) :
    commonWords.contains (Text.lower a) = commonWords.contains (Text.lower b) := by
  have solid : ∀ w ∈ commonWords, isSolid w = true := by decide
  have transfers : ∀ a b : String, Similar a.toList b.toList →
      Text.lower a ∈ commonWords → Text.lower a = Text.lower b := by
    intro a b similar common
    have lowered := isBlank_of_isSolid (solid _ common)
    rw [Text.lower, String.toList_ofList] at lowered
    rw [Text.lower, Text.lower, Text.eq_of_map_foldBlank lowered similar.lowerFrom_eq]
  rw [Bool.eq_iff_iff, List.contains_iff_mem, List.contains_iff_mem]
  constructor
  · intro common
    exact transfers a b similar common ▸ common
  · intro common
    exact transfers b a similar.symm common ▸ common

/-! ### Names -/

/-- Two texts name nothing, or they name similar words that stand at the same place. -/
def FromSamePlace (text other : List Char) : Option String → Option String → Prop
  | none, none => True
  | some a, some b =>
    Similar a.toList b.toList ∧
      ∃ front front' back back', text = front ++ a.toList ++ back ∧
        other = front' ++ b.toList ++ back' ∧ front.length = front'.length
  | _, _ => False

/-- Both name nothing, or both name something. -/
theorem FromSamePlace.cases {a b : Option String} (place : FromSamePlace text other a b) :
    (a = none ∧ b = none) ∨
      ∃ x y, a = some x ∧ b = some y ∧ FromSamePlace text other (some x) (some y) := by
  cases a with
  | none =>
    cases b with
    | none => exact .inl ⟨rfl, rfl⟩
    | some y => exact place.elim
  | some x =>
    cases b with
    | none => exact place.elim
    | some y => exact .inr ⟨x, y, rfl, rfl, place⟩

theorem slice_split (text : List Char) (range : Nat × Nat) :
    text = text.take range.1 ++ Pattern.slice text range ++
      (text.drop range.1).drop (range.2 - range.1) := by
  rw [Pattern.slice, List.append_assoc, List.take_append_drop, List.take_append_drop]

/-- A blind pattern keeps the same place in similar texts. -/
theorem firstKept?_similar (p : Pattern) (blind : p.isBlind = true) (similar : Similar text other) :
    FromSamePlace text other (p.firstKept? text) (p.firstKept? other) := by
  rw [p.firstKept?_eq, p.firstKept?_eq, ← p.firstRange?_similar blind similar]
  cases p.firstRange? text with
  | none => trivial
  | some range =>
    simp only [Option.map_some, FromSamePlace, String.toList_ofList]
    refine ⟨Pattern.slice_similar similar range, _, _, _, _, slice_split text range,
      slice_split other range, ?_⟩
    rw [List.length_take, List.length_take, similar.length_eq]

theorem findSome?_fromSamePlace {α : Type} {f g : α → Option String} (items : List α)
    (each : ∀ a ∈ items, FromSamePlace text other (f a) (g a)) :
    FromSamePlace text other (items.findSome? f) (items.findSome? g) := by
  induction items with
  | nil => trivial
  | cons a items ih =>
    obtain ⟨first, others⟩ := List.forall_mem_cons.mp each
    rw [List.findSome?_cons, List.findSome?_cons]
    rcases first.cases with ⟨found, found'⟩ | ⟨x, y, found, found', place⟩
    · rw [found, found']
      exact ih others
    · rw [found, found']
      exact place

theorem firstFound_similar {patterns : List Pattern} (blind : ∀ p ∈ patterns, p.isBlind = true)
    (similar : Similar text other) :
    FromSamePlace text other (firstFound patterns text) (firstFound patterns other) :=
  findSome?_fromSamePlace patterns fun p member => firstKept?_similar p (blind p member) similar

/-- None of the patterns for what a sentence names looks at the case of letters or the kinds of
blanks. -/
theorem namePatterns_blind :
    ∀ patterns ∈ [symbolPatterns, linePatterns, filePatterns, functionPatterns],
      ∀ p ∈ patterns, p.isBlind = true := by
  decide +kernel

theorem symbolIn_similar (similar : Similar text other) :
    FromSamePlace text other (symbolIn text) (symbolIn other) := by
  have blind := namePatterns_blind symbolPatterns (by simp)
  refine findSome?_fromSamePlace symbolPatterns fun p member => ?_
  rcases (firstKept?_similar p (blind p member) similar).cases with
    ⟨found, found'⟩ | ⟨a, b, found, found', place⟩
  · rw [found, found']
    trivial
  · simp only [found, found', isCommon_similar place.1]
    split
    · trivial
    · exact place

theorem lineIn_similar (similar : Similar text other) : lineIn text = lineIn other := by
  have blind := namePatterns_blind linePatterns (by simp)
  rw [lineIn, lineIn]
  rcases (firstFound_similar blind similar).cases with
    ⟨found, found'⟩ | ⟨a, b, found, found', place⟩
  · rw [found, found']
  · have digits := place.1.eq_of_isDecimal (digits_of_line found).2.2
    rw [found, found', String.toList_injective digits]

/-! ### Sentences -/

/-- Two names of intents are those of two sentences at the same place, or neither is there. -/
def NamedAlike (text other : List Char) (x y : Option CodeText) : Prop :=
  ∃ a b : Option String, x = a.map CodeText.ofString ∧ y = b.map CodeText.ofString ∧
    FromSamePlace text other a b

/-- Two intents are the same reading of two sentences: they differ at most in the letters of what is
named, which stands at the same places of the sentences. -/
structure SameReading (text other : List Char) (i j : Intent) : Prop where
  kind : i.kind = j.kind
  confidence : i.confidence = j.confidence
  scope : i.entities.scope = j.entities.scope
  language : i.entities.language = j.entities.language
  line : i.entities.line = j.entities.line
  file : NamedAlike text other i.entities.file j.entities.file
  symbol : NamedAlike text other i.entities.symbol j.entities.symbol
  function : NamedAlike text other i.entities.function j.entities.function

/-- Sentences that differ in the case of letters and in the kinds of blanks have the same reading by
their phrasing, or both have none. -/
theorem same_reading_of_similar (text other : String) (similar : Similar text.toList other.toList) :
    (∃ i j, intentByPhrasing text = .ok i ∧ intentByPhrasing other = .ok j ∧
      SameReading text.toList other.toList i j) ∨
    (∃ f g, intentByPhrasing text = .error f ∧ intentByPhrasing other = .error g) := by
  have fileBlind := namePatterns_blind filePatterns (by simp)
  have functionBlind := namePatterns_blind functionPatterns (by simp)
  have line := lineIn_similar similar
  rw [intentByPhrasing, intentByPhrasing, entitiesIn, entitiesIn, ← line,
    ← detectIntent_similar similar]
  cases lineIn text.toList with
  | error fault => exact .inr ⟨_, _, rfl, rfl⟩
  | ok n =>
    refine .inl ⟨_, _, rfl, rfl, ?_⟩
    exact {
      kind := rfl
      confidence := rfl
      scope := congrArg some (scopeIn_similar similar)
      language := congrArg some (languageIn_similar similar)
      line := rfl
      file := ⟨_, _, rfl, rfl, firstFound_similar fileBlind similar⟩
      symbol := ⟨_, _, rfl, rfl, symbolIn_similar similar⟩
      function := ⟨_, _, rfl, rfl, firstFound_similar functionBlind similar⟩ }

theorem same_reading_of_similar_shouted :
    Similar "where is total used at line 12".toList "WHERE\tis Total\u00A0USED at\nLine 12".toList ∧
    ∃ i j, intentByPhrasing "where is total used at line 12" = .ok i ∧
      intentByPhrasing "WHERE\tis Total\u00A0USED at\nLine 12" = .ok j ∧
      SameReading "where is total used at line 12".toList
        "WHERE\tis Total\u00A0USED at\nLine 12".toList i j := by
  have similar : Similar "where is total used at line 12".toList
      "WHERE\tis Total\u00A0USED at\nLine 12".toList := by decide +kernel
  have read : (intentByPhrasing "where is total used at line 12").isOk = true := by decide +kernel
  rcases same_reading_of_similar _ _ similar with reading | ⟨f, g, failed, -⟩
  · exact ⟨similar, reading⟩
  · rw [failed] at read
    cases read

end VoiceDebugger
