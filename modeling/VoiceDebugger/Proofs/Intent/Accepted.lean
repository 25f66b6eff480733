import VoiceDebugger.Proofs.Intent.NormalForm

/-!
What checking makes of a value.

Numbers may be given as texts, texts as numbers, truth values as words and objects as lists of
pairs, and fields may be missing. Of all that nothing is left in an intent that was accepted: its
value has every field, each of its own kind, and these values are just those that checking leaves as
they are.
-/

namespace VoiceDebugger

/-! ### Values in normal form -/

/-- A text or null. -/
def TextOrNull (v : Json) : Prop :=
  v = .null ∨ ∃ s : CodeText, v = .str s

/-- An integer or null. -/
def IntegerOrNull (v : Json) : Prop :=
  v = .null ∨ ∃ n : Int, v = .int n

/-- One of some words, or null. -/
def WordOrNull (words : List String) (v : Json) : Prop :=
  v = .null ∨ ∃ word ∈ words, v = .str word

/-- What an intent is about, with every field and each of its own kind. -/
inductive NormalEntities : Json → Prop
  | intro {file symbol language scope line function errorType : Json}
      (fileText : TextOrNull file) (symbolText : TextOrNull symbol)
      (languageWord :
        WordOrNull ["python", "javascript", "typescript", "java", "unknown"] language)
      (scopeWord : WordOrNull ["all", "reads", "writes", "declarations"] scope)
      (lineNumber : IntegerOrNull line) (functionText : TextOrNull function)
      (errorText : TextOrNull errorType) :
      NormalEntities (.obj [("file", file), ("symbol", symbol), ("language", language),
        ("scope", scope), ("line", line), ("function", function), ("error_type", errorType)])

/-- An intent with every field and each of its own kind. -/
inductive NormalIntent : Json → Prop
  | intro {word : String} {confidence : Float} {about rawText : Json} (followUp : Bool)
      (kind : word ∈ ["find_errors", "explain_code", "find_symbol", "navigate_to", "run_tests",
        "explain_trace", "propose_fix", "apply_fix", "format_file", "rename_symbol"])
      (low : 0 ≤ confidence) (high : confidence ≤ 1) (entities : NormalEntities about)
      (raw : TextOrNull rawText) :
      NormalIntent (.obj [("intent", .str word), ("confidence", .float confidence),
        ("entities", about), ("follow_up_allowed", .bool followUp), ("raw_text", rawText)])

/-! ### From fields to values and back -/

theorem textOrNull_iff {v : Json} : TextOrNull v ↔ ∃ o, v = Json.ofText? o := by
  constructor
  · rintro (rfl | ⟨s, rfl⟩)
    · exact ⟨none, rfl⟩
    · exact ⟨some s, rfl⟩
  · rintro ⟨_ | s, rfl⟩
    · exact .inl rfl
    · exact .inr ⟨s, rfl⟩

theorem mem_words_iff {α : Type} {values : List α} (name : α → String)
    (complete : ∀ a, a ∈ values) {word : String} :
    word ∈ values.map name ↔ ∃ a, word = name a := by
  constructor
  · intro listed
    obtain ⟨a, -, rfl⟩ := List.mem_map.mp listed
    exact ⟨a, rfl⟩
  · rintro ⟨a, rfl⟩
    exact List.mem_map_of_mem (complete a)

theorem wordOrNull_iff {α : Type} {values : List α} (name : α → String)
    (complete : ∀ a, a ∈ values) {v : Json} :
    WordOrNull (values.map name) v ↔ ∃ o : Option α, v = Json.ofString? (o.map name) := by
  constructor
  · rintro (rfl | ⟨word, known, rfl⟩)
    · exact ⟨none, rfl⟩
    · obtain ⟨a, rfl⟩ := (mem_words_iff name complete).mp known
      exact ⟨some a, rfl⟩
  · rintro ⟨_ | a, rfl⟩
    · exact .inl rfl
    · exact .inr ⟨name a, (mem_words_iff name complete).mpr ⟨a, rfl⟩, rfl⟩

theorem IntentKind.mem_values (kind : IntentKind) : kind ∈ values := by
  cases kind <;> simp [values]

theorem Language.mem_values (language : Language) : language ∈ values := by
  cases language <;> simp [values]

theorem SymbolScope.mem_values (scope : SymbolScope) : scope ∈ values := by
  cases scope <;> simp [values]

theorem normalEntities_iff {d : Json} : NormalEntities d ↔ ∃ e : Entities, d = e.toJson := by
  constructor
  · rintro ⟨fileText, symbolText, languageWord, scopeWord, lineNumber, functionText, errorText⟩
    obtain ⟨file, rfl⟩ := textOrNull_iff.mp fileText
    obtain ⟨symbol, rfl⟩ := textOrNull_iff.mp symbolText
    obtain ⟨language, rfl⟩ := (wordOrNull_iff Language.name Language.mem_values).mp languageWord
    obtain ⟨scope, rfl⟩ := (wordOrNull_iff SymbolScope.name SymbolScope.mem_values).mp scopeWord
    obtain ⟨function, rfl⟩ := textOrNull_iff.mp functionText
    obtain ⟨errorType, rfl⟩ := textOrNull_iff.mp errorText
    rcases lineNumber with rfl | ⟨n, rfl⟩
    · exact ⟨⟨file, symbol, language, scope, none, function, errorType⟩, rfl⟩
    · exact ⟨⟨file, symbol, language, scope, some n, function, errorType⟩, rfl⟩
  · rintro ⟨⟨file, symbol, language, scope, line, function, errorType⟩, rfl⟩
    refine .intro (textOrNull_iff.mpr ⟨file, rfl⟩) (textOrNull_iff.mpr ⟨symbol, rfl⟩)
      ((wordOrNull_iff Language.name Language.mem_values).mpr ⟨language, rfl⟩)
      ((wordOrNull_iff SymbolScope.name SymbolScope.mem_values).mpr ⟨scope, rfl⟩) ?_
      (textOrNull_iff.mpr ⟨function, rfl⟩) (textOrNull_iff.mpr ⟨errorType, rfl⟩)
    cases line with
    | none => exact .inl rfl
    | some n => exact .inr ⟨n, rfl⟩

/-- The values in normal form are those that checking leaves as they are. -/
theorem normalIntent_iff {d : Json} :
    NormalIntent d ↔ ∃ i : Intent, Intent.ofJson d = .ok i ∧ i.toJson = d := by
  constructor
  · rintro ⟨followUp, kindWord, low, high, entities, raw⟩
    obtain ⟨kind, rfl⟩ := (mem_words_iff IntentKind.name IntentKind.mem_values).mp kindWord
    obtain ⟨about, rfl⟩ := normalEntities_iff.mp entities
    obtain ⟨rawText, rfl⟩ := textOrNull_iff.mp raw
    exact ⟨_, Intent.ofJson_toJson ⟨kind, _, about, followUp, rawText⟩ low high, rfl⟩
  · rintro ⟨i, accepted, rfl⟩
    obtain ⟨low, high⟩ := Intent.confidence_of_ofJson accepted
    have kindWord := (mem_words_iff IntentKind.name IntentKind.mem_values).mpr ⟨i.kind, rfl⟩
    exact .intro i.followUp kindWord low high (normalEntities_iff.mpr ⟨i.entities, rfl⟩)
      (textOrNull_iff.mpr ⟨i.rawText, rfl⟩)

/-- An intent that was accepted, from whatever value, is accepted again in the form in which it is
written and comes back as it was, and that form has every field, each of its own kind. -/
theorem accepted_normal (v : Json) (i : Intent) (accepted : Intent.ofJson v = .ok i) :
    Intent.ofJson i.toJson = .ok i ∧ NormalIntent i.toJson := by
  obtain ⟨low, high⟩ := Intent.confidence_of_ofJson accepted
  have again := Intent.ofJson_toJson i low high
  exact ⟨again, normalIntent_iff.mpr ⟨i, again, rfl⟩⟩

/-- An intent given with numbers and truth values as texts, texts as numbers, and pairs. -/
def looseIntent : Json :=
  .obj [
    ("intent", .str "run_tests"),
    ("confidence", .str " 5e-1 "),
    ("entities", .arr [
      .arr [.str "line", .float 7.9],
      .arr [.str "file", .int 3],
      .arr [.str "language", .null]]),
    ("follow_up_allowed", .str "No"),
    ("raw_text", .bool true)]

/-- The same intent, checked. -/
def strictIntent : Intent where
  kind := .runTests
  confidence := 0.5
  entities := { file := some "3", language := none, line := some 7 }
  followUp := false
  rawText := some "True"

theorem accepted_normal_loose :
    Intent.ofJson looseIntent = .ok strictIntent ∧
    Intent.ofJson strictIntent.toJson = .ok strictIntent ∧ NormalIntent strictIntent.toJson := by
  have accepted : Intent.ofJson looseIntent = .ok strictIntent := rfl
  exact ⟨accepted, accepted_normal looseIntent strictIntent accepted⟩

end VoiceDebugger
