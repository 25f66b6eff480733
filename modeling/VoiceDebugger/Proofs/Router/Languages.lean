import VoiceDebugger.Proofs.Router.Commands
import VoiceDebugger.Proofs.Text.Pieces

/-!
Which language a sentence is about, and which tests it runs.

The names of languages and of their tools are looked for anywhere in a text, in lower case. So a
language can be meant by a word of the text, but also by a word that only has such a name inside it,
as tests has. Then other tests are run than those of the language that is meant where none is named.
-/

namespace VoiceDebugger

open VoiceDebugger.Action

/-! ### Words of a text -/

/-- The words of a text, in lower case. -/
def wordsIn (text : List Char) : List (List Char) :=
  Text.wordRuns (Text.lowerFrom [] text)

/-- One of some names is a word of a text. -/
def NamesOne (names : List String) (text : List Char) : Prop :=
  ∃ name ∈ names, name.toList ∈ wordsIn text

/-- A word of a text has one of some names inside it, and more than that. -/
def HidesOne (names : List String) (text : List Char) : Prop :=
  ∃ name ∈ names, ∃ word ∈ wordsIn text, name.toList <:+: word ∧ name.toList ≠ word

instance (names : List String) (text : List Char) : Decidable (NamesOne names text) :=
  inferInstanceAs (Decidable (∃ name ∈ names, name.toList ∈ wordsIn text))

/-- Names that are words are found in the words of a text only. -/
theorem mentions_iff {names : List String} (words : ∀ name ∈ names, IsWord name.toList)
    (text : List Char) :
    mentions names text = true ↔ NamesOne names text ∨ HidesOne names text := by
  have inside : ∀ name ∈ names, Text.occursIn name.toList (Text.lowerFrom [] text) = true ↔
      ∃ word ∈ wordsIn text, name.toList <:+: word := by
    intro name listed
    rw [Text.occursIn_iff_infix, Text.infix_iff_wordRun (words name listed).1 (words name listed).2]
    rfl
  rw [mentions, List.any_eq_true]
  constructor
  · rintro ⟨name, listed, occurs⟩
    obtain ⟨word, member, holds⟩ := (inside name listed).mp occurs
    by_cases same : name.toList = word
    · exact .inl ⟨name, listed, same ▸ member⟩
    · exact .inr ⟨name, listed, word, member, holds, same⟩
  · rintro (⟨name, listed, member⟩ | ⟨name, listed, word, member, holds, -⟩)
    · exact ⟨name, listed, (inside name listed).mpr ⟨_, member, List.infix_refl _⟩⟩
    · exact ⟨name, listed, (inside name listed).mpr ⟨word, member, holds⟩⟩

theorem mentions_append (first second : List String) (text : List Char) :
    mentions (first ++ second) text = (mentions first text || mentions second text) :=
  List.any_append

/-- A name that holds another one is only mentioned where that is mentioned. -/
theorem mentions_of_mentions {names others : List String} (text : List Char)
    (held : ∀ name ∈ names, ∃ other ∈ others, Text.contains name other = true)
    (mentioned : mentions names text = true) : mentions others text = true := by
  rw [mentions, List.any_eq_true] at mentioned ⊢
  obtain ⟨name, listed, occurs⟩ := mentioned
  obtain ⟨other, listed', inside⟩ := held name listed
  rw [Text.contains, Text.occursIn_iff_infix] at inside
  rw [Text.occursIn_iff_infix] at occurs
  exact ⟨other, listed', (Text.occursIn_iff_infix _ _).mpr (inside.trans occurs)⟩

/-! ### Languages -/

/-- The words for the language that is meant where none is named. -/
def mainWords : List String :=
  ["python", "pytest", "django", "flask"]

/-- The words for other languages. -/
def otherWords : List String :=
  ["javascript", "js", "node", "npm", "react", "typescript", "ts", "tsx", "java", "spring", "maven"]

theorem isWord_of_listed : ∀ name ∈ mainWords ++ otherWords, IsWord name.toList := by
  have table : ∀ name ∈ mainWords ++ otherWords,
      name.toList.isEmpty = false ∧ name.toList.all Text.isWordChar = true := by decide
  intro name listed
  obtain ⟨written, chars⟩ := table name listed
  exact ⟨by simpa using written, List.all_eq_true.mp chars⟩

/-- A language other than the main one is found just if a word for one is in the text somewhere, and
neither a word for the main one nor the ending of its files. -/
theorem languageIn_eq_python_iff (text : List Char) :
    languageIn text = .python ↔
      mentions (mainWords ++ [".py"]) text = true ∨ mentions otherWords text = false := by
  have main : mentions ["python", ".py", "pytest", "django", "flask"] text =
      mentions (mainWords ++ [".py"]) text := by
    rw [Bool.eq_iff_iff]
    exact ⟨mentions_of_mentions text (by decide), mentions_of_mentions text (by decide)⟩
  have others : mentions otherWords text =
      (mentions ["javascript", "js", ".js", "node", "npm", "react"] text ||
        mentions ["typescript", "ts", ".ts", "tsx"] text ||
        mentions ["java", ".java", "spring", "maven"] text) := by
    rw [← mentions_append, ← mentions_append, Bool.eq_iff_iff]
    exact ⟨mentions_of_mentions text (by decide), mentions_of_mentions text (by decide)⟩
  rw [languageIn, main, others]
  cases mentions (mainWords ++ [".py"]) text with
  | true => simp
  | false =>
    cases mentions ["javascript", "js", ".js", "node", "npm", "react"] text with
    | true => simp
    | false =>
      cases mentions ["typescript", "ts", ".ts", "tsx"] text with
      | true => simp
      | false => cases mentions ["java", ".java", "spring", "maven"] text <;> simp

/-- The language of a text that names none is the main one just if the text has the ending of its
files, or hides a word for it, or hides no word for another one. -/
def MeansMain (text : List Char) : Prop :=
  mentions [".py"] text = true ∨ HidesOne mainWords text ∨ ¬ HidesOne otherWords text

theorem languageIn_unnamed {text : List Char} (unnamed : ¬ NamesOne (mainWords ++ otherWords) text) :
    languageIn text = .python ↔ MeansMain text := by
  have noMain : ¬ NamesOne mainWords text := by
    rintro ⟨name, listed, member⟩
    exact unnamed ⟨name, List.mem_append_left _ listed, member⟩
  have noOther : ¬ NamesOne otherWords text := by
    rintro ⟨name, listed, member⟩
    exact unnamed ⟨name, List.mem_append_right _ listed, member⟩
  have mains : ∀ name ∈ mainWords, IsWord name.toList :=
    fun name listed => isWord_of_listed name (List.mem_append_left _ listed)
  have others : ∀ name ∈ otherWords, IsWord name.toList :=
    fun name listed => isWord_of_listed name (List.mem_append_right _ listed)
  rw [languageIn_eq_python_iff, mentions_append, Bool.or_eq_true, mentions_iff mains,
    ← Bool.not_eq_true, mentions_iff others, or_iff_right noMain, or_iff_right noOther, MeansMain]
  constructor
  · rintro ((hides | ending) | none)
    · exact .inr (.inl hides)
    · exact .inl ending
    · exact .inr (.inr none)
  · rintro (ending | hides | none)
    · exact .inl (.inr ending)
    · exact .inl (.inl hides)
    · exact .inr none

/-! ### Tests -/

/-- The run of the tests of the main language, of a file if one is given. -/
def mainTests (file : Option String) : Call :=
  match given? (file.map CodeText.ofString) with
  | some file => .shell s!"pytest {file.shown} -v" testTimeout []
  | none => .shell "pytest -v" testTimeout []

/-- The run of the tests of two of the other languages. -/
def scriptTests : Call :=
  .shell "npm test" testTimeout []

theorem language_of_intentByPhrasing {text : String} {i : Intent}
    (parsed : intentByPhrasing text = .ok i) :
    i.entities.language = some (languageIn text.toList) := by
  rw [intentByPhrasing, entitiesIn] at parsed
  cases line : lineIn text.toList with
  | error f =>
    rw [line] at parsed
    cases parsed
  | ok number =>
    rw [line] at parsed
    obtain rfl := Except.ok.inj parsed
    rfl

/-- The handler for tests runs those of the language, where it knows them. -/
theorem calls_tests (root : Folder) {text : String} {i : Intent}
    (parsed : intentByPhrasing text = .ok i) :
    (languageIn text.toList = .python →
      Handler.tests.calls root i.entities = [mainTests (fileIn text.toList)]) ∧
    (languageIn text.toList ≠ .python →
      Handler.tests.calls root i.entities = [scriptTests] ∨
        Handler.tests.calls root i.entities = []) := by
  have language := language_of_intentByPhrasing parsed
  have file := file_of_intentByPhrasing parsed
  rw [Handler.calls, testCommand?, language, file, mainTests]
  constructor
  · intro main
    rw [main]
    cases given? ((fileIn text.toList).map CodeText.ofString) <;> rfl
  · intro other
    cases found : languageIn text.toList with
    | python => exact absurd found other
    | javascript | typescript => exact .inl rfl
    | java | unknown => exact .inr rfl

/-- Without a key, a request to route a sentence that asks for tests runs what the handler runs. -/
theorem calls_route_tests (s : Session) (body : Json) (arguments : List (CodeText × Json))
    (q : IntentRequest) (i : Intent) (keyless : s.hasKey = false)
    (handled : s.router.handler? .runTests = some .tests)
    (valid : IntentRequest.ofJson body = .ok q) (parsed : intentByPhrasing q.text.shown = .ok i)
    (asked : i.kind = .runTests) :
    ((Endpoint.route.answer body arguments).runIn s).2.calls =
      s.calls ++ Handler.tests.calls s.root i.entities := by
  have free : IntentKind.runTests ∉ HandlerTable.changing := by decide
  rw [calls_route_keyless valid arguments s keyless, parsed, Except.toOption, Option.elim_some,
    Router.calls, asked, if_neg free, handled, Option.elim_some]

/-- A text that has no word for a language is taken to be about the main one just if it has the
ending of its files, or hides a word for it, or hides none for another one. Without a key, such a
text that asks for tests runs those of the main language in that case, and otherwise others or
none. -/
theorem unnamed_language_iff (text : String)
    (unnamed : ¬ NamesOne (mainWords ++ otherWords) text.toList) :
    (languageIn text.toList = .python ↔ MeansMain text.toList) ∧
    ∀ (s : Session) (body : Json) (arguments : List (CodeText × Json)) (q : IntentRequest)
      (i : Intent), s.hasKey = false → s.router.handler? .runTests = some .tests →
      IntentRequest.ofJson body = .ok q → q.text.shown = text → intentByPhrasing text = .ok i →
      i.kind = .runTests →
      ∃ made, ((Endpoint.route.answer body arguments).runIn s).2.calls = s.calls ++ made ∧
        (MeansMain text.toList → made = [mainTests (fileIn text.toList)]) ∧
        (¬ MeansMain text.toList → made = [scriptTests] ∨ made = []) := by
  have means := languageIn_unnamed unnamed
  refine ⟨means, ?_⟩
  rintro s body arguments q i keyless handled valid rfl parsed asked
  obtain ⟨main, other⟩ := calls_tests s.root parsed
  rw [means] at main
  rw [Ne, means] at other
  exact ⟨_, calls_route_tests s body arguments q i keyless handled valid parsed asked, main, other⟩

/-- A request to run a test. -/
def oneTestBody : Json :=
  .obj [("text", .str "run test in a.py")]

theorem unnamed_language_iff_oneTest :
    ¬ NamesOne (mainWords ++ otherWords) "run test in a.py".toList ∧
      withoutKey.hasKey = false ∧ withoutKey.router.handler? .runTests = some .tests ∧
      (∃ q, IntentRequest.ofJson oneTestBody = .ok q ∧ q.text.shown = "run test in a.py") ∧
      (∃ i, intentByPhrasing "run test in a.py" = .ok i ∧ i.kind = .runTests) ∧
      languageIn "run test in a.py".toList = .python ∧
      ((Endpoint.route.answer oneTestBody []).runIn withoutKey).2.calls =
        [.shell "pytest a.py -v" testTimeout []] := by
  have unnamed : ¬ NamesOne (mainWords ++ otherWords) "run test in a.py".toList := by decide
  have keyless : withoutKey.hasKey = false := by decide
  have handled : withoutKey.router.handler? .runTests = some .tests := rfl
  obtain ⟨q, valid, told⟩ :
      ∃ q, IntentRequest.ofJson oneTestBody = .ok q ∧ q.text.shown = "run test in a.py" :=
    ⟨_, rfl, rfl⟩
  obtain ⟨i, parsed, asked⟩ :
      ∃ i, intentByPhrasing "run test in a.py" = .ok i ∧ i.kind = .runTests := ⟨_, rfl, rfl⟩
  obtain ⟨means, routed⟩ := unnamed_language_iff "run test in a.py" unnamed
  have ending : MeansMain "run test in a.py".toList := .inl (by decide)
  obtain ⟨made, calls, main, -⟩ :=
    routed withoutKey oneTestBody [] q i keyless handled valid told parsed asked
  refine ⟨unnamed, keyless, handled, ⟨q, valid, told⟩, ⟨i, parsed, asked⟩, means.mpr ending, ?_⟩
  rw [calls, main ending]
  rfl

/-- A request to run the tests. -/
def allTestsBody : Json :=
  .obj [("text", .str "run the tests")]

/-- The request has no word for a language, but its last word hides one. -/
theorem tests_hide_language :
    ¬ NamesOne (mainWords ++ otherWords) "run the tests".toList ∧
      (detectIntent "run the tests".toList).1 = .runTests ∧
      languageIn "run the tests".toList = .typescript ∧ withoutKey.hasKey = false ∧
      ((Endpoint.route.answer allTestsBody []).runIn withoutKey).2.calls = [scriptTests] := by
  have keyless : withoutKey.hasKey = false := by decide
  have read : IntentRequest.ofJson allTestsBody = .ok ⟨"run the tests", none⟩ := rfl
  exact ⟨by decide, by decide, by decide, keyless,
    (calls_route_keyless read [] withoutKey keyless).trans rfl⟩

end VoiceDebugger
