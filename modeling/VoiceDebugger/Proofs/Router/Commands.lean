import VoiceDebugger.Proofs.Intent.Proper
import VoiceDebugger.Proofs.Lint.Runs
import VoiceDebugger.Proofs.Pattern.Wordy
import VoiceDebugger.Proofs.Router.Gate

/-!
Which commands a sentence can start.

A file that a text names is a bare name: a word, or two with a dot between them. Of a sentence, only
that name reaches a command, and which commands a handler runs is said apart from running it. So
without a chat model nothing that a shell gives a meaning to gets from a sentence into a command.
-/

namespace VoiceDebugger

open VoiceDebugger.Action

/-! ### Bare names -/

/-- Word characters, at least one, and at most one dot, which is neither first nor last. -/
structure BareName (w : List Char) : Prop where
  written : w ≠ []
  chars : ∀ c ∈ w, Text.isWordChar c = true ∨ c = '.'
  oneDot : w.count '.' ≤ 1
  first : w.head? ≠ some '.'
  last : w.getLast? ≠ some '.'

/-- The marks of ASCII besides the dot and the underscore. Quotes, slashes, the dash and all that a
shell gives a meaning to are among them. -/
def shellMarks : List Char :=
  "!\"#$%&'()*+,-/:;<=>?@[\\]^`\x7b|\x7d~".toList

theorem BareName.unmarked {w : List Char} (bare : BareName w) :
    ∀ c ∈ w, Text.isBlank c = false ∧ c ∉ shellMarks := by
  have apart : shellMarks.all (fun c => !Text.isWordChar c) = true := by decide
  intro c member
  rcases bare.chars c member with word | rfl
  · refine ⟨Bool.eq_false_iff.mpr fun blank => ?_, fun mark => ?_⟩
    · rw [Text.isWordChar_of_isBlank blank] at word
      cases word
    · have other := List.all_eq_true.mp apart c mark
      rw [word] at other
      cases other
  · exact ⟨by decide, by decide⟩

/-- A word: word characters, at least one. -/
def IsWord (w : List Char) : Prop :=
  w ≠ [] ∧ ∀ c ∈ w, Text.isWordChar c = true

theorem IsWord.noDot {w : List Char} (word : IsWord w) : '.' ∉ w := by
  have other : Text.isWordChar '.' = false := by decide
  intro dot
  rw [word.2 '.' dot] at other
  cases other

theorem IsWord.bareName {w : List Char} (word : IsWord w) : BareName w where
  written := word.1
  chars c member := .inl (word.2 c member)
  oneDot := by
    rw [List.count_eq_zero.mpr word.noDot]
    exact Nat.zero_le 1
  first dot := word.noDot (List.mem_of_head? dot)
  last dot := word.noDot (List.mem_of_getLast? dot)

theorem IsWord.bareName_dotted {front back : List Char} (first : IsWord front)
    (second : IsWord back) : BareName (front ++ '.' :: back) where
  written := by simp
  chars := by
    intro c member
    rcases List.mem_append.mp member with member | member
    · exact .inl (first.2 c member)
    · rcases List.mem_cons.mp member with dot | member
      · exact .inr dot
      · exact .inl (second.2 c member)
  oneDot := by
    have once : (front ++ '.' :: back).count '.' = 1 := by
      rw [List.count_append, List.count_cons_self, List.count_eq_zero.mpr first.noDot,
        List.count_eq_zero.mpr second.noDot]
    exact Nat.le_of_eq once
  first := by
    rw [List.head?_append_of_ne_nil _ first.1]
    exact fun dot => first.noDot (List.mem_of_head? dot)
  last := by
    rw [List.getLast?_append_of_ne_nil _ (List.cons_ne_nil _ _), List.getLast?_cons_of_ne_nil second.1]
    exact fun dot => second.noDot (List.mem_of_getLast? dot)

namespace Pattern

/-- Whether a pattern reads a word. -/
def readsWord (p : Pattern) : Bool :=
  p.isWordy && p.isReading

/-- Whether a pattern reads two words with a dot between them. -/
def readsDotted : Pattern → Bool
  | .both p (.both (.one (.only c)) q) => c == '.' && p.readsWord && q.readsWord
  | _ => false

theorem isWord_of_reads {p : Pattern} (shape : p.readsWord = true) {read : List Char}
    (reads : p.Reads read) : IsWord read := by
  obtain ⟨wordy, reading⟩ := Bool.and_eq_true_iff.mp shape
  exact ⟨p.reads_reading reading reads, p.reads_wordy wordy reads⟩

theorem bareName_of_reads {p : Pattern} (shape : (p.readsWord || p.readsDotted) = true)
    {read : List Char} (reads : p.Reads read) : BareName read := by
  rcases Bool.or_eq_true_iff.mp shape with shape | shape
  · exact (isWord_of_reads shape reads).bareName
  · unfold readsDotted at shape
    split at shape
    · next p c q =>
      simp only [Bool.and_eq_true, beq_iff_eq] at shape
      obtain ⟨⟨rfl, before⟩, behind⟩ := shape
      obtain ⟨front, _, rfl, first, _, back, rfl, ⟨x, rfl, dot⟩, second⟩ := reads
      obtain rfl : x = '.' := beq_iff_eq.mp dot
      exact (isWord_of_reads before first).bareName_dotted (isWord_of_reads behind second)
    · cases shape

end Pattern

/-- A file that a text names stands in it and has a bare name. -/
theorem bareName_of_fileIn {text : List Char} {file : String} (found : fileIn text = some file) :
    file.toList <:+: text ∧ BareName file.toList := by
  have shapes : ∀ p ∈ filePatterns, ∀ q ∈ p.keeping, (q.readsWord || q.readsDotted) = true := by
    decide +kernel
  obtain ⟨p, known, kept⟩ := List.exists_of_findSome?_eq_some found
  obtain ⟨inside, q, keeps, reads⟩ := Pattern.firstKept?_reads kept
  exact ⟨inside, Pattern.bareName_of_reads (shapes p known q keeps) reads⟩

/-! ### Commands of handlers -/

/-- An action that asks nothing of the world around the session. -/
def Silent {α : Type} (a : Action α) : Prop :=
  ∀ s, (a.runIn s).2.calls = s.calls

theorem Silent.bind {α β : Type} {a : Action α} {f : α → Action β} (first : Silent a)
    (second : ∀ x, Silent (f x)) : Silent (a >>= f) := by
  intro s
  rw [runIn_bind]
  have same := first s
  generalize a.runIn s = ran at same
  obtain ⟨outcome | x, t⟩ := ran
  · exact same
  · exact (second x t).trans same

theorem silent_sharedIndex : Silent sharedIndex := by
  intro s
  rw [sharedIndex, runIn_bind_ok (runIn_get _)]
  split
  · rfl
  · obtain ⟨-, i⟩ := (Index.empty ".").load s.root
    rfl

theorem silent_findSymbols (name : CodeText) (language : Json) :
    Silent (findSymbols name language true) := by
  unfold findSymbols
  split
  · refine .bind (.bind silent_sharedIndex fun _ _ => rfl) fun known s => ?_
    split
    · rfl
    · rfl
  · refine .bind (fun s => ?_) fun suffix s => rfl
    rw [ofLoose, runIn_ofOutcome]

/-- The commands that check a file. -/
def lintCalls (root : Folder) (file : CodeText) : Option Language → List Call
  | some .python =>
    if pathExists root file.shown then [styleCall file.shown, typingCall file.shown] else []
  | some .javascript | some .typescript => [scriptCall (.str file)]
  | _ => []

/-- The commands that a handler runs in a workspace. -/
def Handler.calls (root : Folder) (e : Entities) : Handler → List Call
  | .errors => (given? e.file).elim [] fun file => lintCalls root file e.language
  | .tests => (testCommand? e).toList.map fun command => .shell command testTimeout []
  | _ => []

theorem calls_findErrors (file : CodeText) (e : Entities) (s : Session) :
    ((findErrors (.str file) e.languageValue).runIn s).2.calls =
      s.calls ++ lintCalls s.root file e.language := by
  have nothing : s.calls = s.calls ++ [] := (List.append_nil _).symm
  rw [Entities.languageValue]
  cases e.language with
  | none => exact nothing
  | some language =>
    cases language with
    | python =>
      -- Only here the workspace matters: the checkers run on a file that is there.
      rw [Option.map_some, Json.ofString?, Language.name, findErrors_text, lintCalls]
      cases present : pathExists s.root file.shown with
      | true =>
        rw [runIn_lintSource_present file.shown s present]
        rfl
      | false =>
        rw [runIn_lintSource_absent file.shown s present]
        exact nothing
    | javascript | typescript =>
      change ((lintScript (.str file)).runIn s).2.calls = _
      rw [runIn_lintScript]
      rfl
    | java | unknown => exact nothing

theorem runIn_runCommand (command : String) (timeout : Json) (s : Session) :
    ((runCommand command .null timeout).runIn s).2 = s.noting [.shell command timeout []] := by
  have ran : (runShell command timeout []).runIn s =
      (.ok (outcomeOf ((toolReply? "shell" s.tools).getD (.done "" "" 0))),
        s.noting [.shell command timeout []]) := rfl
  have unset : variablesOf .null = .ok [] := rfl
  rw [runCommand, unset]
  dsimp only
  rw [runIn_bind_ok ran]
  cases (toolReply? "shell" s.tools).getD (.done "" "" 0) <;> rfl

/-- A handler runs its commands and asks nothing else. -/
theorem Handler.calls_answer (h : Handler) (e : Entities) (s : Session) :
    ((h.answer e).runIn s).2.calls = s.calls ++ h.calls s.root e := by
  have nothing : s.calls = s.calls ++ [] := (List.append_nil _).symm
  cases h with
  | symbols =>
    change ((answerSymbols e).runIn s).2.calls = _
    rw [answerSymbols, runIn_map_snd, silent_findSymbols]
    exact nothing
  | errors =>
    change ((answerErrors e).runIn s).2.calls = _
    rw [answerErrors, Handler.calls]
    cases given? e.file with
    | none => exact nothing
    | some file =>
      dsimp only
      rw [runIn_map_snd, calls_findErrors]
      rfl
  | tests =>
    change ((answerTests e).runIn s).2.calls = _
    rw [answerTests, Handler.calls]
    cases testCommand? e with
    | none => exact nothing
    | some command =>
      dsimp only
      rw [runIn_map_snd, runIn_runCommand]
      rfl
  | explanation | fixed _ | failing _ | echo => exact nothing

/-! ### Commands of sentences -/

/-- The commands that have nothing of a sentence in them. -/
def fixedCommands : List Call :=
  [.shell "pytest -v" testTimeout [], .shell "npm test" testTimeout []]

/-- The commands on a file. -/
def fileCommands (file : String) : List Call :=
  [.shell ("pytest " ++ file ++ " -v") testTimeout [], styleCall file, typingCall file,
    scriptCall (.str file)]

theorem eq_of_given? {entry : Option CodeText} {file : CodeText}
    (given : given? entry = some file) : entry = some file := by
  cases entry with
  | none => cases given
  | some name =>
    rw [given?] at given
    split at given
    · cases given
    · exact given

theorem lintCalls_subset (root : Folder) (file : String) (language : Option Language) :
    lintCalls root file language ⊆ fileCommands file := by
  cases language with
  | none => exact List.nil_subset _
  | some language =>
    cases language with
    | python =>
      rw [lintCalls, CodeText.shown_ofString]
      split
      · simp [fileCommands]
      · exact List.nil_subset _
    | javascript | typescript => simp [lintCalls, fileCommands]
    | java | unknown => exact List.nil_subset _

/-- The file that is given is one that the text names. -/
theorem named_of_given? {entry : Option String} {file : CodeText}
    (given : given? (entry.map CodeText.ofString) = some file) :
    ∃ name, entry = some name ∧ file = CodeText.ofString name := by
  obtain ⟨name, found, same⟩ := Option.map_eq_some_iff.mp (eq_of_given? given)
  exact ⟨name, found, same.symm⟩

theorem mem_testCommand? {e : Entities} {entry : Option String} {command : String}
    (named : e.file = entry.map CodeText.ofString) (asked : testCommand? e = some command) :
    .shell command testTimeout [] ∈ fixedCommands ∨
      ∃ file, entry = some file ∧ .shell command testTimeout [] ∈ fileCommands file := by
  unfold testCommand? at asked
  generalize e.language = language at asked
  cases language with
  | none => cases asked
  | some language =>
    cases language with
    | python =>
      dsimp only at asked
      split at asked
      · next file given =>
        obtain rfl := Option.some.inj asked
        rw [named] at given
        obtain ⟨name, found, rfl⟩ := named_of_given? given
        rw [CodeText.shown_ofString]
        exact .inr ⟨name, found, List.mem_cons_self⟩
      · obtain rfl := Option.some.inj asked
        exact .inl List.mem_cons_self
    | javascript | typescript =>
      obtain rfl := Option.some.inj asked
      exact .inl (List.mem_cons_of_mem _ List.mem_cons_self)
    | java | unknown => cases asked

/-- Whatever handler it is, its commands are fixed but for the file that the intent is about. -/
theorem Handler.mem_calls {h : Handler} {root : Folder} {e : Entities} {entry : Option String}
    (named : e.file = entry.map CodeText.ofString) {call : Call} (made : call ∈ h.calls root e) :
    call ∈ fixedCommands ∨ ∃ file, entry = some file ∧ call ∈ fileCommands file := by
  cases h with
  | errors =>
    rw [Handler.calls] at made
    cases given : given? e.file with
    | none =>
      rw [given] at made
      cases made
    | some file =>
      rw [given] at made
      rw [named] at given
      obtain ⟨name, found, rfl⟩ := named_of_given? given
      exact .inr ⟨name, found, lintCalls_subset _ _ _ made⟩
  | tests =>
    obtain ⟨command, asked, rfl⟩ := List.mem_map.mp made
    exact mem_testCommand? named (Option.mem_toList.mp asked)
  | symbols | explanation | fixed _ | failing _ | echo => cases made

open HandlerTable (changing)

/-- The commands that routing an intent runs: none while it waits for a confirmation, else those of
the handler of its kind. -/
def Router.calls (r : Router) (root : Folder) (i : Intent) : List Call :=
  if i.kind ∈ changing then [] else (r.handler? i.kind).elim [] (·.calls root i.entities)

theorem Router.calls_route (r : Router) (i : Intent) (s : Session) :
    ((r.route i true).runIn s).2.calls = s.calls ++ r.calls s.root i := by
  obtain ⟨outcome, handed, s', plain, -, routed⟩ :=
    HandlerTable.routed (fun (h : Handler) about => h.answer about) r i true s
  rw [Router.route, plain, Router.calls]
  split
  · next gated =>
    rw [(routed.waiting ⟨rfl, gated⟩).2.1, List.append_nil]
  · next open_ =>
    have free : ¬ (true = true ∧ i.kind ∈ changing) := fun both => open_ both.2
    cases last : r.handler? i.kind with
    | none => rw [(routed.unhandled free last).2.1, Option.elim_none, List.append_nil]
    | some h =>
      rw [(routed.handled free h last).2.1]
      exact h.calls_answer i.entities s

theorem Router.mem_calls {r : Router} {root : Folder} {i : Intent} {call : Call}
    (made : call ∈ r.calls root i) : ∃ h : Handler, call ∈ h.calls root i.entities := by
  rw [Router.calls] at made
  split at made
  · cases made
  · cases found : r.handler? i.kind with
    | none =>
      rw [found] at made
      cases made
    | some h =>
      rw [found] at made
      exact ⟨h, made⟩

theorem file_of_intentByPhrasing {text : String} {i : Intent}
    (parsed : intentByPhrasing text = .ok i) :
    i.entities.file = (fileIn text.toList).map CodeText.ofString := by
  rw [intentByPhrasing, entitiesIn] at parsed
  cases line : lineIn text.toList with
  | error f =>
    rw [line] at parsed
    cases parsed
  | ok number =>
    rw [line] at parsed
    obtain rfl := Except.ok.inj parsed
    rfl

/-- Without a key, answering a sentence runs the commands for the intent that its phrasing gives. -/
theorem calls_answerRoute_keyless (q : IntentRequest) (s : Session) (keyless : s.hasKey = false) :
    ((answerRoute q).runIn s).2.calls =
      s.calls ++ (intentByPhrasing q.text.shown).toOption.elim [] (s.router.calls s.root) := by
  have parsed := runIn_parseIntent_keyless q.text.shown q.contextValue s keyless
  rw [answerRoute, checkedIntent_eq]
  cases given : intentByPhrasing q.text.shown with
  | error f =>
    rw [given] at parsed
    rw [runIn_bind_error parsed]
    exact (List.append_nil _).symm
  | ok i =>
    rw [given] at parsed
    rw [runIn_bind_ok parsed, runIn_bind_ok (runIn_get _), runIn_map_snd]
    exact s.router.calls_route i s

theorem runIn_guarded_snd (a : Action Json) (s : Session) :
    ((guarded a).runIn s).2 = (a.runIn s).2 := by
  rw [guarded, runIn_bind_ok (runIn_attempt _ _)]
  cases (a.runIn s).1 <;> rfl

/-- The commands of a request to route a sentence, without a key. -/
theorem calls_route_keyless {body : Json} {q : IntentRequest}
    (valid : IntentRequest.ofJson body = .ok q) (arguments : List (CodeText × Json)) (s : Session)
    (keyless : s.hasKey = false) :
    ((Endpoint.route.answer body arguments).runIn s).2.calls =
      s.calls ++ (intentByPhrasing q.text.shown).toOption.elim [] (s.router.calls s.root) := by
  rw [answer_route, valid, runIn_bind_ok (runIn_ofOutcome _ _), runIn_guarded_snd,
    calls_answerRoute_keyless q s keyless]

/-- Without a key, whatever the workspace and the router: all that a request to route a sentence
runs are test runs and checks, either fixed ones or on a bare name that stands in the sentence.
Neither blanks nor marks with a meaning to a shell get into a command that way. -/
theorem offline_commands_bare (s : Session) (keyless : s.hasKey = false) (body : Json)
    (arguments : List (CodeText × Json)) :
    ∃ made, ((Endpoint.route.answer body arguments).runIn s).2.calls = s.calls ++ made ∧
      ∀ call ∈ made, ∃ q, IntentRequest.ofJson body = .ok q ∧
        (call ∈ fixedCommands ∨
          ∃ file : String, file.toList <:+: q.text.shown.toList ∧ BareName file.toList ∧
            (∀ c ∈ file.toList, Text.isBlank c = false ∧ c ∉ shellMarks) ∧
            call ∈ fileCommands file) := by
  cases valid : IntentRequest.ofJson body with
  | error f =>
    rw [answer_route, valid]
    exact ⟨[], (List.append_nil _).symm, fun _ made => by cases made⟩
  | ok q =>
    refine ⟨_, calls_route_keyless valid arguments s keyless, fun call made => ⟨q, rfl, ?_⟩⟩
    cases parsed : intentByPhrasing q.text.shown with
    | error f =>
      rw [parsed] at made
      cases made
    | ok i =>
      rw [parsed] at made
      obtain ⟨h, made⟩ := Router.mem_calls made
      refine (Handler.mem_calls (file_of_intentByPhrasing parsed) made).imp_right ?_
      rintro ⟨file, about, listed⟩
      obtain ⟨inside, bare⟩ := bareName_of_fileIn about
      exact ⟨file, inside, bare, bare.unmarked, listed⟩

/-- A session without a key, with the handlers that are there from the start. -/
def withoutKey : Session where
  clock := { year := 2024, month := 1, day := 2 }
  router := Router.registerDefaults []

/-- A request whose sentence goes on like a command line. -/
def trickyBody : Json :=
  .obj [("text", .str "run tests in a.py;ls")]

theorem offline_commands_bare_withoutKey :
    withoutKey.hasKey = false ∧
    ((Endpoint.route.answer trickyBody []).runIn withoutKey).2.calls =
      [.shell "pytest a.py -v" testTimeout []] ∧
    ∃ q, IntentRequest.ofJson trickyBody = .ok q ∧
      ∃ file : String, file.toList <:+: q.text.shown.toList ∧ BareName file.toList ∧
        (∀ c ∈ file.toList, Text.isBlank c = false ∧ c ∉ shellMarks) ∧
        .shell "pytest a.py -v" testTimeout [] ∈ fileCommands file := by
  have unusable : withoutKey.hasKey = false := by decide
  have read : IntentRequest.ofJson trickyBody = .ok ⟨"run tests in a.py;ls", none⟩ := rfl
  have ran : ((Endpoint.route.answer trickyBody []).runIn withoutKey).2.calls =
      [.shell "pytest a.py -v" testTimeout []] :=
    (calls_route_keyless read [] withoutKey unusable).trans rfl
  obtain ⟨made, noted, harmless⟩ := offline_commands_bare withoutKey unusable trickyBody []
  obtain rfl : _ = made := ran.symm.trans noted
  obtain ⟨q, valid, fixed | named⟩ := harmless _ (List.mem_singleton.mpr rfl)
  · simp [fixedCommands] at fixed
  · exact ⟨unusable, ran, q, valid, named⟩

end VoiceDebugger
