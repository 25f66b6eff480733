import VoiceDebugger.Intent.Parse
import VoiceDebugger.Proofs.Session.Run

/-!
Where a chat model gives no intent, the outcome is the one without a chat model.

The contexts that a chat model can be told are described apart from how they are told. Then a run
with a key is followed along each way in which it can fail, and compared with a run without one.
-/

namespace VoiceDebugger

open VoiceDebugger.Action

/-! ### Contexts -/

/-- Whether a value can be joined as a list of files, as far as it is told. -/
def Joinable : Json → Prop
  | .str _ => True
  | .arr items => ∀ item ∈ items.take toldFiles, ∃ s, item = .str s
  | _ => False

/-- Whether a chat model can be told a context. A list or a text must not seem to have the entries
that are told, and other values have to count as a no. -/
def Tellable : Json → Prop
  | .obj fields => ∀ files, Json.field? "files" fields = some files → Joinable files
  | .arr items => ∀ name ∈ ["files", "current_file"], items.any (·.same (.str name)) = false
  | .str s => ∀ name ∈ ["files", "current_file"], Text.contains s.shown name = false
  | v => v.truthy = false

theorem exists_ok_bind {ε α β : Type} {a : Except ε α} {f : α → Except ε β} :
    (∃ y, (a >>= f) = .ok y) ↔ ∃ x, a = .ok x ∧ ∃ y, f x = .ok y := by
  cases a <;> simp [bind, Except.bind]

theorem textsFrom_ok_iff (index : Nat) (items : List Json) :
    (∃ names, textsFrom index items = .ok names) ↔ ∀ item ∈ items, ∃ s, item = .str s := by
  induction items generalizing index with
  | nil => simp [textsFrom]
  | cons item items ih =>
    cases item with
    | str s =>
      rw [textsFrom, exists_ok_bind, List.forall_mem_cons, ← ih (index + 1)]
      simp [pure, Except.pure]
    | _ => simp [textsFrom]

theorem joined_ok_iff (files : Json) :
    (∃ parts, firstParts toldFiles files = .ok parts ∧ ∃ names, textsFrom 0 parts = .ok names) ↔
      Joinable files := by
  cases files with
  | arr items => simpa [firstParts, Joinable] using textsFrom_ok_iff 0 (items.take toldFiles)
  | str s =>
    simp only [Joinable, iff_true]
    refine ⟨_, rfl, (textsFrom_ok_iff 0 _).mpr fun item member => ?_⟩
    obtain ⟨c, -, rfl⟩ := List.mem_map.mp (List.mem_of_mem_take member)
    exact ⟨_, rfl⟩
  | _ => simp [firstParts, Joinable]

theorem filesText_ok_iff (context : Json) :
    (∃ told, filesText context = .ok told) ↔
      ∃ named, hasName "files" context = .ok named ∧
        (named = true → ∃ files, fieldOf "files" context = .ok files ∧ Joinable files) := by
  simp only [filesText, exists_ok_bind]
  refine exists_congr fun named => and_congr_right fun _ => ?_
  cases named with
  | false => simp [pure, Except.pure]
  | true =>
    simp only [↓reduceIte, exists_ok_bind, forall_const]
    refine exists_congr fun files => and_congr_right fun _ => ?_
    rw [← joined_ok_iff]
    simp [pure, Except.pure]

theorem currentText_ok_iff (context : Json) :
    (∃ told, currentText context = .ok told) ↔
      ∃ named, hasName "current_file" context = .ok named ∧
        (named = true → ∃ file, fieldOf "current_file" context = .ok file) := by
  simp only [currentText, exists_ok_bind]
  refine exists_congr fun named => and_congr_right fun _ => ?_
  cases named with
  | false => simp [pure, Except.pure]
  | true => simp [exists_ok_bind, pure, Except.pure]

theorem tellable_of_falsy (context : Json) (falsy : context.truthy = false) : Tellable context := by
  cases context with
  | obj fields =>
    obtain rfl : fields = [] := by simpa [Json.truthy] using falsy
    rintro files ⟨⟩
  | arr items =>
    obtain rfl : items = [] := by simpa [Json.truthy] using falsy
    exact fun name _ => rfl
  | str s =>
    obtain ⟨codes⟩ := s
    obtain rfl : codes = [] := by simpa [Json.truthy, CodeText.isEmpty] using falsy
    rw [Tellable]
    decide
  | _ => exact falsy

/-- A context can be told exactly if there is a text for it. -/
theorem contextText_ok_iff (context : Json) :
    (∃ told, contextText context = .ok told) ↔ Tellable context := by
  cases truthy : context.truthy with
  | false => simp [contextText, truthy, tellable_of_falsy context truthy, pure, Except.pure]
  | true =>
    have parts : (∃ told, contextText context = .ok told) ↔
        (∃ told, filesText context = .ok told) ∧ ∃ told, currentText context = .ok told := by
      simp [contextText, truthy, exists_ok_bind, pure, Except.pure]
    rw [parts, filesText_ok_iff, currentText_ok_iff]
    cases context with
    | obj fields =>
      simp only [hasName, fieldOf, Tellable]
      cases Json.field? "current_file" fields <;> cases Json.field? "files" fields <;> simp
    | arr items => simp [hasName, fieldOf, Tellable]
    | str s => simp [hasName, fieldOf, Tellable]
    | _ => simp [hasName, Tellable, truthy]

/-! ### Replies -/

/-- The intent that a reply of a chat model stands for, if it stands for one. -/
def ChatReply.intent? : ChatReply → Option Intent
  | .content (some written) => do
    let v ← (Json.parseString written).toOption
    (Intent.ofJson v).toOption
  | _ => none

/-- What is asked of a chat model goes out once, and its next reply decides. -/
theorem runIn_chat (r : ChatRequest) (s : Session) :
    (chat r).runIn s =
      (match s.chats.head? with
        | some (.content text) => .ok text
        | some .noChoice => .error (.loose .indexRange)
        | some (.broken m) => .error (.broken m)
        | none => .error (unanswered "llm"),
        { s with calls := s.calls ++ [.chat r], chats := s.chats.tail }) := by
  obtain ⟨_, _, _, _, chats⟩ := s
  rcases chats with _ | ⟨_ | _ | _, _⟩ <;> rfl

theorem runIn_intentByChat (text told : String) (s : Session) :
    ((intentByChat text told).runIn s).1.toOption = s.chats.head?.bind ChatReply.intent? ∧
      ∃ request, ((intentByChat text told).runIn s).2.calls = s.calls ++ [.chat request] := by
  unfold intentByChat
  rw [runIn_bind, runIn_chat]
  rcases s.chats.head? with _ | (_ | written) | _ | _
  · exact ⟨rfl, _, rfl⟩
  · exact ⟨rfl, _, rfl⟩
  · dsimp only
    rw [runIn_bind, runIn_ofOutcome, replyValue, Option.bind_some, ChatReply.intent?]
    cases Json.parseString written with
    | error f => exact ⟨rfl, _, rfl⟩
    | ok v =>
      change ((ofOutcome (Intent.ofJson v)).runIn _).1.toOption = (Intent.ofJson v).toOption ∧
        ∃ request, ((ofOutcome (Intent.ofJson v)).runIn _).2.calls = s.calls ++ [.chat request]
      rw [runIn_ofOutcome]
      exact ⟨rfl, _, rfl⟩
  · exact ⟨rfl, _, rfl⟩
  · exact ⟨rfl, _, rfl⟩

/-! ### Degraded runs -/

/-- Without a key the phrasing decides, and nothing is asked. -/
theorem runIn_parseIntent_keyless (text : String) (context : Json) (s : Session)
    (keyless : s.hasKey = false) :
    (parseIntent text context).runIn s = (intentByPhrasing text, s) := by
  have asked : hasKey.runIn s = (.ok false, s) := by rw [← keyless]; rfl
  rw [parseIntent, runIn_bind_ok asked]
  exact runIn_ofOutcome _ _

/-- Asking a chat model ends with its intent, or as the phrasing says. -/
theorem runIn_intentByService (text : String) (context : Json) (s : Session) :
    (¬ Tellable context →
      (∃ f, ((intentByService text context).runIn s).1 = .error f) ∧
        ((intentByService text context).runIn s).2 = s) ∧
    (Tellable context →
      ((intentByService text context).runIn s).1 =
          ((s.chats.head?.bind ChatReply.intent?).map .ok).getD (intentByPhrasing text) ∧
        ∃ request, ((intentByService text context).runIn s).2.calls = s.calls ++ [.chat request]) := by
  rw [← contextText_ok_iff]
  unfold intentByService
  cases contextText context with
  | error fault =>
    refine ⟨fun _ => ⟨⟨_, rfl⟩, rfl⟩, ?_⟩
    rintro ⟨told, ⟨⟩⟩
  | ok told =>
    refine ⟨fun untold => absurd ⟨told, rfl⟩ untold, fun _ => ?_⟩
    have given : (ofLoose (.ok told)).runIn s = (.ok told, s) := rfl
    rw [runIn_bind_ok given, runIn_bind_ok (runIn_attempt _ _)]
    obtain ⟨replied, asked⟩ := runIn_intentByChat text told s
    rw [← replied]
    cases ((intentByChat text told).runIn s).1 with
    | ok i => exact ⟨rfl, asked⟩
    | error f =>
      rw [runIn_bind_ok (runIn_say _ _), runIn_ofOutcome]
      exact ⟨rfl, asked⟩

/-- With a key the next reply decides, where it can be asked for and stands for an intent. -/
theorem runIn_parseIntent_keyed (text : String) (context : Json) (s : Session)
    (usable : s.hasKey = true) :
    (¬ Tellable context →
      ((parseIntent text context).runIn s).1 = intentByPhrasing text ∧
        ((parseIntent text context).runIn s).2.calls = s.calls) ∧
    (Tellable context →
      ((parseIntent text context).runIn s).1 =
          ((s.chats.head?.bind ChatReply.intent?).map .ok).getD (intentByPhrasing text) ∧
        ∃ request, ((parseIntent text context).runIn s).2.calls = s.calls ++ [.chat request]) := by
  have asked : hasKey.runIn s = (.ok true, s) := by rw [← usable]; rfl
  obtain ⟨silent, served⟩ := runIn_intentByService text context s
  rw [parseIntent, runIn_bind_ok asked]
  simp only [↓reduceIte]
  rw [runIn_bind_ok (runIn_attempt _ _)]
  constructor
  · intro untold
    obtain ⟨⟨f, failed⟩, unchanged⟩ := silent untold
    rw [failed, unchanged]
    dsimp only
    rw [runIn_bind_ok (runIn_say _ _), runIn_ofOutcome]
    exact ⟨rfl, rfl⟩
  · intro told
    obtain ⟨outcome, asked⟩ := served told
    rw [← outcome]
    cases ran : ((intentByService text context).runIn s).1 with
    | ok i => exact ⟨rfl, asked⟩
    | error f =>
      -- The service has failed because the phrasing has; it is tried again and fails in the same
      -- way.
      have again : intentByPhrasing text = .error f := by
        rw [ran] at outcome
        cases replied : s.chats.head?.bind ChatReply.intent? with
        | some i => simp [replied] at outcome
        | none => simpa [replied] using outcome.symm
      dsimp only
      rw [runIn_bind_ok (runIn_say _ _), runIn_ofOutcome, again]
      exact ⟨rfl, asked⟩

/-- With a key, at most one question goes out. If there is a reply that stands for an intent, that
is the outcome. Whatever else happens, the outcome is the one without a key; that is so without any
question where the files of the context cannot be joined. -/
theorem degraded_as_offline (text : String) (context : Json) (s : Session)
    (usable : s.hasKey = true) :
    ∃ outcome t, (parseIntent text context).runIn s = (outcome, t) ∧
      (Tellable context → ∃ request, t.calls = s.calls ++ [.chat request]) ∧
      (¬ Tellable context → t.calls = s.calls) ∧
      (∀ i, Tellable context → s.chats.head?.bind ChatReply.intent? = some i → outcome = .ok i) ∧
      ((Tellable context → s.chats.head?.bind ChatReply.intent? = none) →
        ∀ (k : Session) (other : Json), k.hasKey = false →
          outcome = ((parseIntent text other).runIn k).1) ∧
      (∀ fields files, context = .obj fields → Json.field? "files" fields = some files →
        ¬ Joinable files →
          t.calls = s.calls ∧ ∀ (k : Session) (other : Json), k.hasKey = false →
            outcome = ((parseIntent text other).runIn k).1) := by
  obtain ⟨silent, served⟩ := runIn_parseIntent_keyed text context s usable
  have offline : ∀ (k : Session) (other : Json), k.hasKey = false →
      ((parseIntent text other).runIn k).1 = intentByPhrasing text := by
    intro k other keyless
    rw [runIn_parseIntent_keyless text other k keyless]
  generalize (parseIntent text context).runIn s = ran at silent served
  obtain ⟨outcome, t⟩ := ran
  dsimp only at silent served
  refine ⟨outcome, t, rfl, fun told => (served told).2, fun untold => (silent untold).2, ?_, ?_, ?_⟩
  · intro i told replied
    rw [(served told).1, replied]
    rfl
  · intro unserved k other keyless
    rw [offline k other keyless]
    by_cases told : Tellable context
    · rw [(served told).1, unserved told]
      rfl
    · exact (silent told).1
  · rintro fields files rfl found unjoinable
    obtain ⟨same, calls⟩ := silent fun told => unjoinable (told files found)
    refine ⟨calls, fun k other keyless => ?_⟩
    rw [offline k other keyless, same]

/-- A session with a key and a chat model that replies without a choice. -/
def poorlyServed : Session where
  clock := { year := 2024, month := 1, day := 2 }
  apiKey := some "key"
  chats := [.noChoice]

theorem degraded_as_offline_poorlyServed :
    poorlyServed.hasKey = true ∧
    ∃ outcome t, (parseIntent "run tests" .null).runIn poorlyServed = (outcome, t) ∧
      (∃ request, t.calls = [.chat request]) ∧
      outcome = ((parseIntent "run tests" .null).runIn { poorlyServed with apiKey := none }).1 := by
  have usable : poorlyServed.hasKey = true := by decide
  obtain ⟨outcome, t, ran, asked, -, -, offline, -⟩ :=
    degraded_as_offline "run tests" .null poorlyServed usable
  exact ⟨usable, outcome, t, ran, asked rfl, offline (fun _ => rfl) _ _ rfl⟩

end VoiceDebugger
